import Chassis.Data.Byte
import Chassis.Data.List
import Chassis.Data.ObjectPath
import Chassis.Effect.Trust
import Chassis.Proof.Manager.Bounds
import Chassis.Proof.Manager.SensorAlarm

namespace Chassis.Vita4611
open Data Effect Program

/-- Each hyphen of the name becomes an underscore. -/
def SensorRecord.sanitizedName (sensor : SensorRecord) : List UInt8 :=
  sensor.sdrName.map fun byte => if byte = 0x2D then 0x5F else byte

/-- A sensor of a known unit has a path for its object. -/
def SensorRecord.objectPath (sensor : SensorRecord) (num : UInt8) : Option (List UInt8) :=
  (sensorGroup sensor.sdrUnits).map fun entry => sensorPath entry.1 sensor.sdrName num

namespace ChassisManager

def sensorAt (manager : ChassisManager) (key : UInt8) (index : Nat) : Option SensorRecord :=
  match manager.deviceMap key with
  | some (some device) => device.fruinfo.sensors[index]?
  | _ => none

def pathAt (manager : ChassisManager) (key : UInt8) (index : Nat) : Option (List UInt8) :=
  (manager.sensorAt key index).bind fun sensor => sensor.objectPath key

def HasObject (manager : ChassisManager) (key : UInt8) (index : Nat) : Prop :=
  ∃ sensor, manager.sensorAt key index = some sensor ∧ sensor.sensorIface.isSome

end ChassisManager

/-- The path that a call names for a new object, and whether the object was created. -/
def creation : Exchange interface → Option (List UInt8 × Bool)
  | ⟨.createSensorObject path, created⟩ => some (path, created)
  | _ => none

def requested (exchanges : List (Exchange interface)) : List (List UInt8) :=
  exchanges.filterMap fun exchange => (creation exchange).map Prod.fst

/-- The bus creates an object at every valid path that no earlier call named. -/
def CreatesFresh (past : List (Exchange interface)) (exchange : Exchange interface) : Prop :=
  ∀ path created, creation exchange = some (path, created) → ValidPath path →
    path ∉ requested past → created = true

/-- The sensors of a known unit have valid paths, and no two of them have the same one. -/
structure PathsFit (manager : ChassisManager) : Prop where
  valid : ∀ key index path, manager.pathAt key index = some path → ValidPath path
  distinct : ∀ key index other position path, manager.pathAt key index = some path →
    manager.pathAt other position = some path → key = other ∧ index = position

/-- Every sensor of a known unit has a valid path of its own, and on a bus that creates an object at
each new valid path every run gives it an object, unless the run reaches undefined behaviour. -/
structure Exposable [Libm] (manager : ChassisManager) : Prop extends PathsFit manager where
  exposed : ∀ environment position, let run := exposeFruSensors.run environment manager position
    (∀ reason, run.outcome ≠ .fault reason) → Trusted CreatesFresh [] run.exchanges →
      ∀ key index path, manager.pathAt key index = some path → run.state.HasObject key index

/-- With an underscore for each hyphen the names are parts of paths, and the names in one group of
one device differ. -/
structure NamesFit (manager : ChassisManager) : Prop where
  plain : ∀ key index sensor, manager.sensorAt key index = some sensor →
    (sensorGroup sensor.sdrUnits).isSome → PathName sensor.sanitizedName
  apart : ∀ key index position first second, manager.sensorAt key index = some first →
    manager.sensorAt key position = some second → (sensorGroup first.sdrUnits).isSome →
    sensorGroup first.sdrUnits = sensorGroup second.sdrUnits →
    first.sanitizedName = second.sanitizedName → index = position

section Paths

/-- The groups with their units. -/
def sensorGroups : List (String × String) :=
  [("temperature/", "DegreesC"), ("voltage/", "Volts"), ("current/", "Amperes"), ("power/", "Watts")]

/-- What stands between the first slash of a path and the name. -/
def pathFront (group : String) : List UInt8 :=
  ("xyz/openbmc_project/sensors/" ++ group).toUTF8.toList

theorem sensorGroup_mem {units : String} {entry : String × String}
    (known : sensorGroup units = some entry) : entry ∈ sensorGroups := by
  unfold sensorGroup at known
  split_ifs at known
  all_goals
    cases known
    decide

theorem sensorPath_eq {entry : String × String} (known : entry ∈ sensorGroups) (num : UInt8)
    (sensor : SensorRecord) :
    sensorPath entry.1 sensor.sdrName num =
      slash :: (pathFront entry.1 ++ sensor.sanitizedName ++ 0x5F :: decimalText num) := by
  have front : ∀ entry ∈ sensorGroups, ("/xyz/openbmc_project/sensors/" ++ entry.1).toUTF8.toList =
      slash :: pathFront entry.1 := by decide +kernel
  have last := forall_byte (fun num =>
    ("_" ++ toString num.toNat).toUTF8.toList == 0x5F :: decimalText num) (by decide +kernel) num
  rw [sensorPath, front entry known, beq_iff_eq.mp last]
  rfl

theorem pathFront_opens {entry : String × String} (known : entry ∈ sensorGroups) :
    scanPath true (pathFront entry.1) = some true := by
  have checked : ∀ entry ∈ sensorGroups, scanPath true (pathFront entry.1) = some true := by
    decide +kernel
  exact checked entry known

/-- The first letter of the group tells the groups apart. -/
theorem pathFront_inj {first second : String × String} (known : first ∈ sensorGroups)
    (known' : second ∈ sensorGroups) {rest rest' : List UInt8}
    (same : pathFront first.1 ++ rest = pathFront second.1 ++ rest') : first = second := by
  have long : ∀ entry ∈ sensorGroups, 28 < (pathFront entry.1).length := by decide +kernel
  have letters : ∀ first ∈ sensorGroups, ∀ second ∈ sensorGroups,
      (pathFront first.1)[28]? = (pathFront second.1)[28]? → first = second := by decide +kernel
  have letter := congrArg (·[28]?) same
  simp only [List.getElem?_append_left (long _ known),
    List.getElem?_append_left (long _ known')] at letter
  exact letters first known second known' letter

theorem lastElement_valid (num : UInt8) : ValidElement (0x5F :: decimalText num) where
  nonempty := List.cons_ne_nil _ _
  bytes := by
    rw [List.forall_mem_cons]
    refine ⟨by decide, fun digit member => ?_⟩
    have bounds := decimalText_digits num digit member
    simp [isElementByte, bounds.1, bounds.2]

theorem underscore_not_digit (num : UInt8) : 0x5F ∉ decimalText num :=
  fun member => absurd (decimalText_digits num _ member) (by decide)

theorem sensorPath_valid_iff {entry : String × String} (known : entry ∈ sensorGroups) (num : UInt8)
    (sensor : SensorRecord) :
    ValidPath (sensorPath entry.1 sensor.sdrName num) ↔ PathName sensor.sanitizedName := by
  rw [sensorPath_eq known]
  exact validPath_append_iff (pathFront_opens known) (lastElement_valid num)

/-- A path names its group, the name and the device. -/
theorem sensorPath_inj_iff {first second : String × String} (known : first ∈ sensorGroups)
    (known' : second ∈ sensorGroups) (num other : UInt8) (sensor sensor' : SensorRecord) :
    sensorPath first.1 sensor.sdrName num = sensorPath second.1 sensor'.sdrName other ↔
      first = second ∧ sensor.sanitizedName = sensor'.sanitizedName ∧ num = other := by
  rw [sensorPath_eq known, sensorPath_eq known', List.append_assoc, List.append_assoc]
  constructor
  · intro same
    have rests := (List.cons_eq_cons.mp same).2
    obtain rfl := pathFront_inj known known' rests
    obtain ⟨names, texts⟩ := append_cons_inj_last (underscore_not_digit num)
      (underscore_not_digit other) (List.append_cancel_left rests)
    exact ⟨rfl, names, decimalText_injective texts⟩
  · rintro ⟨rfl, names, rfl⟩
    rw [names]

theorem pathAt_eq_some_iff {manager : ChassisManager} {key : UInt8} {index : Nat}
    {path : List UInt8} : manager.pathAt key index = some path ↔
      ∃ sensor entry, manager.sensorAt key index = some sensor ∧
        sensorGroup sensor.sdrUnits = some entry ∧ sensorPath entry.1 sensor.sdrName key = path := by
  unfold ChassisManager.pathAt SensorRecord.objectPath
  simp only [Option.bind_eq_some_iff, Option.map_eq_some_iff]
  exact ⟨fun ⟨sensor, stored, entry, known, same⟩ => ⟨sensor, entry, stored, known, same⟩,
    fun ⟨sensor, entry, stored, known, same⟩ => ⟨sensor, stored, entry, known, same⟩⟩

/-- The paths are valid and distinct exactly when the names fit. -/
theorem pathsFit_iff (manager : ChassisManager) : PathsFit manager ↔ NamesFit manager := by
  constructor
  · rintro ⟨valid, distinct⟩
    constructor
    · intro key index sensor stored unit
      obtain ⟨entry, known⟩ := Option.isSome_iff_exists.mp unit
      have path := valid key index _ (pathAt_eq_some_iff.mpr ⟨sensor, entry, stored, known, rfl⟩)
      exact (sensorPath_valid_iff (sensorGroup_mem known) key sensor).mp path
    · intro key index position first second stored stored' unit units names
      obtain ⟨entry, known⟩ := Option.isSome_iff_exists.mp unit
      have known' := units.symm.trans known
      have paths := (sensorPath_inj_iff (sensorGroup_mem known) (sensorGroup_mem known') key key
        first second).mpr ⟨rfl, names, rfl⟩
      exact (distinct key index key position _
        (pathAt_eq_some_iff.mpr ⟨first, entry, stored, known, rfl⟩)
        (pathAt_eq_some_iff.mpr ⟨second, entry, stored', known', paths.symm⟩)).2
  · rintro ⟨plain, apart⟩
    constructor
    · intro key index path built
      obtain ⟨sensor, entry, stored, known, rfl⟩ := pathAt_eq_some_iff.mp built
      exact (sensorPath_valid_iff (sensorGroup_mem known) key sensor).mpr
        (plain key index sensor stored (Option.isSome_of_eq_some known))
    · intro key index other position path built built'
      obtain ⟨first, entry, stored, known, rfl⟩ := pathAt_eq_some_iff.mp built
      obtain ⟨second, entry', stored', known', same⟩ := pathAt_eq_some_iff.mp built'
      obtain ⟨rfl, names, rfl⟩ := (sensorPath_inj_iff (sensorGroup_mem known')
        (sensorGroup_mem known) other key second first).mp same
      exact ⟨rfl, apart other index position first second stored stored'
        (Option.isSome_of_eq_some known) (known.trans known'.symm) names.symm⟩

end Paths

/-- So far the sensors passed have objects, and only their paths were requested. The paths are those
of the start. -/
structure Progress (start : ChassisManager) (passed : UInt8 → Nat → Prop)
    (past : List (Exchange interface)) (manager : ChassisManager) : Prop where
  paths : manager.pathAt = start.pathAt
  objects : ∀ key index path, start.pathAt key index = some path → passed key index →
    manager.HasObject key index
  requests : ∀ path ∈ requested past, ∃ key index, start.pathAt key index = some path ∧
    passed key index

section Runs

variable {start manager : ChassisManager} {passed : UInt8 → Nat → Prop}
  {past : List (Exchange interface)} {device : Vita4611Device} {key : UInt8}

/-- Only the sensors with a path count. -/
theorem Progress.pass (reached : Progress start passed past manager) {after : UInt8 → Nat → Prop}
    (same : ∀ key index path, start.pathAt key index = some path →
      (passed key index ↔ after key index)) : Progress start after past manager where
  paths := reached.paths
  objects key index path built now :=
    reached.objects key index path built ((same key index path built).mpr now)
  requests path asked := by
    obtain ⟨key, index, built, before⟩ := reached.requests path asked
    exact ⟨key, index, built, (same key index path built).mp before⟩

/-- A call that creates no object leaves the requests alone. -/
theorem Progress.call (reached : Progress start passed past manager)
    (exchange : Exchange interface) (other : creation exchange = none) :
    Progress start passed (past ++ [exchange]) manager := by
  have same : requested (past ++ [exchange]) = requested past := by
    rw [requested, List.filterMap_append, List.filterMap_cons, other]
    simp [requested]
  exact ⟨reached.paths, reached.objects, same ▸ reached.requests⟩

theorem sensorAt_setDevice (other : UInt8) (index : Nat) :
    (manager.setDevice key (some device)).sensorAt other index =
      if other = key then device.fruinfo.sensors[index]? else manager.sensorAt other index := by
  unfold ChassisManager.sensorAt ChassisManager.setDevice
  by_cases own : other = key
  · subst own
    simp
  · simp [own]

variable {before : SensorRecord} {index : Nat}
  (present : device.fruinfo.sensors[index]? = some before)
include present

theorem sensorAt_setSensors (after : SensorRecord) (other : UInt8) (position : Nat) :
    (manager.setDevice key (some (device.setSensors (device.fruinfo.sensors.set index
      after)))).sensorAt other position =
      if other = key ∧ position = index then some after
      else (manager.setDevice key (some device)).sensorAt other position := by
  have inside := (List.getElem?_eq_some_iff.mp present).1
  rw [sensorAt_setDevice, sensorAt_setDevice]
  change (if other = key then (device.fruinfo.sensors.set index after)[position]? else _) = _
  by_cases own : other = key
  · by_cases here : position = index
    · subst here
      simp [own, inside]
    · simp [own, here, List.getElem?_set_ne (Ne.symm here)]
  · simp [own]

/-- A sensor that keeps its path and its object changes nothing. -/
theorem Progress.replace
    (reached : Progress start passed past (manager.setDevice key (some device)))
    (after : SensorRecord) (path : after.objectPath key = before.objectPath key)
    (object : before.sensorIface.isSome → after.sensorIface.isSome) :
    Progress start passed past (manager.setDevice key (some (device.setSensors
      (device.fruinfo.sensors.set index after)))) where
  paths := by
    rw [← reached.paths]
    funext other position
    unfold ChassisManager.pathAt
    rw [sensorAt_setSensors present]
    split
    next here =>
      obtain ⟨rfl, rfl⟩ := here
      rw [sensorAt_setDevice, if_pos rfl, present, Option.bind_some, Option.bind_some, path]
    next => rfl
  objects other position path built visited := by
    obtain ⟨sensor, stored, object'⟩ := reached.objects other position path built visited
    unfold ChassisManager.HasObject
    rw [sensorAt_setSensors present]
    split
    next here =>
      obtain ⟨rfl, rfl⟩ := here
      rw [sensorAt_setDevice, if_pos rfl, present] at stored
      cases stored
      exact ⟨after, rfl, object object'⟩
    next => exact ⟨sensor, stored, object'⟩
  requests := reached.requests

/-- A sensor that gets its object is passed. -/
theorem Progress.create
    (reached : Progress start passed past (manager.setDevice key (some device)))
    (after : SensorRecord) (path : after.objectPath key = before.objectPath key)
    (object : after.sensorIface.isSome) {built : List UInt8}
    (own : start.pathAt key index = some built) :
    Progress start (fun other position => passed other position ∨ other = key ∧ position = index)
      (past ++ [⟨.createSensorObject built, true⟩])
      (manager.setDevice key (some (device.setSensors (device.fruinfo.sensors.set index after))))
      where
  paths := (reached.replace present after path fun _ => object).paths
  objects := by
    rintro other position path' built' (visited | ⟨rfl, rfl⟩)
    · exact (reached.replace present after path fun _ => object).objects other position path' built'
        visited
    · unfold ChassisManager.HasObject
      rw [sensorAt_setSensors present, if_pos ⟨rfl, rfl⟩]
      exact ⟨after, rfl, object⟩
  requests := by
    intro path' asked
    rw [requested, List.filterMap_append, List.mem_append] at asked
    rcases asked with old | new
    · obtain ⟨other, position, same, visited⟩ := reached.requests path' old
      exact ⟨other, position, same, .inl visited⟩
    · obtain rfl : path' = built := by simpa [creation] using new
      exact ⟨key, index, own, .inr ⟨rfl, rfl⟩⟩

omit present

/-- The program on the device under a key makes this progress. -/
abbrev progressAt (start manager : ChassisManager) (key : UInt8) (passed : UInt8 → Nat → Prop) :
    PostAfter interface Vita4611Device Unit :=
  .unlessFault fun past device => Progress start passed past (manager.setDevice key (some device))

theorem pathAt_reached (reached : Progress start passed past (manager.setDevice key (some device)))
    (index : Nat) : start.pathAt key index =
      device.fruinfo.sensors[index]?.bind fun sensor => sensor.objectPath key := by
  rw [← reached.paths, ChassisManager.pathAt, sensorAt_setDevice, if_pos rfl]

/-- The sensor that the loop has come to gets its object. -/
theorem exposeSensor_progress (paths : PathsFit start) (key : UInt8) (index : Nat)
    (fresh : ¬ passed key index)
    (reached : Progress start passed past (manager.setDevice key (some device))) :
    (exposeSensor key index).trust CreatesFresh (progressAt start manager key
      fun other position => passed other position ∨ other = key ∧ position = index) past device := by
  have here := pathAt_reached reached index
  have skipped (without : start.pathAt key index = none) : Progress start
      (fun other position => passed other position ∨ other = key ∧ position = index) past
      (manager.setDevice key (some device)) := by
    refine reached.pass fun other position path built => ?_
    refine ⟨Or.inl, Or.rec id ?_⟩
    rintro ⟨rfl, rfl⟩
    rw [without] at built
    cases built
  rw [exposeSensor, trust_bind, trust_read]
  dsimp only
  rcases present : device.fruinfo.sensors[index]? with _ | sensor
  · exact skipped (by rw [here, present, Option.bind_none])
  rw [present, Option.bind_some] at here
  dsimp only
  rcases known : sensorGroup sensor.sdrUnits with _ | ⟨group, unit⟩
  · exact skipped (by rw [here, SensorRecord.objectPath, known, Option.map_none])
  dsimp only
  have built : start.pathAt key index = some (sensorPath group sensor.sdrName key) := by
    rw [here, SensorRecord.objectPath, known, Option.map_some]
  rw [trust_tryCatch, trust_bind]
  change ∀ created : Bool, _
  intro created given
  -- No earlier call named this path, because only passed sensors have been named.
  have new : sensorPath group sensor.sdrName key ∉ requested past := by
    intro asked
    obtain ⟨other, position, same, before⟩ := reached.requests _ asked
    obtain ⟨rfl, rfl⟩ := paths.distinct _ _ _ _ _ built same
    exact fresh before
  obtain rfl : created = true := given _ created rfl (paths.valid _ _ _ built) new
  exact reached.create present { sensor with
    sensorIface := some {
      value := sensor.readingConverted
      unit := unit
      criticalAlarmHigh := false
      criticalAlarmLow := false
      criticalHigh := sensor.convertedUpperCriticalThreshold
      criticalLow := sensor.convertedLowerCriticalThreshold } } rfl rfl built

/-- A reading publishes a value and creates no object. -/
theorem getSensorReading_progress [Libm] (key : UInt8) (index : Nat)
    (reached : Progress start passed past (manager.setDevice key (some device))) :
    (Vita4611Device.getSensorReading index 0).trust CreatesFresh
      (progressAt start manager key passed) past device := by
  rw [Vita4611Device.getSensorReading, trust_bind, trust_read]
  dsimp only
  rcases present : device.fruinfo.sensors[index]? with _ | sensor
  · exact reached
  dsimp only
  change ∀ answer : DBusReply, _
  intro answer _
  have called := reached.call ⟨.sendRequest (device.readingRequest sensor), answer⟩ rfl
  have published (raw : UInt8) := called.replace present (sensor.publish raw) rfl
    fun object => by simpa [SensorRecord.publish] using object
  change (Vita4611Device.rawReadingOf (readReply answer).1 >>= fun raw =>
    Program.modify fun device => device.setSensors (device.fruinfo.sensors.set index
      (sensor.publish raw))).trust CreatesFresh _ _ device
  rcases (readReply answer).1 with _ | ⟨_, _, _, _, _, _ | ⟨byte, rest⟩⟩
  · exact published 0
  · trivial
  · exact published byte

theorem getAllSensorReadings_progress [Libm] (key : UInt8)
    (reached : Progress start passed past (manager.setDevice key (some device))) :
    Vita4611Device.getAllSensorReadings.trust CreatesFresh (progressAt start manager key passed)
      past device := by
  rw [Vita4611Device.getAllSensorReadings, trust_bind, trust_read]
  exact trust_forEach (fun index => Vita4611Device.getSensorReading index 0) _
    (fun _ past device => Progress start passed past (manager.setDevice key (some device)))
    (fun _ index _ past device kept => getSensorReading_progress key index kept) past device reached

/-- The loop over the sensors of a device passes all of them. -/
theorem exposeSensors_progress (paths : PathsFit start) (key : UInt8)
    (fresh : ∀ index, ¬ passed key index)
    (reached : Progress start passed past (manager.setDevice key (some device))) :
    (forEach (exposeSensor key) (List.range device.fruinfo.sensors.length)).trust CreatesFresh
      (progressAt start manager key fun other position => passed other position ∨ other = key) past
      device := by
  have inside (index : Nat) (path : List UInt8) (built : start.pathAt key index = some path) :
      index ∈ List.range device.fruinfo.sensors.length := by
    rw [pathAt_reached reached] at built
    obtain ⟨sensor, stored, _⟩ := Option.bind_eq_some_iff.mp built
    exact List.mem_range.mpr (List.getElem?_eq_some_iff.mp stored).1
  refine trust_weaken (trust_forEach (exposeSensor key) _ (fun done past device => Progress start
    (fun other position => passed other position ∨ other = key ∧ position ∈ done) past
    (manager.setDevice key (some device))) ?_ past device ?_) ?_
  · intro done index ahead past device reached
    have new := notMem_of_prefix List.nodup_range ahead
    refine trust_weaken (exposeSensor_progress paths key index ?_ reached) ?_
    · rintro (before | ⟨-, member⟩)
      · exact fresh index before
      · exact new member
    · intro past device visited
      refine visited.pass fun other position _ _ => ?_
      simp only [List.mem_append, List.mem_singleton]
      tauto
  · exact reached.pass fun _ _ _ _ => by simp
  · intro past device visited
    refine visited.pass fun other position path built => ?_
    refine or_congr_right (and_iff_left_of_imp ?_)
    rintro rfl
    exact inside position path built

/-- The loop over the devices passes all sensors. -/
theorem exposeFruSensors_progress [Libm] (paths : PathsFit manager) :
    exposeFruSensors.trust CreatesFresh
      (.unlessFault (Progress manager fun key _ => key ∈ allKeys)) [] manager := by
  refine trust_forEach _ allKeys
    (fun done => Progress manager fun key _ => key ∈ done) ?_ [] manager
      ⟨rfl, by simp, by simp [requested]⟩
  intro done key ahead past after reached
  have new := notMem_of_prefix allKeys_nodup ahead
  rw [onDevice, trust_bind, trust_read]
  dsimp only
  rcases present : after.deviceMap key with _ | (_ | device)
  · refine reached.pass fun other index path built => ?_
    rw [List.mem_append, List.mem_singleton]
    refine ⟨Or.inl, Or.rec id ?_⟩
    rintro rfl
    rw [← reached.paths, ChassisManager.pathAt, ChassisManager.sensorAt, present] at built
    cases built
  · trivial
  · dsimp only
    have stored : after.setDevice key (some device) = after :=
      ChassisManager.setDevice_self present
    rw [← stored] at reached
    conv =>
      arg 5
      rw [← stored]
    rw [trust_focus _ fun _ _ _ => ChassisManager.setDevice_setDevice _ _, trust_bind, trust_read]
    change (_ >>= fun _ => Vita4611Device.getAllSensorReadings).trust CreatesFresh
      (progressAt manager after key fun other _ => other ∈ done ++ [key]) past device
    refine trust_then (exposeSensors_progress paths key (fun _ => new) reached) ?_
    intro past device visited
    refine trust_weaken (getAllSensorReadings_progress key visited) fun past device visited => ?_
    refine visited.pass fun other position _ _ => ?_
    rw [List.mem_append, List.mem_singleton]

end Runs

/-- One device has a temperature sensor whose name has a space. -/
def inletManager : ChassisManager :=
  ChassisManager.blank.setDevice 1 (some ((default : Vita4611Device).setSensors
    [{ (default : SensorRecord) with
      sdrName := "Inlet Temp".toUTF8.toList
      sdrUnits := "degrees C" }]))

/-- A bus that refuses the path leaves the sensor without an object. -/
example : let run := (@exposeFruSensors silentLibm).run loneModule inletManager 0
    run.outcome = .value () ∧ (run.state.sensorAt 1 0).map (·.sensorIface) = some none := by
  decide +kernel

end Chassis.Vita4611
