import Chassis.Data.List
import Chassis.Proof.Memory.Known

namespace Chassis.Vita4611
open Effect Program Data

/-- Two records of one sensor differ at most in fields that no full record has set. A published sensor
has no such field. -/
structure SensorAlike (first second : SensorRecord) : Prop where
  number : first.sensorNumber = second.sensorNumber
  name : first.sdrName = second.sdrName
  units : first.sdrUnits = second.sdrUnits
  published : first.sensorIface.isSome = second.sensorIface.isSome
  whole : first.sensorIface.isSome = true → first = second

theorem SensorAlike.refl (sensor : SensorRecord) :
    SensorAlike sensor sensor :=
  ⟨rfl, rfl, rfl, rfl, fun _ => rfl⟩

/-- Two records of one sensor publish the same object. -/
theorem SensorAlike.iface {first second : SensorRecord} (alike : SensorAlike first second) :
    first.sensorIface = second.sensorIface := by
  cases published : first.sensorIface with
  | none =>
      have unpublished := alike.published
      rw [published] at unpublished
      exact (Option.isNone_iff_eq_none.mp (by simpa using unpublished.symm)).symm
  | some iface =>
      rw [← alike.whole (by rw [published]; rfl), published]

/-- A record reaches the first sensor with its number. -/
def Vita4611Device.sensorAt (device : Vita4611Device) (sensorNum : UInt8) : Option SensorRecord :=
  device.fruinfo.sensors.find? fun sensor => sensor.sensorNumber == sensorNum

/-- Two objects of one device differ at most in fields that nothing has set. The manager numbers a
device after its construction, and a command sets its policy. -/
structure DeviceAlike (numbered policed : Bool) (told : Told) (addr : UInt8)
    (first second : Vita4611Device) : Prop where
  address : first.ipmiAddress = addr
  address' : second.ipmiAddress = addr
  cache : first.sensorPopulationChangeIndicatorCache = second.sensorPopulationChangeIndicatorCache
  channel : first.channel = second.channel
  hwAddress : first.hwAddress = second.hwAddress
  siteNumber : first.siteNumber = second.siteNumber
  siteType : first.siteType = second.siteType
  vsocaps : first.vsocaps = second.vsocaps
  deviceId : numbered = true → first.deviceId = second.deviceId
  policy : policed = true → first.fruActivationPolicy = second.fruActivationPolicy
  sensors : List.Forall₂ SensorAlike first.fruinfo.sensors second.fruinfo.sensors
  described : ∀ sensorNum ∈ told.described, ∃ sensor,
    first.sensorAt sensorNum = some sensor ∧ second.sensorAt sensorNum = some sensor
  counted : told.counted = true → first.deviceRecordTotal = second.deviceRecordTotal
  dynamic : told.dynamic = true → first.dynamicSensors = second.dynamicSensors

/-- Nothing more is told than that some sensors are described by full records. -/
structure Told.Adds (told more : Told) (fresh : UInt8 → Prop) : Prop where
  counted : more.counted = told.counted
  dynamic : more.dynamic = told.dynamic
  described : ∀ sensorNum ∈ more.described, sensorNum ∈ told.described ∨ fresh sensorNum

namespace DeviceAlike

variable {numbered policed : Bool} {told : Told} {addr : UInt8} {first second : Vita4611Device}

/-- Less is known to be set. -/
theorem weaken {less : Told} (alike : DeviceAlike numbered policed told addr first second)
    (described : ∀ sensorNum ∈ less.described, sensorNum ∈ told.described)
    (counted : less.counted = true → told.counted = true)
    (dynamic : less.dynamic = true → told.dynamic = true) :
    DeviceAlike numbered policed less addr first second :=
  { alike with
    described := fun sensorNum member => alike.described sensorNum (described sensorNum member)
    counted := fun set => alike.counted (counted set)
    dynamic := fun set => alike.dynamic (dynamic set) }

theorem numbers (alike : DeviceAlike numbered policed told addr first second) :
    first.fruinfo.sensors.map SensorRecord.sensorNumber =
      second.fruinfo.sensors.map SensorRecord.sensorNumber :=
  map_eq_of_forall₂ alike.sensors fun _ _ sensor => sensor.number

theorem discovered (alike : DeviceAlike numbered policed told addr first second)
    (sensorNum : UInt8) :
    first.isSensorDiscovered sensorNum = second.isSensorDiscovered sensorNum := by
  have same := congrArg (List.any · fun number => number == sensorNum) alike.numbers
  simp only [List.any_map] at same
  exact same

theorem findIdx (alike : DeviceAlike numbered policed told addr first second) (sensorNum : UInt8) :
    (first.fruinfo.sensors.findIdx fun sensor => sensor.sensorNumber == sensorNum) =
      second.fruinfo.sensors.findIdx fun sensor => sensor.sensorNumber == sensorNum := by
  have indices := congrArg (List.findIdx fun number => number == sensorNum) alike.numbers
  rwa [List.findIdx_map, List.findIdx_map] at indices

/-- A new sensor does not hide an older one with its number. -/
theorem pushSensor {record other : SensorRecord}
    (alike : DeviceAlike numbered policed told addr first second)
    (pair : SensorAlike record other) :
    DeviceAlike numbered policed told addr (first.pushSensor record) (second.pushSensor other) :=
  { alike with
    sensors := List.rel_append alike.sensors (.cons pair .nil)
    described := by
      intro sensorNum member
      obtain ⟨sensor, found, found'⟩ := alike.described sensorNum member
      refine ⟨sensor, ?_, ?_⟩
      · exact List.find?_append.trans (congrArg (Option.or · _) found)
      · exact List.find?_append.trans (congrArg (Option.or · _) found') }

/-- The number of the sensor at an index survives the change. -/
def KeepsNumber (device : Vita4611Device) (index : Nat) (update : SensorRecord → SensorRecord) :
    Prop :=
  ∀ sensor, device.fruinfo.sensors[index]? = some sensor →
    (update sensor).sensorNumber = sensor.sensorNumber

theorem sensorAt_modify {device : Vita4611Device} {index : Nat}
    {update : SensorRecord → SensorRecord} (keeps : KeepsNumber device index update)
    (sensorNum : UInt8) :
    (device.setSensors (device.fruinfo.sensors.modify index update)).sensorAt sensorNum =
      if (device.fruinfo.sensors.findIdx fun sensor => sensor.sensorNumber == sensorNum) = index then
        (device.sensorAt sensorNum).map update
      else device.sensorAt sensorNum :=
  find?_modify _ _ fun sensor present => by rw [keeps sensor present]

/-- Both runs change the sensor at one index. -/
theorem modifySensor (alike : DeviceAlike numbered policed told addr first second) {index : Nat}
    {update : SensorRecord → SensorRecord}
    (keeps : KeepsNumber first index update) (keeps' : KeepsNumber second index update)
    (kept : ∀ sensor other, SensorAlike sensor other →
      SensorAlike (update sensor) (update other)) :
    DeviceAlike numbered policed told addr
      (first.setSensors (first.fruinfo.sensors.modify index update))
      (second.setSensors (second.fruinfo.sensors.modify index update)) :=
  { alike with
    sensors := forall₂_modify alike.sensors kept index
    described := by
      intro sensorNum member
      obtain ⟨sensor, found, found'⟩ := alike.described sensorNum member
      rw [sensorAt_modify keeps, sensorAt_modify keeps', alike.findIdx, found, found']
      split
      · exact ⟨update sensor, rfl, rfl⟩
      · exact ⟨sensor, rfl, rfl⟩ }

/-- The sensor that a record reaches has its number. -/
theorem number_findIdx {device : Vita4611Device} {sensorNum : UInt8} {sensor : SensorRecord}
    (present : device.fruinfo.sensors[device.fruinfo.sensors.findIdx fun sensor =>
      sensor.sensorNumber == sensorNum]? = some sensor) : sensor.sensorNumber = sensorNum := by
  obtain ⟨inside, rfl⟩ := List.getElem?_eq_some_iff.mp present
  exact eq_of_beq (List.findIdx_getElem (w := inside))

/-- Both runs change the sensor that a record reaches. -/
theorem updateSensor (alike : DeviceAlike numbered policed told addr first second)
    {sensorNum : UInt8} {update : SensorRecord → SensorRecord}
    (keeps : ∀ sensor, sensor.sensorNumber = sensorNum → (update sensor).sensorNumber = sensorNum)
    (kept : ∀ sensor other, SensorAlike sensor other →
      SensorAlike (update sensor) (update other)) :
    DeviceAlike numbered policed told addr (first.updateSensor sensorNum update)
      (second.updateSensor sensorNum update) := by
  have same (device : Vita4611Device) : KeepsNumber device (device.fruinfo.sensors.findIdx
      fun sensor => sensor.sensorNumber == sensorNum) update := by
    intro sensor present
    have number := number_findIdx present
    rw [keeps sensor number, number]
  rw [Vita4611Device.updateSensor, Vita4611Device.updateSensor]
  have keeps' := same second
  rw [← alike.findIdx] at keeps' ⊢
  exact alike.modifySensor (same first) keeps' kept

section Full

variable {more : Told} {record : SensorRecord}

/-- A full record replaces the sensor that it reaches. -/
theorem replaceSensor (alike : DeviceAlike numbered policed told addr first second)
    (adds : told.Adds more (· = record.sensorNumber))
    (discovered : first.isSensorDiscovered record.sensorNumber = true) :
    DeviceAlike numbered policed more addr (first.updateSensor record.sensorNumber fun _ => record)
      (second.updateSensor record.sensorNumber fun _ => record) := by
  have updated : DeviceAlike numbered policed told addr
      (first.updateSensor record.sensorNumber fun _ => record)
      (second.updateSensor record.sensorNumber fun _ => record) :=
    alike.updateSensor (fun _ _ => rfl) fun _ _ _ => SensorAlike.refl record
  have reached {device : Vita4611Device}
      (known : device.isSensorDiscovered record.sensorNumber = true) :
      (device.updateSensor record.sensorNumber fun _ => record).sensorAt record.sensorNumber =
        some record := by
    have present := List.find?_isSome.mpr (List.any_eq_true.mp known)
    obtain ⟨sensor, found⟩ := Option.isSome_iff_exists.mp present
    rw [Vita4611Device.updateSensor, sensorAt_modify fun sensor present =>
      (number_findIdx present).symm, if_pos rfl, Vita4611Device.sensorAt, found]
    rfl
  refine { updated with
    described := ?_
    counted := fun set => updated.counted (adds.counted ▸ set)
    dynamic := fun set => updated.dynamic (adds.dynamic ▸ set) }
  intro sensorNum member
  rcases adds.described sensorNum member with older | rfl
  · exact updated.described sensorNum older
  · exact ⟨record, reached discovered, reached (alike.discovered _ ▸ discovered)⟩

/-- A full record adds a sensor with a new number. -/
theorem addSensor (alike : DeviceAlike numbered policed told addr first second)
    (adds : told.Adds more (· = record.sensorNumber))
    (missing : first.isSensorDiscovered record.sensorNumber = false) :
    DeviceAlike numbered policed more addr (first.pushSensor record) (second.pushSensor record) := by
  have pushed := alike.pushSensor (SensorAlike.refl record)
  have reached {device : Vita4611Device}
      (unknown : device.isSensorDiscovered record.sensorNumber = false) :
      (device.pushSensor record).sensorAt record.sensorNumber = some record := by
    have absent : device.sensorAt record.sensorNumber = none :=
      List.find?_eq_none.mpr fun sensor member => by
        have different := List.any_eq_false.mp unknown sensor member
        exact different
    refine List.find?_append.trans ?_
    change (device.sensorAt record.sensorNumber).or _ = _
    rw [absent]
    simp
  refine { pushed with
    described := ?_
    counted := fun set => pushed.counted (adds.counted ▸ set)
    dynamic := fun set => pushed.dynamic (adds.dynamic ▸ set) }
  intro sensorNum member
  rcases adds.described sensorNum member with older | rfl
  · exact pushed.described sensorNum older
  · exact ⟨record, reached missing, reached (alike.discovered _ ▸ missing)⟩

end Full

end DeviceAlike

end Chassis.Vita4611
