import Chassis.Effect.Run
import Chassis.Proof.Manager.Outline
import Chassis.Automaton.Run

namespace Chassis.Vita4611
open Effect Program Automaton

/-- The alarms of a published object say whether its value passes its limits. -/
def SensorIface.AlarmsFollow (iface : SensorIface) : Prop :=
  (iface.criticalAlarmHigh = true ↔ iface.value > iface.criticalHigh) ∧
    (iface.criticalAlarmLow = true ↔ iface.value < iface.criticalLow)

def SensorIface.Quiet (iface : SensorIface) : Prop :=
  iface.criticalAlarmHigh = false ∧ iface.criticalAlarmLow = false

/-- Every published object of a device has a property. -/
def Vita4611Device.Published (property : SensorIface → Prop) (device : Vita4611Device) : Prop :=
  ∀ sensor ∈ device.fruinfo.sensors, ∀ iface, sensor.sensorIface = some iface → property iface

namespace Vita4611Device

/-- The request for the reading of one sensor. -/
def readingRequest (device : Vita4611Device) (sensor : SensorRecord) : Ipmb.SendRequest :=
  ⟨0, device.ipmiAddress, netfnSE, 0, ipmiGetSensorReadingCmd, [sensor.sensorNumber]⟩

/-- A request that fails counts as the raw reading zero. -/
def rawReading (answer : DBusReply) : UInt8 :=
  match (readReply answer).1 with
  | some response => response.data.getD 0 0
  | none => 0

/-- The sensors are asked in order, so the answer of each has its index as position. -/
def polledReading (device : Vita4611Device) (environment : Environment interface)
    (index : Nat) (sensor : SensorRecord) : UInt8 :=
  rawReading (environment index (.sendRequest (device.readingRequest sensor)))

/-- Every reading that a poll brings for a published sensor lies within the published limits. -/
def ReadsWithin [Libm] (device : Vita4611Device) (environment : Environment interface) : Prop :=
  ∀ (index : Nat) (sensor : SensorRecord) (iface : SensorIface),
    device.fruinfo.sensors[index]? = some sensor →
    sensor.sensorIface = some iface →
    iface.criticalLow ≤ sensor.convert (device.polledReading environment index sensor) ∧
      sensor.convert (device.polledReading environment index sensor) ≤ iface.criticalHigh

end Vita4611Device

/-- A reading changes the value of a published object and nothing else of it. -/
def SensorRecord.publish [Libm] (sensor : SensorRecord) (raw : UInt8) : SensorRecord :=
  { sensor with
    rawReading := raw
    readingConverted := sensor.convert raw
    sensorIface := sensor.sensorIface.map fun iface => { iface with value := sensor.convert raw } }

section Readings

variable [Libm] (environment : Environment interface)

/-- A sensor is asked once, and an answer without data is undefined. -/
theorem run_getSensorReading {device : Vita4611Device} {index : Nat} {sensor : SensorRecord}
    (present : device.fruinfo.sensors[index]? = some sensor) :
    (∃ call, (Vita4611Device.getSensorReading index 0).run environment device index =
      ⟨.value (), device.setSensors (device.fruinfo.sensors.set index
        (sensor.publish (device.polledReading environment index sensor))), [call]⟩) ∨
      ∃ reason state calls, (Vita4611Device.getSensorReading index 0).run environment device index =
        ⟨.fault reason, state, calls⟩ := by
  have asked : (Vita4611Device.getSensorReading index 0).run environment device index =
      let answer := environment index (.sendRequest (device.readingRequest sensor))
      let rest := (Vita4611Device.rawReadingOf (readReply answer).1 >>= fun rawReading =>
        Program.modify fun device => device.setSensors
          (device.fruinfo.sensors.set index (sensor.publish rawReading))).run environment device
            (index + 1)
      { rest with
        calls := ⟨device, .sendRequest (device.readingRequest sensor), answer⟩ :: rest.calls } := by
    unfold Vita4611Device.getSensorReading
    simp only [run_bind, run_read, Run.andThen, present]
    rfl
  rw [asked]
  dsimp only
  unfold Vita4611Device.polledReading Vita4611Device.rawReading
  rcases (readReply (environment index (.sendRequest (device.readingRequest sensor)))).1 with
    _ | ⟨_, _, _, _, _, _ | ⟨byte, rest⟩⟩
  · exact .inl ⟨_, rfl⟩
  · exact .inr ⟨_, _, _, rfl⟩
  · exact .inl ⟨_, rfl⟩

/-- The loop publishes the reading of each sensor from the given index on. -/
theorem run_readings (first count : Nat) (device : Vita4611Device)
    (inside : first + count = device.fruinfo.sensors.length) :
    let run := (forEach (fun index => Vita4611Device.getSensorReading index 0)
      (List.range' first count)).run environment device first
    (∀ reason, run.outcome ≠ .fault reason) →
      ∀ index, run.state.fruinfo.sensors[index]? =
        device.fruinfo.sensors[index]?.map fun sensor =>
          if first ≤ index then sensor.publish (device.polledReading environment index sensor)
          else sensor := by
  induction count generalizing first device with
  | zero =>
      intro run _ index
      change device.fruinfo.sensors[index]? = _
      rcases present : device.fruinfo.sensors[index]? with _ | sensor
      · rfl
      · have bound := (List.getElem?_eq_some_iff.mp present).1
        rw [Option.map_some, if_neg (by omega)]
  | succ count ih =>
      obtain ⟨sensor, present⟩ : ∃ sensor, device.fruinfo.sensors[first]? = some sensor :=
        ⟨_, List.getElem?_eq_getElem (by omega)⟩
      intro run running index
      have stepped : run = (Program.run environment (Vita4611Device.getSensorReading first 0)
          device first).andThen fun _ next =>
            (forEach (fun index => Vita4611Device.getSensorReading index 0)
              (List.range' (first + 1) count)).run environment next
                (first + (Program.run environment (Vita4611Device.getSensorReading first 0)
                  device first).calls.length) := run_then _ _ _ _ _
      rcases run_getSensorReading environment present with ⟨call, ran⟩ | ⟨reason, _, _, ran⟩
      · rw [ran] at stepped
        rw [stepped] at running ⊢
        have rest := ih (first + 1) (device.setSensors (device.fruinfo.sensors.set first
          (sensor.publish (device.polledReading environment first sensor))))
          (by
            change _ = (device.fruinfo.sensors.set first _).length
            rw [List.length_set]
            omega) running index
        change _ = ((device.fruinfo.sensors.set first _)[index]?).map _ at rest
        apply rest.trans
        by_cases own : first = index
        · subst own
          rw [List.getElem?_set_self (by omega), present, Option.map_some, Option.map_some,
            if_neg (by omega), if_pos (by omega)]
        · rw [List.getElem?_set_ne own]
          rcases device.fruinfo.sensors[index]? with _ | other
          · rfl
          · by_cases later : first ≤ index
            · rw [Option.map_some, Option.map_some, if_pos (by omega), if_pos later]
              rfl
            · rw [Option.map_some, Option.map_some, if_neg (by omega), if_neg later]
      · rw [ran] at stepped
        rw [stepped] at running
        exact (running reason rfl).elim

/-- A poll publishes the reading of every sensor. -/
theorem run_getAllSensorReadings (device : Vita4611Device)
    (running : ∀ reason, (Vita4611Device.getAllSensorReadings.run environment device 0).outcome ≠
      .fault reason) (index : Nat) :
    (Vita4611Device.getAllSensorReadings.run environment device 0).state.fruinfo.sensors[index]? =
      device.fruinfo.sensors[index]?.map fun sensor =>
        sensor.publish (device.polledReading environment index sensor) := by
  have ran := run_readings environment 0 device.fruinfo.sensors.length device (Nat.zero_add _)
  rw [← List.range_eq_range'] at ran
  have published := ran running index
  simp only [Nat.zero_le, if_true] at published
  exact published

end Readings

section Alarms

variable [Libm] {device after : Vita4611Device}

theorem publish_iface {sensor : SensorRecord} {raw : UInt8} {iface : SensorIface}
    (published : (sensor.publish raw).sensorIface = some iface) :
    ∃ before, sensor.sensorIface = some before ∧
      iface = { before with value := sensor.convert raw } := by
  obtain ⟨before, present, rfl⟩ := Option.map_eq_some_iff.mp published
  exact ⟨before, present, rfl⟩

theorem polled_eq_some {poll : DevicePoll} (taken : device.polled poll = some after) :
    after = (poll.run device).state ∧ ∀ reason, (poll.run device).outcome ≠ .fault reason := by
  unfold Vita4611Device.polled at taken
  split at taken
  next => cases taken
  next ended =>
    cases taken
    exact ⟨rfl, ended⟩

/-- The sensors after a poll are the old ones with their readings published. -/
theorem mem_readings {environment : Environment interface} {sensor : SensorRecord}
    (taken : device.polled (.readings environment) = some after) :
    sensor ∈ after.fruinfo.sensors ↔ ∃ (index : Nat) (before : SensorRecord),
      device.fruinfo.sensors[index]? = some before ∧
        before.publish (device.polledReading environment index before) = sensor := by
  obtain ⟨rfl, running⟩ := polled_eq_some taken
  rw [List.mem_iff_getElem?]
  apply exists_congr
  intro index
  have published : (DevicePoll.run device (.readings environment)).state.fruinfo.sensors[index]? =
    _ := run_getAllSensorReadings environment device running index
  rw [published, Option.map_eq_some_iff]

theorem readings_quiet {environment : Environment interface}
    (quiet : device.Published SensorIface.Quiet)
    (taken : device.polled (.readings environment) = some after) :
    after.Published SensorIface.Quiet := by
  intro sensor member iface present
  obtain ⟨index, before, stored, rfl⟩ := (mem_readings taken).mp member
  obtain ⟨old, had, rfl⟩ := publish_iface present
  exact quiet before (List.mem_of_getElem? stored) old had

omit [Libm] in
/-- Alarms that are off follow the value exactly when it lies within the limits. -/
theorem quiet_follows {iface : SensorIface} (quiet : iface.Quiet) :
    iface.AlarmsFollow ↔ iface.criticalLow ≤ iface.value ∧ iface.value ≤ iface.criticalHigh := by
  unfold SensorIface.AlarmsFollow
  rw [quiet.1, quiet.2]
  simp only [Bool.false_eq_true, false_iff, not_lt]
  exact and_comm

/-- A poll of the readings keeps the alarms off, so they are right exactly when every reading lies
within the limits. -/
theorem readings_follow_iff {environment : Environment interface}
    (quiet : device.Published SensorIface.Quiet)
    (taken : device.polled (.readings environment) = some after) :
    after.Published SensorIface.AlarmsFollow ↔ device.ReadsWithin environment := by
  have still := readings_quiet quiet taken
  constructor
  · intro follow index sensor iface stored present
    have member := (mem_readings taken).mpr ⟨index, sensor, stored, rfl⟩
    have published : (sensor.publish (device.polledReading environment index sensor)).sensorIface =
        some { iface with
          value := sensor.convert (device.polledReading environment index sensor) } := by
      unfold SensorRecord.publish
      rw [present]
      rfl
    exact (quiet_follows (still _ member _ published)).mp (follow _ member _ published)
  · intro within sensor member iface present
    rw [quiet_follows (still sensor member iface present)]
    obtain ⟨index, before, stored, rfl⟩ := (mem_readings taken).mp member
    obtain ⟨old, had, rfl⟩ := publish_iface present
    exact within index before old stored had

omit [Libm] in
theorem published_set {property : SensorIface → Prop} {sensor : SensorRecord} {index : Nat}
    (kept : device.Published property)
    (new : ∀ iface, sensor.sensorIface = some iface → property iface) :
    (device.setSensors (device.fruinfo.sensors.set index sensor)).Published property := by
  intro other member
  rcases List.mem_or_eq_of_mem_set member with old | rfl
  · exact kept other old
  · exact new

omit [Libm] in
/-- Reading the records again switches no alarm on. -/
theorem quietRules : DeviceRules (fun _ => True) (fun _ _ => True)
    (Vita4611Device.Published SensorIface.Quiet) (fun _ => True) where
  fixed := trivial
  own _ _ := trivial
  sends _ _ _ _ := trivial
  uninitialised _ _ := trivial
  index := trivial
  range := trivial
  updates device sensorNum update quiet keeps := by
    intro sensor member iface present
    obtain ⟨index, found⟩ := List.mem_iff_getElem?.mp member
    change (device.fruinfo.sensors.modify _ update)[index]? = _ at found
    rw [List.getElem?_modify] at found
    obtain ⟨before, stored, rfl⟩ := Option.map_eq_some_iff.mp found
    have known := List.mem_of_getElem? stored
    split at present
    · rcases keeps before with none' | same
      · rw [none'] at present
        cases present
      · rw [same] at present
        exact quiet before known iface present
    · exact quiet before known iface present
  pushes device record quiet none' := by
    intro sensor member iface present
    rcases List.mem_append.mp member with old | new
    · exact quiet sensor old iface present
    · cases List.mem_singleton.mp new
      rw [none'] at present
      cases present
  caches _ _ quiet := quiet

omit [Libm] in
theorem exposeSensor_quiet (num : UInt8) (index : Nat) :
    Keeps (fun _ _ => True) (Vita4611Device.Published SensorIface.Quiet) (fun _ => True)
      (exposeSensor num index) := by
  apply keeps_read
  intro device quiet
  rcases found : device.fruinfo.sensors[index]? with _ | sensor
  · exact keeps_pure _
  dsimp only
  rcases sensorGroup sensor.sdrUnits with _ | ⟨group, unit⟩
  · exact keeps_pure _
  apply keeps_tryCatch
  · apply keeps_bind
    · apply keeps_bind (keeps_ask fun _ _ => trivial)
      intro created
      cases created with
      | true => exact keeps_pure _
      | false => exact keeps_throw _
    · intro _
      apply keeps_modify
      intro device quiet
      apply published_set quiet
      rintro iface ⟨⟩
      exact ⟨rfl, rfl⟩
  · exact fun _ => keeps_pure _

omit [Libm] in
/-- The objects are published with both alarms off. -/
theorem exposed_quiet (exposed : device.Exposed) : device.Published SensorIface.Quiet := by
  obtain ⟨table, num, environment, bare, rfl⟩ := exposed
  apply (Keeps.sound (keeps_forEach (exposeSensor_quiet num)) environment table 0 _).2.1
  intro sensor member iface present
  rw [bare sensor member] at present
  cases present

theorem polled_quiet {poll : DevicePoll} (quiet : device.Published SensorIface.Quiet)
    (taken : device.polled poll = some after) : after.Published SensorIface.Quiet := by
  cases poll with
  | readings environment => exact readings_quiet quiet taken
  | sdrs environment =>
      rw [(polled_eq_some taken).1]
      exact (quietRules.checkSdrInfo.sound environment device 0 quiet).2.1

/-- After every poll of the readings the published alarms follow the published values exactly when
every such poll reads only values within the published limits. -/
theorem alarms_follow_iff (exposed : device.Exposed) (polls : List DevicePoll) :
    Along Vita4611Device.polled (fun _ poll after => ∀ environment, poll = .readings environment →
        after.Published SensorIface.AlarmsFollow) device polls ↔
      Along Vita4611Device.polled (fun before poll _ => ∀ environment,
        poll = .readings environment → before.ReadsWithin environment) device polls := by
  apply along_congr (Vita4611Device.Published SensorIface.Quiet) _ _ (exposed_quiet exposed)
  · intro before poll next quiet taken
    exact polled_quiet quiet taken
  · intro before poll next quiet taken
    apply forall_congr'
    intro environment
    apply imp_congr_right
    rintro rfl
    exact readings_follow_iff quiet taken

end Alarms

/-- A temperature sensor with the factor one and the limits 0 and 100. -/
def warmSensor : SensorRecord :=
  { SensorRecord.construct default with
    sensorNumber := 5
    sdrUnits := "degrees C"
    sensorM := 1
    convertedUpperCriticalThreshold := 100
    convertedLowerCriticalThreshold := 0 }

def warmTable : Vita4611Device := (default : Vita4611Device).setSensors [warmSensor]

/-- Every object can be created, and every sensor answers with the given reading. -/
def steadyReading (reading : UInt8) : Environment interface := fun _ op =>
  match op with
  | .sendRequest arguments => .reply ⟨0, arguments.netfn, 0, arguments.cmd, 0, [reading]⟩
  | .createSensorObject _ => true
  | op => (default : op.Answer)

/-- The table with its sensor published. -/
def warmDevice : Vita4611Device :=
  ((Program.forEach (exposeSensor 1) (List.range warmTable.fruinfo.sensors.length)).run
    (steadyReading 25) warmTable 0).state

theorem warmDevice_exposed : warmDevice.Exposed := by
  refine ⟨warmTable, 1, steadyReading 25, ?_, rfl⟩
  intro sensor member
  change sensor ∈ [warmSensor] at member
  cases List.mem_singleton.mp member
  rfl

/-- The object that is published for the sensor. -/
def warmIface : SensorIface := ⟨warmSensor.readingConverted, "DegreesC", false, false, 100, 0⟩

theorem warmDevice_sensors :
    warmDevice.fruinfo.sensors = [{ warmSensor with sensorIface := some warmIface }] := by
  decide +kernel

theorem polled_value [Libm] {device : Vita4611Device} {poll : DevicePoll}
    (ended : (poll.run device).outcome = .value ()) :
    device.polled poll = some (poll.run device).state := by
  unfold Vita4611Device.polled
  rw [ended]

/-- A reading of 25 lies within the limits, and the alarms are right after the poll. -/
theorem alarms_follow_iff_warmDevice :
    warmDevice.Exposed ∧ @Vita4611Device.ReadsWithin silentLibm warmDevice (steadyReading 25) ∧
      (∃ after, @Vita4611Device.polled silentLibm warmDevice (.readings (steadyReading 25)) =
        some after) ∧
      Along (@Vita4611Device.polled silentLibm) (fun _ poll after => ∀ environment,
        poll = .readings environment → after.Published SensorIface.AlarmsFollow) warmDevice
        [.readings (steadyReading 25)] := by
  let _ := silentLibm
  have within : warmDevice.ReadsWithin (steadyReading 25) := by
    intro index sensor iface stored present
    rw [warmDevice_sensors] at stored
    cases index with
    | zero =>
        cases stored
        cases present
        decide +kernel
    | succ index => cases stored
  refine ⟨warmDevice_exposed, within, ⟨_, polled_value (by decide +kernel)⟩,
    (alarms_follow_iff warmDevice_exposed _).mpr ?_⟩
  rintro next taken
  refine ⟨?_, trivial⟩
  rintro _ ⟨⟩
  exact within

/-- A reading of 200 passes the limit, and the alarm stays off. -/
theorem alarms_follow_fails :
    ¬ ∀ (device : Vita4611Device) (polls : List DevicePoll), device.Exposed →
      Along (@Vita4611Device.polled silentLibm) (fun _ poll after => ∀ environment,
        poll = .readings environment → after.Published SensorIface.AlarmsFollow) device polls := by
  let _ := silentLibm
  intro claim
  have taken : warmDevice.polled (.readings (steadyReading 200)) = some _ :=
    polled_value (by decide +kernel)
  have follow := (claim warmDevice [.readings (steadyReading 200)] warmDevice_exposed _ taken).1
    (steadyReading 200) rfl
  have within := (readings_follow_iff (exposed_quiet warmDevice_exposed) taken).mp follow 0
    { warmSensor with sensorIface := some warmIface } warmIface
    (by rw [warmDevice_sensors]; rfl) rfl
  exact absurd within.2 (by decide +kernel)

end Chassis.Vita4611
