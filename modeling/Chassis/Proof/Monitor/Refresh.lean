import Chassis.Proof.Monitor.Published
import Mathlib.Tactic.NormNum

namespace Chassis.Monitor
open Data Effect Program Json

/-- Different readings differ in degrees. -/
theorem degrees_inj {first second : Int} (left : InInt first) (right : InInt second)
    (same : degrees first = degrees second) : first = second := by
  have small {value : Int} (inInt : InInt value) : lastPlace (value / 1000) ≤ -31 := by
    refine @lastPlace_le _ 22 ?_ (by decide)
    have bounds : (-2147483648 : ℚ) ≤ value ∧ (value : ℚ) ≤ 2147483647 := by exact_mod_cast inInt
    rw [abs_lt]
    constructor <;> norm_num <;> linarith
  have apart := abs_le.mp (roundDouble_apart (small left) (small right) same)
  norm_num at apart
  have near : (-1 : ℚ) < first - second ∧ (first - second : ℚ) < 1 := by
    constructor <;> linarith
  have whole : -1 < first - second ∧ first - second < 1 := by exact_mod_cast near
  omega

namespace SensorElement

/-- The file of the sensor can be opened. -/
def opens (temperatures : String → Option (List UInt8)) (sensor : SensorElement) : Bool :=
  (temperatures sensor.readingPath).isSome

/-- The content of the file of the sensor, when it can be opened and parsed. -/
def readable (temperatures : String → Option (List UInt8)) (sensor : SensorElement) : Option Int :=
  (temperatures sensor.readingPath).bind stoi

theorem readable_inInt {temperatures : String → Option (List UInt8)} {sensor : SensorElement}
    {value : Int} (read : sensor.readable temperatures = some value) : InInt value := by
  obtain ⟨content, _, parsed⟩ := Option.bind_eq_some_iff.mp read
  exact stoi_inInt parsed

/-- The sensor with the reading of its file. -/
def refresh (temperatures : String → Option (List UInt8)) (sensor : SensorElement) :
    SensorElement :=
  sensor.extract ((temperatures sensor.readingPath).getD [])

theorem refresh_readable {temperatures : String → Option (List UInt8)} {sensor : SensorElement}
    {value : Int} (read : sensor.readable temperatures = some value) :
    (sensor.refresh temperatures).curReading = value := by
  obtain ⟨content, opened, parsed⟩ := Option.bind_eq_some_iff.mp read
  rw [refresh, opened, Option.getD_some]
  change extractInt sensor.curReading content = value
  rw [extractInt, parsed]

end SensorElement

/-- The pass refreshes the sensors in front of the first file that cannot be opened. -/
theorem updateReading_eq (temperatures : String → Option (List UInt8))
    (elements : List SensorElement) :
    (TempSensor.updateReading temperatures elements).2 =
      (elements.takeWhile (SensorElement.opens temperatures)).map
          (SensorElement.refresh temperatures) ++
        elements.dropWhile (SensorElement.opens temperatures) := by
  induction elements with
  | nil => rfl
  | cons sensor rest ih =>
      rw [TempSensor.updateReading]
      cases opened : temperatures sensor.readingPath with
      | none =>
          have stops : ¬sensor.opens temperatures = true := by simp [SensorElement.opens, opened]
          rw [List.takeWhile_cons_of_neg stops, List.dropWhile_cons_of_neg stops]
          rfl
      | some content =>
          have gets : sensor.opens temperatures = true := by simp [SensorElement.opens, opened]
          rw [List.takeWhile_cons_of_pos gets, List.dropWhile_cons_of_pos gets, List.map_cons,
            List.cons_append, ← ih, SensorElement.refresh, opened]
          rfl

theorem updateReading_names (temperatures : String → Option (List UInt8))
    (elements : List SensorElement) :
    (TempSensor.updateReading temperatures elements).2.map SensorElement.dirName =
      elements.map SensorElement.dirName := by
  rw [updateReading_eq, List.map_append, List.map_map]
  change List.map SensorElement.dirName _ ++ _ = _
  rw [← List.map_append, List.takeWhile_append_dropWhile]

section Shown

variable {contents : String → List UInt8} {parsed : Parsed} {file : Value ℚ} {limits : ℚ × ℚ}

/-- The reports of different sensors set the objects of these sensors and no other. -/
theorem sendReadings_show (left : parsed.value? = some file)
    (found : limitsOf file "TempLimits" = some limits) (elements : List SensorElement)
    (distinct : (elements.map SensorElement.dirName).Nodup) (hwmon : TempSensor) (position : Nat)
    (present : ∀ element ∈ elements, (hwmon.sensors element.dirName).isSome) :
    let run := (forEach TempSensor.sendReading elements).run (files contents parsed) hwmon position
    (∀ element ∈ elements, run.state.sensors element.dirName =
        some (shown limits (degrees element.curReading))) ∧
      ∀ name ∉ elements.map SensorElement.dirName, run.state.sensors name = hwmon.sensors name := by
  induction elements generalizing hwmon position with
  | nil => exact ⟨fun _ absent => absurd absent List.not_mem_nil, fun _ _ => rfl⟩
  | cons element rest ih =>
      obtain ⟨absent, distinct⟩ := List.nodup_cons.mp distinct
      obtain ⟨outcome, sensors⟩ := @sendReading_shows contents parsed file limits left found
        element hwmon position (present element List.mem_cons_self)
      have kept {name : String} (different : name ≠ element.dirName) :
          ((TempSensor.sendReading element).run (files contents parsed) hwmon
            position).state.sensors name = hwmon.sensors name := by
        rw [sensors, Function.update_of_ne different]
      have later : ∀ other ∈ rest, other.dirName ≠ element.dirName :=
        fun other member same => absent (same ▸ List.mem_map_of_mem member)
      rw [forEach, run_then, Run.andThen, outcome]
      obtain ⟨set, unset⟩ := ih distinct _ _ fun other member => by
        rw [kept (later other member)]
        exact present other (List.mem_cons_of_mem _ member)
      constructor
      · intro other member
        rcases List.mem_cons.mp member with rfl | member
        · refine (unset _ absent).trans ?_
          rw [sensors, Function.update_self]
        · exact set other member
      · intro name unlisted
        rw [List.map_cons, List.mem_cons, not_or] at unlisted
        exact (unset name unlisted.2).trans (kept unlisted.1)

end Shown

section Rounds

variable {temperatures : String → Option (List UInt8)} {contents : String → List UInt8}
  {parsed : Parsed} {hwmon : TempSensor}

/-- The limits of the temperatures, when the file gives both. -/
def Parsed.tempLimits (parsed : Parsed) : Option (ℚ × ℚ) :=
  parsed.value?.bind fun file => limitsOf file "TempLimits"

/-- Each sensor with a readable file shows its content in degrees, and its alarms follow the limits. -/
def Monitors (temperatures : String → Option (List UInt8)) (parsed : Parsed)
    (before after : TempSensor) : Prop :=
  ∀ element ∈ before.elements, ∀ value, element.readable temperatures = some value →
    ∃ limits sensor, parsed.tempLimits = some limits ∧
      after.sensors element.dirName = some sensor ∧ sensor.value = degrees value ∧
      (sensor.criticalAlarmHigh = true ↔ degrees value > limits.2) ∧
      (sensor.criticalAlarmLow = true ↔ degrees value < limits.1)

/-- There are limits if there is anything to compare with them, and a readable sensor behind the first
file that cannot be opened has had the same reading before. -/
structure Settled (temperatures : String → Option (List UInt8)) (parsed : Parsed)
    (hwmon : TempSensor) : Prop where
  limits : (∃ element ∈ hwmon.elements, (element.readable temperatures).isSome) →
    parsed.tempLimits.isSome
  unchanged : ∀ element ∈ hwmon.elements.dropWhile (SensorElement.opens temperatures),
    ∀ value, element.readable temperatures = some value → element.curReading = value

/-- The sensor under the name of an element after the pass. -/
theorem mem_updateReading (settled : Settled temperatures parsed hwmon) {element : SensorElement}
    (member : element ∈ hwmon.elements) {value : Int}
    (read : element.readable temperatures = some value) :
    ∃ updated ∈ (TempSensor.updateReading temperatures hwmon.elements).2,
      updated.dirName = element.dirName ∧ updated.curReading = value := by
  rw [updateReading_eq]
  rw [← List.takeWhile_append_dropWhile (p := SensorElement.opens temperatures)
    (l := hwmon.elements), List.mem_append] at member
  rcases member with reached | unreached
  · exact ⟨element.refresh temperatures, List.mem_append_left _ (List.mem_map_of_mem reached), rfl,
      SensorElement.refresh_readable read⟩
  · exact ⟨element, List.mem_append_right _ unreached, rfl,
      settled.unchanged element unreached value read⟩

/-- When the limits can be read, a round shows every reading of the pass. -/
theorem round_shows {file : Value ℚ} {limits : ℚ × ℚ} (left : parsed.value? = some file)
    (found : limitsOf file "TempLimits" = some limits) (wired : hwmon.Wired) (position : Nat)
    {updated : SensorElement}
    (member : updated ∈ (TempSensor.updateReading temperatures hwmon.elements).2) :
    ((TempSensor.round temperatures).run (files contents parsed) hwmon position).state.sensors
      updated.dirName = some (shown limits (degrees updated.curReading)) := by
  have names := updateReading_names temperatures hwmon.elements
  have present : ∀ element ∈ (TempSensor.updateReading temperatures hwmon.elements).2,
      (hwmon.sensors element.dirName).isSome := by
    intro element member
    have listed : element.dirName ∈ hwmon.elements.map SensorElement.dirName := by
      rw [← names]
      exact List.mem_map_of_mem member
    obtain ⟨known, within, same⟩ := List.mem_map.mp listed
    rw [← same, ← Option.isSome_map]
    exact wired.exposed known within
  simp only [TempSensor.round, run_bind, run_modify, andThen_value]
  rw [run_sendAllReadings_temp]
  have distinct := names.symm ▸ wired.distinct
  exact (sendReadings_show left found _ distinct
    { hwmon with elements := (TempSensor.updateReading temperatures hwmon.elements).2 } _
    present).1 updated member

theorem settled_of_monitors (wired : hwmon.Wired) (position : Nat)
    (monitors : Monitors temperatures parsed hwmon
      ((TempSensor.round temperatures).run (files contents parsed) hwmon position).state) :
    Settled temperatures parsed hwmon := by
  constructor
  · rintro ⟨element, member, some⟩
    obtain ⟨value, read⟩ := Option.isSome_iff_exists.mp some
    obtain ⟨limits, _, known, _⟩ := monitors element member value read
    exact Option.isSome_iff_exists.mpr ⟨limits, known⟩
  · intro element unreached value read
    have member : element ∈ hwmon.elements := List.dropWhile_subset _ unreached
    obtain ⟨limits, sensor, known, object, shows, _⟩ := monitors element member value read
    obtain ⟨file, left, found⟩ := Option.bind_eq_some_iff.mp known
    have listed : element ∈ (TempSensor.updateReading temperatures hwmon.elements).2 := by
      rw [updateReading_eq]
      exact List.mem_append_right _ unreached
    have after := @round_shows temperatures contents parsed hwmon file limits left found wired
      position element listed
    rw [after] at object
    cases object
    exact degrees_inj element.inInt (SensorElement.readable_inInt read) shows

theorem monitors_of_settled (wired : hwmon.Wired) (position : Nat)
    (settled : Settled temperatures parsed hwmon) : Monitors temperatures parsed hwmon
      ((TempSensor.round temperatures).run (files contents parsed) hwmon position).state := by
  intro element member value read
  obtain ⟨limits, known⟩ := Option.isSome_iff_exists.mp
    (settled.limits ⟨element, member, Option.isSome_iff_exists.mpr ⟨value, read⟩⟩)
  obtain ⟨file, left, found⟩ := Option.bind_eq_some_iff.mp known
  obtain ⟨updated, listed, name, reading⟩ := mem_updateReading settled member read
  have after := @round_shows temperatures contents parsed hwmon file limits left found wired
    position updated listed
  rw [name, reading] at after
  exact ⟨limits, _, known, after, rfl, decide_eq_true_iff, decide_eq_true_iff⟩

/-- A round monitors every readable sensor exactly when the sensors that its pass does not reach are
settled. -/
theorem round_monitors_iff (wired : hwmon.Wired) (position : Nat) :
    Monitors temperatures parsed hwmon
        ((TempSensor.round temperatures).run (files contents parsed) hwmon position).state ↔
      Settled temperatures parsed hwmon :=
  ⟨settled_of_monitors wired position, monitors_of_settled wired position⟩

end Rounds

section Reached

/-- The monitor of the rails between the rounds of its process, whatever its files have held. -/
inductive AdcSensor.Reached (junk : Rail → AdcElement) : AdcSensor → Prop where
  | constructed {hwmon : AdcSensor} {environment : Environment interface}
      (returned : ((AdcSensor.construct junk).run environment hwmon 0).outcome = .value ()) :
      Reached junk ((AdcSensor.construct junk).run environment hwmon 0).state
  | next {hwmon : AdcSensor} {environment : Environment interface} (before : Reached junk hwmon)
      (returned : (AdcSensor.round.run environment hwmon 0).outcome = .value ()) :
      Reached junk (AdcSensor.round.run environment hwmon 0).state

/-- The monitor of the temperatures between the rounds of its process. -/
inductive TempSensor.Reached (sensorItems : List SensorElement) : TempSensor → Prop where
  | constructed {hwmon : TempSensor} {environment : Environment interface}
      (returned : ((TempSensor.construct sensorItems).run environment hwmon 0).outcome = .value ()) :
      Reached sensorItems ((TempSensor.construct sensorItems).run environment hwmon 0).state
  | next {hwmon : TempSensor} {environment : Environment interface}
      (before : Reached sensorItems hwmon) (temperatures : String → Option (List UInt8))
      (returned : ((TempSensor.round temperatures).run environment hwmon 0).outcome = .value ()) :
      Reached sensorItems ((TempSensor.round temperatures).run environment hwmon 0).state

theorem AdcSensor.Reached.wired {junk : Rail → AdcElement} {hwmon : AdcSensor}
    (reached : Reached junk hwmon) : hwmon.Wired := by
  induction reached with
  | @constructed hwmon environment returned =>
      have ended := (pre_sound _ environment hwmon 0 (construct_wired junk hwmon)).2
      rw [returned] at ended
      exact ended
  | @next hwmon environment _ returned ih =>
      have ended := (pre_sound _ environment hwmon 0 (round_wired ih)).2
      rw [returned] at ended
      exact ended

/-- A round of the temperatures keeps the names and the objects of the sensors. -/
theorem TempSensor.round_exposes (temperatures : String → Option (List UInt8)) {hwmon : TempSensor}
    (exposes : hwmon.Exposes SensorElement.dirName) :
    (round temperatures).pre anyCall (returning fun _ next =>
      next.elements.map SensorElement.dirName = hwmon.elements.map SensorElement.dirName ∧
        next.Exposes SensorElement.dirName) hwmon := by
  have names := updateReading_names temperatures hwmon.elements
  have still : Hwmon.Exposes
      { hwmon with elements := (updateReading temperatures hwmon.elements).2 }
      SensorElement.dirName := by
    intro element member
    have listed : element.dirName ∈ hwmon.elements.map SensorElement.dirName := by
      rw [← names]
      exact List.mem_map_of_mem member
    obtain ⟨known, within, same⟩ := List.mem_map.mp listed
    exact same ▸ exposes known within
  rw [round, pre_bind, pre_modify]
  apply pre_value (sendAllReadings_exposes still)
  rintro _ next ⟨elements, exposed⟩
  exact ⟨by rw [elements, names], exposed⟩

theorem TempSensor.Reached.wired {sensorItems : List SensorElement} {hwmon : TempSensor}
    (distinct : (sensorItems.map SensorElement.dirName).Nodup) (reached : Reached sensorItems hwmon) :
    hwmon.Wired := by
  induction reached with
  | @constructed hwmon environment returned =>
      have ended := (pre_sound _ environment hwmon 0 (construct_exposes sensorItems hwmon)).2
      rw [returned] at ended
      obtain ⟨elements, exposes⟩ := ended
      exact ⟨exposes, by rw [elements]; exact distinct⟩
  | @next hwmon environment _ temperatures returned ih =>
      have ended := (pre_sound _ environment hwmon 0 (round_exposes temperatures ih.exposed)).2
      rw [returned] at ended
      obtain ⟨names, exposes⟩ := ended
      exact ⟨exposes, by rw [names]; exact ih.distinct⟩

/-- The shipped limits, as the file gives them. -/
def shipped : Parsed := .accepted (shippedLimits (63 / 5))

/-- The monitors as their constructors leave them. -/
def startedRails : AdcSensor :=
  ((AdcSensor.construct fun _ => ⟨"", "", 0, 0, 0, 0⟩).run (files (fun _ => ascii "100") shipped)
    ⟨[], fun _ => none, .null⟩ 0).state

def startedSensors : TempSensor :=
  ((TempSensor.construct [⟨"hwmon0", 25000, inInt_mild⟩]).run (files (fun _ => []) shipped)
    ⟨[], fun _ => none, .null⟩ 0).state

theorem startedRails_reached : AdcSensor.Reached (fun _ => ⟨"", "", 0, 0, 0, 0⟩) startedRails :=
  .constructed (by decide +kernel)

theorem startedSensors_reached :
    TempSensor.Reached [⟨"hwmon0", 25000, inInt_mild⟩] startedSensors :=
  .constructed (by decide +kernel)

variable {junk : Rail → AdcElement} {sensorItems : List SensorElement}
  (distinct : (sensorItems.map SensorElement.dirName).Nodup) {adc : AdcSensor} {temp : TempSensor}
  {contents : String → List UInt8} {parsed : Parsed}

include distinct

/-- After the constructor and any completed rounds, one more round shows every readable sensor and flags
it by the limits exactly when the sensors that its pass does not reach are settled. -/
theorem reached_monitors_iff (reached : TempSensor.Reached sensorItems temp)
    (temperatures : String → Option (List UInt8)) :
    Monitors temperatures parsed temp
        ((TempSensor.round temperatures).run (files contents parsed) temp 0).state ↔
      Settled temperatures parsed temp :=
  have wired := reached.wired distinct
  ⟨settled_of_monitors wired 0, monitors_of_settled wired 0⟩

omit distinct in
theorem reached_monitors_iff_shipped :
    Monitors (fun _ => some (ascii "26000")) shipped startedSensors
        ((TempSensor.round fun _ => some (ascii "26000")).run (files (fun _ => []) shipped)
          startedSensors 0).state ↔
      Settled (fun _ => some (ascii "26000")) shipped startedSensors :=
  reached_monitors_iff (by simp) startedSensors_reached _

end Reached

/-- Only the second sensor can be read, and it has become too hot. -/
def secondHot (path : String) : Option (List UInt8) :=
  if path = "/sys/class/hwmon/hwmon1/temp1_input" then some (ascii "90000") else none

def twoSensors : TempSensor where
  elements := [⟨"hwmon0", 25000, inInt_mild⟩, ⟨"hwmon1", 25000, inInt_mild⟩]
  sensors _ := some ⟨25, 80, -20, false, false⟩
  limitJson := .null

theorem twoSensors_wired : twoSensors.Wired := ⟨fun _ _ => rfl, by decide⟩

/-- The first sensor freezes the reading of the second one. -/
theorem second_frozen : ¬∀ (temperatures : String → Option (List UInt8))
    (contents : String → List UInt8) (parsed : Parsed) (hwmon : TempSensor) (position : Nat),
      hwmon.Wired → Monitors temperatures parsed hwmon
        ((TempSensor.round temperatures).run (files contents parsed) hwmon position).state := by
  intro always
  have settled := settled_of_monitors twoSensors_wired 0
    (always secondHot (fun _ => []) (.accepted (shippedLimits (63 / 5))) _ 0 twoSensors_wired)
  have behind : (⟨"hwmon1", 25000, inInt_mild⟩ : SensorElement) ∈
      twoSensors.elements.dropWhile (SensorElement.opens secondHot) := by
    have closed : ¬SensorElement.opens secondHot ⟨"hwmon0", 25000, inInt_mild⟩ = true := by decide +kernel
    rw [twoSensors, List.dropWhile_cons_of_neg closed]
    exact List.mem_cons_of_mem _ (List.mem_singleton_self _)
  have read : SensorElement.readable secondHot ⟨"hwmon1", 25000, inInt_mild⟩ = some 90000 := by
    decide +kernel
  exact absurd (settled.unchanged _ behind 90000 read) (by decide)

/-- A sensor alone is settled when its file can be read. -/
theorem round_monitors_warmMonitor :
    Monitors (fun _ => some (ascii "26000")) (.accepted (shippedLimits (63 / 5))) warmMonitor
      ((TempSensor.round fun _ => some (ascii "26000")).run
        (files (fun _ => []) (.accepted (shippedLimits (63 / 5)))) warmMonitor 0).state := by
  refine (round_monitors_iff warmMonitor_wired 0).mpr ⟨fun _ => by decide +kernel, ?_⟩
  have none : warmMonitor.elements.dropWhile
      (SensorElement.opens fun _ => some (ascii "26000")) = [] := by decide +kernel
  rw [none]
  exact fun _ absent => absurd absent List.not_mem_nil

end Chassis.Monitor
