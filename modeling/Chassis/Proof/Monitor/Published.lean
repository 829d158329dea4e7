import Chassis.Proof.Monitor.LastLimits

namespace Chassis.Monitor
open Effect Program Json

/-- The limits that the object of a name publishes, the lower one first. -/
def Hwmon.published {Element : Type} (hwmon : Hwmon Element) (name : String) : Option (ℚ × ℚ) :=
  (hwmon.sensors name).map fun sensor => (sensor.criticalLow, sensor.criticalHigh)

theorem published_isSome {Element : Type} (hwmon : Hwmon Element) (name : String) :
    (hwmon.published name).isSome = (hwmon.board name).isSome := by
  simp [Hwmon.published, Hwmon.board]

section Passes

variable {contents : String → List UInt8} {parsed : Parsed} {file : Value ℚ} {limits : ℚ × ℚ}

/-- The object that a report leaves. -/
def shown (limits : ℚ × ℚ) (reading : ℚ) : Sensor where
  value := reading
  criticalHigh := limits.2
  criticalLow := limits.1
  criticalAlarmHigh := decide (reading > limits.2)
  criticalAlarmLow := decide (reading < limits.1)

/-- A report sets every property of the object of its sensor. -/
theorem sendReading_shows (left : parsed.value? = some file)
    (found : limitsOf file "TempLimits" = some limits) (element : SensorElement)
    (hwmon : TempSensor) (position : Nat)
    (present : (hwmon.sensors element.dirName).isSome) :
    let run := (TempSensor.sendReading element).run (files contents parsed) hwmon position
    run.outcome = .value () ∧ run.state.sensors =
      Function.update hwmon.sensors element.dirName
        (some (shown limits (degrees element.curReading))) := by
  obtain ⟨calls, ran⟩ := run_loadLimits contents hwmon position left
  obtain ⟨sensor, known⟩ := Option.isSome_iff_exists.mp present
  obtain ⟨low, lowFound, rest⟩ := Option.bind_eq_some_iff.mp found
  obtain ⟨high, highFound, rfl⟩ := Option.map_eq_some_iff.mp rest
  simp only [TempSensor.sendReading, run_bind, ran, andThen_value]
  simp [report, run_readLimit, lowFound, highFound,
    run_updateSensor (files contents parsed) { hwmon with limitJson := file } _ known,
    run_updateSensor _ _ _ (setSensor_same _ _ _)]
  rfl

/-- A report publishes the limits of the file. -/
theorem sendReading_publishes (left : parsed.value? = some file)
    (found : limitsOf file "TempLimits" = some limits) (element : SensorElement)
    (hwmon : TempSensor) (position : Nat)
    (present : (hwmon.board element.dirName).isSome) :
    let run := (TempSensor.sendReading element).run (files contents parsed) hwmon position
    run.outcome = .value () ∧
      run.state.published = Function.update hwmon.published element.dirName (some limits) := by
  rw [Hwmon.board, Option.isSome_map] at present
  obtain ⟨outcome, sensors⟩ :=
    @sendReading_shows contents parsed file limits left found element hwmon position present
  refine ⟨outcome, funext fun name => ?_⟩
  rw [Hwmon.published, sensors]
  rcases eq_or_ne name element.dirName with rfl | different
  · rw [Function.update_self, Function.update_self]
    rfl
  · rw [Function.update_of_ne different, Function.update_of_ne different, Hwmon.published]

/-- A pass publishes the limits of the file for each of its sensors. -/
theorem sendReadings_publish (left : parsed.value? = some file)
    (found : limitsOf file "TempLimits" = some limits) (elements : List SensorElement)
    (hwmon : TempSensor) (position : Nat)
    (present : ∀ element ∈ elements, (hwmon.board element.dirName).isSome) (name : String) :
    ((forEach TempSensor.sendReading elements).run (files contents parsed) hwmon
        position).state.published name =
      if name ∈ elements.map SensorElement.dirName then some limits else hwmon.published name := by
  induction elements generalizing hwmon position with
  | nil => rfl
  | cons element rest ih =>
      obtain ⟨outcome, published⟩ := @sendReading_publishes contents parsed file limits left found
        element hwmon position (present element List.mem_cons_self)
      rw [forEach, run_then, Run.andThen, outcome]
      refine (ih _ _ ?_).trans ?_
      · intro other later
        rw [← published_isSome, published]
        by_cases same : other.dirName = element.dirName
        · rw [same, Function.update_self]
          rfl
        · rw [Function.update_of_ne same, published_isSome]
          exact present other (List.mem_cons_of_mem _ later)
      · simp only [published, List.map_cons, List.mem_cons]
        by_cases same : name = element.dirName
        · simp [same]
        · simp [same]

/-- A round publishes the limits of the file for each sensor. -/
theorem sendAllReadings_publishes (left : parsed.value? = some file)
    (found : limitsOf file "TempLimits" = some limits) {hwmon : TempSensor}
    (exposed : hwmon.Exposes SensorElement.dirName) (position : Nat) :
    ∀ element ∈ hwmon.elements,
      (TempSensor.sendAllReadings.run (files contents parsed) hwmon position).state.published
        element.dirName = some limits := by
  intro element member
  rw [run_sendAllReadings_temp, sendReadings_publish left found _ _ _ exposed, if_pos]
  exact List.mem_map_of_mem member

/-- After a round that returns a sensor publishes limits and its alarms follow them just when the file
has these limits. -/
theorem sendAllReadings_limits_iff (left : parsed.value? = some file) {hwmon : TempSensor}
    (wired : hwmon.Wired) (position : Nat) {element : SensorElement}
    (member : element ∈ hwmon.elements) (limits : ℚ × ℚ) :
    let run := TempSensor.sendAllReadings.run (files contents parsed) hwmon position
    (run.outcome = .value () ∧ run.state.published element.dirName = some limits ∧
        run.state.board element.dirName = some (classify limits (degrees element.curReading))) ↔
      limitsOf file "TempLimits" = some limits := by
  obtain ⟨outcome, board⟩ :=
    @sendAllReadings_reported contents parsed file left hwmon wired.exposed position
  have wellFormed : (reports file (TempSensor.probes hwmon) hwmon.board).1 = true ↔
      (limitsOf file "TempLimits").isSome = true := by
    rw [reports_complete]
    constructor
    · exact fun all => all element.probe (List.mem_map_of_mem member)
    · intro some probe present
      obtain ⟨sensor, _, rfl⟩ := List.mem_map.mp present
      exact some
  constructor
  · rintro ⟨returned, published, _⟩
    have complete : (reports file (TempSensor.probes hwmon) hwmon.board).1 = true := by
      by_contra broken
      rw [if_neg broken, returned] at outcome
      cases outcome
    obtain ⟨found, known⟩ := Option.isSome_iff_exists.mp (wellFormed.mp complete)
    have same := @sendAllReadings_publishes contents parsed file found left known hwmon
      wired.exposed position element member
    rw [known, ← same, published]
  · intro known
    have some : (limitsOf file "TempLimits").isSome = true := Option.isSome_iff_exists.mpr ⟨_, known⟩
    refine ⟨?_, ?_, ?_⟩
    · rw [outcome, if_pos (wellFormed.mpr some)]
    · exact @sendAllReadings_publishes contents parsed file limits left known hwmon wired.exposed
        position element member
    · have reachable := reached_of_wellFormed
        ((reports_complete file _ hwmon.board).mp (wellFormed.mpr some))
      have distinct : ((TempSensor.probes hwmon).map Probe.name).Nodup := by
        rw [List.map_map]
        exact wired.distinct
      have flags := reports_reached file _ hwmon.board distinct
        (reachable.symm ▸ List.mem_map_of_mem member : element.probe ∈ reached file _)
      rw [board]
      refine flags.trans ?_
      change (limitsOf file "TempLimits").map _ = _
      rw [known]
      rfl

end Passes

end Chassis.Monitor
