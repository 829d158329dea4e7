import Chassis.Proof.Monitor.Round
import Mathlib.Data.List.TakeWhile

namespace Chassis.Monitor
open Effect Program Json

/-- The limits of every probe can be read. -/
def WellFormed (limitJson : Value ℚ) (probes : List Probe) : Prop :=
  ∀ probe ∈ probes, (limitsOf limitJson probe.limits).isSome = true

instance (limitJson : Value ℚ) (probes : List Probe) : Decidable (WellFormed limitJson probes) :=
  inferInstanceAs (Decidable (∀ probe ∈ probes, (limitsOf limitJson probe.limits).isSome = true))

/-- The file has the last well-formed limits when it is accepted with limits for every probe. -/
def lastLimits (probes : List Probe) (last : Value ℚ) : Parsed → Value ℚ
  | .accepted value => if WellFormed value probes then value else last
  | .rejected _ => last
  | .outOfRange => last

/-- The classes that limits give to a probe. -/
def classOf (limitJson : Value ℚ) (probe : Probe) : Option (Bool × Bool) :=
  (limitsOf limitJson probe.limits).map fun limits => classify limits probe.reading

variable {Element : Type}

/-- The round completes and leaves the flags that the limits give to each reading. -/
def Follows (limitJson : Value ℚ) (probes : List Probe)
    (run : Run interface (Hwmon Element) Unit) : Prop :=
  run.outcome = .value () ∧ ∀ probe ∈ probes, ∃ flags, classOf limitJson probe = some flags ∧
    run.state.board probe.name = some flags

/-- The file leaves limits for every probe, and they class each reading as the last well-formed ones
do. -/
def Survives (parsed : Parsed) (last : Value ℚ) (probes : List Probe) : Prop :=
  ∃ file, parsed.value? = some file ∧ WellFormed file probes ∧
    ∀ probe ∈ probes, classOf file probe = classOf (lastLimits probes last parsed) probe

theorem reached_of_wellFormed {limitJson : Value ℚ} {probes : List Probe}
    (wellFormed : WellFormed limitJson probes) : reached limitJson probes = probes :=
  List.takeWhile_eq_self_iff.mpr wellFormed

/-- A run with the flags of the reports follows exactly the limits that class each reading alike. -/
theorem follows_iff {file limitJson : Value ℚ} {probes : List Probe} {board : Board}
    {run : Run interface (Hwmon Element) Unit} (distinct : (probes.map Probe.name).Nodup)
    (outcome : run.outcome =
      if (reports file probes board).1 then .value () else .thrown .typeError)
    (left : run.state.board = (reports file probes board).2) :
    Follows limitJson probes run ↔ WellFormed file probes ∧
      ∀ probe ∈ probes, classOf file probe = classOf limitJson probe := by
  constructor
  · intro follows
    have complete : (reports file probes board).1 = true := by
      by_contra broken
      rw [if_neg broken] at outcome
      exact nomatch outcome.symm.trans follows.1
    have wellFormed : WellFormed file probes := (reports_complete file probes board).mp complete
    refine ⟨wellFormed, ?_⟩
    intro probe member
    obtain ⟨flags, classed, set⟩ := follows.2 probe member
    have flagged := reports_reached file probes board distinct
      ((reached_of_wellFormed wellFormed).symm ▸ member)
    rw [left, flagged] at set
    rw [classed]
    exact set
  · intro survives
    have complete := (reports_complete file probes board).mpr survives.1
    rw [if_pos complete] at outcome
    refine ⟨outcome, ?_⟩
    intro probe member
    have flagged := reports_reached file probes board distinct
      ((reached_of_wellFormed survives.1).symm ▸ member)
    obtain ⟨limits, found⟩ := Option.isSome_iff_exists.mp (survives.1 probe member)
    rw [found, Option.map_some] at flagged
    refine ⟨classify limits probe.reading, ?_, left ▸ flagged⟩
    rw [← survives.2 probe member, classOf, found, Option.map_some]

/-- The elements have objects and different names, as the entries of one directory do. -/
structure TempSensor.Wired (hwmon : TempSensor) : Prop where
  exposed : hwmon.Exposes SensorElement.dirName
  distinct : (hwmon.elements.map SensorElement.dirName).Nodup

def SensorElement.probe (sensor : SensorElement) : Probe :=
  ⟨sensor.dirName, "TempLimits", degrees sensor.curReading⟩

abbrev AdcSensor.probes (hwmon : AdcSensor) : List Probe := hwmon.elements.map AdcElement.probe

abbrev TempSensor.probes (hwmon : TempSensor) : List Probe :=
  hwmon.elements.map SensorElement.probe

section Rounds

variable {contents : String → List UInt8} {parsed : Parsed} {last : Value ℚ}

theorem AdcSensor.Wired.names {hwmon : AdcSensor} (wired : hwmon.Wired) :
    (AdcSensor.probes hwmon).map Probe.name = rails.map Rail.name := by
  have same := congrArg (List.map Prod.fst) wired.elements
  rw [List.map_map, List.map_map] at same
  rw [List.map_map]
  exact same

/-- A round of the ADC completes with the right flags for exactly the files that it survives. -/
theorem adc_follows_iff {hwmon : AdcSensor} (wired : hwmon.Wired) (position : Nat) :
    Follows (lastLimits (AdcSensor.probes hwmon) last parsed) (AdcSensor.probes hwmon)
        (AdcSensor.sendAllReadings.run (files contents parsed) hwmon position) ↔
      Survives parsed last (AdcSensor.probes hwmon) := by
  cases left : parsed.value? with
  | none =>
      cases parsed with
      | accepted value => cases left
      | rejected value => cases left
      | outOfRange =>
          constructor
          · intro follows
            have thrown := (@run_sendAllReadings_outOfRange contents hwmon position).1
            exact nomatch thrown.symm.trans follows.1
          · intro survives
            obtain ⟨file, written, _⟩ := survives
            cases written
  | some file =>
      have present : ∀ adc ∈ hwmon.elements, (hwmon.board adc.name).isSome := by
        intro adc member
        have listed : adc.name ∈ rails.map Rail.name := by
          rw [← wired.names, List.map_map]
          exact List.mem_map_of_mem member
        obtain ⟨rail, known, same⟩ := List.mem_map.mp listed
        exact same ▸ wired.exposed rail known
      have distinct : ((AdcSensor.probes hwmon).map Probe.name).Nodup := by
        rw [wired.names]
        decide
      obtain ⟨outcome, board⟩ :=
        @run_sendAllReadings contents parsed hwmon file left present position
      rw [follows_iff distinct outcome board, Survives]
      simp only [left, Option.some.injEq, exists_eq_left']

/-- Each report of a temperature reads the limits again. -/
theorem sendReading_reported {file : Value ℚ} (left : parsed.value? = some file)
    (sensor : SensorElement) (hwmon : TempSensor) (position : Nat)
    (present : (hwmon.board sensor.probe.name).isSome) :
    Reported file sensor.probe hwmon
      ((TempSensor.sendReading sensor).run (files contents parsed) hwmon position) := by
  obtain ⟨calls, ran⟩ := run_loadLimits contents hwmon position left
  have reported := report_reported (files contents parsed) { hwmon with limitJson := file }
    (position + calls.length) sensor.probe present
  simp only [TempSensor.sendReading, run_bind, ran, andThen_value]
  exact ⟨reported.outcome, reported.elements, reported.limits, reported.board⟩

/-- A round of the temperatures is the loop over its sensors. -/
theorem run_sendAllReadings_temp (hwmon : TempSensor) (position : Nat) :
    TempSensor.sendAllReadings.run (files contents parsed) hwmon position =
      (forEach TempSensor.sendReading hwmon.elements).run (files contents parsed) hwmon
        position := by
  simp only [TempSensor.sendAllReadings, run_bind, run_read, andThen_value, List.length_nil,
    Nat.add_zero, List.nil_append]

/-- A round of the temperatures leaves the flags of the reports of its sensors in order. -/
theorem sendAllReadings_reported {file : Value ℚ} (left : parsed.value? = some file)
    {hwmon : TempSensor} (exposed : hwmon.Exposes SensorElement.dirName) (position : Nat) :
    (TempSensor.sendAllReadings.run (files contents parsed) hwmon position).outcome =
        (if (reports file (TempSensor.probes hwmon) hwmon.board).1 then .value ()
          else .thrown .typeError) ∧
      (TempSensor.sendAllReadings.run (files contents parsed) hwmon position).state.board =
        (reports file (TempSensor.probes hwmon) hwmon.board).2 := by
  rw [run_sendAllReadings_temp]
  obtain ⟨outcome, board, _⟩ := @forEach_reported SensorElement (files contents parsed) file
    TempSensor.sendReading SensorElement.probe (fun _ => True) (fun _ _ => trivial)
    (fun sensor hwmon position _ => sendReading_reported left sensor hwmon position)
    hwmon.elements hwmon position trivial exposed
  exact ⟨outcome, board⟩

/-- A round of the temperatures completes with the right flags for exactly the files that it
survives, and for every file when there is no sensor. -/
theorem temp_follows_iff {hwmon : TempSensor} (wired : hwmon.Wired) (position : Nat) :
    Follows (lastLimits (TempSensor.probes hwmon) last parsed) (TempSensor.probes hwmon)
        (TempSensor.sendAllReadings.run (files contents parsed) hwmon position) ↔
      hwmon.elements = [] ∨ Survives parsed last (TempSensor.probes hwmon) := by
  cases left : parsed.value? with
  | none =>
      cases parsed with
      | accepted value => cases left
      | rejected value => cases left
      | outOfRange =>
          have never : ¬ Survives .outOfRange last (TempSensor.probes hwmon) := by
            intro survives
            obtain ⟨file, written, _⟩ := survives
            cases written
          rw [or_iff_left never]
          rcases hwmon with ⟨_ | ⟨element, rest⟩, sensors, limitJson⟩
          · exact iff_of_true ⟨rfl, fun _ absent => absurd absent List.not_mem_nil⟩ rfl
          · apply iff_of_false _ (List.cons_ne_nil _ _)
            intro follows
            obtain ⟨calls, ran⟩ := run_loadLimits_outOfRange contents
              (⟨element :: rest, sensors, limitJson⟩ : TempSensor) position
            have thrown := follows.1
            simp [run_sendAllReadings_temp, forEach, run_then, TempSensor.sendReading, ran] at thrown
  | some file =>
      have distinct : ((TempSensor.probes hwmon).map Probe.name).Nodup := by
        rw [List.map_map]
        exact wired.distinct
      obtain ⟨outcome, board⟩ :=
        @sendAllReadings_reported contents parsed file left hwmon wired.exposed position
      rw [follows_iff distinct outcome board, Survives]
      simp only [left, Option.some.injEq, exists_eq_left']
      constructor
      · exact Or.inr
      · intro either
        rcases either with none | survives
        · simp [TempSensor.probes, none, WellFormed]
        · exact survives

/-- One round of both monitors completes with flags from the current readings and the last
well-formed limits for exactly the files that they survive. -/
theorem rounds_follow_iff {adc : AdcSensor} {temp : TempSensor} (adcWired : adc.Wired)
    (tempWired : temp.Wired) :
    (Follows (lastLimits (AdcSensor.probes adc) last parsed) (AdcSensor.probes adc)
          (AdcSensor.sendAllReadings.run (files contents parsed) adc 0) ∧
        Follows (lastLimits (TempSensor.probes temp) last parsed) (TempSensor.probes temp)
          (TempSensor.sendAllReadings.run (files contents parsed) temp 0)) ↔
      Survives parsed last (AdcSensor.probes adc) ∧
        (temp.elements = [] ∨ Survives parsed last (TempSensor.probes temp)) :=
  and_congr (adc_follows_iff adcWired 0) (temp_follows_iff tempWired 0)

end Rounds

/-- One temperature sensor that reads 25 degrees. -/
def warmMonitor : TempSensor where
  elements := [⟨"hwmon0", 25000, inInt_mild⟩]
  sensors _ := some ⟨0, 0, 0, false, false⟩
  limitJson := .null

theorem warmMonitor_wired : warmMonitor.Wired :=
  ⟨fun _ _ => rfl, by simp [warmMonitor]⟩

theorem rounds_follow_iff_shipped : (Follows
        (lastLimits (AdcSensor.probes quietMonitor) .null (.accepted (shippedLimits (63 / 5))))
        (AdcSensor.probes quietMonitor) (AdcSensor.sendAllReadings.run
          (files (fun _ => []) (.accepted (shippedLimits (63 / 5)))) quietMonitor 0) ∧
      Follows
        (lastLimits (TempSensor.probes warmMonitor) .null (.accepted (shippedLimits (63 / 5))))
        (TempSensor.probes warmMonitor) (TempSensor.sendAllReadings.run
          (files (fun _ => []) (.accepted (shippedLimits (63 / 5)))) warmMonitor 0)) := by
  apply (rounds_follow_iff quietMonitor_wired warmMonitor_wired).mpr
  have adc : WellFormed (shippedLimits (63 / 5)) (AdcSensor.probes quietMonitor) := by
    decide +kernel
  have temp : WellFormed (shippedLimits (63 / 5)) (TempSensor.probes warmMonitor) := by
    decide +kernel
  refine ⟨⟨_, rfl, adc, ?_⟩, Or.inr ⟨_, rfl, temp, ?_⟩⟩
  · intro probe _
    rw [lastLimits, if_pos adc]
  · intro probe _
    rw [lastLimits, if_pos temp]

theorem rounds_follow_fails : ¬ ∀ (contents : String → List UInt8) (parsed : Parsed)
    (last : Value ℚ) (adc : AdcSensor) (temp : TempSensor), adc.Wired → temp.Wired →
      WellFormed last (AdcSensor.probes adc) → WellFormed last (TempSensor.probes temp) →
      Follows (lastLimits (AdcSensor.probes adc) last parsed) (AdcSensor.probes adc)
          (AdcSensor.sendAllReadings.run (files contents parsed) adc 0) ∧
        Follows (lastLimits (TempSensor.probes temp) last parsed) (TempSensor.probes temp)
          (TempSensor.sendAllReadings.run (files contents parsed) temp 0) := by
  intro always
  -- An empty file is a parse error that leaves a null.
  have follows := always (fun _ => []) (.rejected .null) (shippedLimits (63 / 5)) quietMonitor
    warmMonitor quietMonitor_wired warmMonitor_wired (by decide +kernel) (by decide +kernel)
  obtain ⟨file, left, wellFormed, _⟩ := (adc_follows_iff quietMonitor_wired 0).mp follows.1
  cases left
  have broken : ¬ WellFormed .null (AdcSensor.probes quietMonitor) := by decide +kernel
  exact broken wellFormed

end Chassis.Monitor
