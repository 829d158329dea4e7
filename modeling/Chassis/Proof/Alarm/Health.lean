import Chassis.Construction.Health
import Chassis.Proof.Alarm.Scan

namespace Chassis.Health
open Effect Program Boot Alarm

/-- The check gets past a sensor when each flag that it asks for can be read. -/
def passes (sensors : Sensors) (path : String) : Bool :=
  match sensors.flag path "CriticalAlarmLow" with
  | none => false
  | some low => low || (sensors.flag path "CriticalAlarmHigh").isSome

/-- A flag of the sensor is set. -/
def alarming (sensors : Sensors) (path : String) : Bool :=
  sensors.flag path "CriticalAlarmLow" == some true ||
    sensors.flag path "CriticalAlarmHigh" == some true

/-- The sensors that a check gets past. -/
def checked (sensors : Sensors) (stub : String) : List String :=
  (sensors.listed stub).takeWhile (passes sensors)

section Check

variable {State : Type} {sensors : Sensors} {state : State}

theorem checkPaths_found (alarmactive : Bool) (paths : List String) :
    (checkPaths alarmactive paths).rely sensors.Answers (.returns fun found _ =>
      found = (alarmactive || (paths.takeWhile (passes sensors)).any (alarming sensors))) state := by
  induction paths generalizing alarmactive with
  | nil => exact (Bool.or_false alarmactive).symm
  | cons path rest ih =>
      apply rely_given fun _ read => read
      cases low : sensors.flag path "CriticalAlarmLow" with
      | none =>
          have stops : passes sensors path = false := by simp [passes, low]
          simp only [List.takeWhile_cons_of_neg (ne_true_of_eq_false stops), List.any_nil,
            Bool.or_false]
          rfl
      | some set =>
          cases set with
          | true =>
              have gets : passes sensors path = true := by simp [passes, low]
              have set : alarming sensors path = true := by simp [alarming, low]
              simp only [List.takeWhile_cons_of_pos gets, List.any_cons, set, Bool.true_or,
                Bool.or_true]
              exact ih true
          | false =>
              apply rely_given fun _ read => read
              cases high : sensors.flag path "CriticalAlarmHigh" with
              | none =>
                  have stops : passes sensors path = false := by simp [passes, low, high]
                  simp only [List.takeWhile_cons_of_neg (ne_true_of_eq_false stops), List.any_nil,
                    Bool.or_false]
                  rfl
              | some set =>
                  have gets : passes sensors path = true := by simp [passes, low, high]
                  have shown : alarming sensors path = set := by simp [alarming, low, high]
                  simp only [List.takeWhile_cons_of_pos gets, List.any_cons, shown,
                    ← Bool.or_assoc]
                  exact ih (alarmactive || set)

/-- A check finds the alarming sensors that it gets past. -/
theorem alarmCheck_found (stub : String) : (alarmCheck stub).rely sensors.Answers
    (.returns fun found _ => found = (checked sensors stub).any (alarming sensors)) state := by
  apply rely_given fun _ found => found
  rw [checked, Sensors.listed]
  cases sensors.paths stub with
  | none => rfl
  | some paths => exact checkPaths_found false paths

/-- Only the voltages decide. -/
theorem getAllAlarmsStatus_outcome (sensors : Sensors) (other : Environment interface)
    (state : State) (position : Nat) :
    (getAllAlarmsStatus.run (sensors.environment other) state position).outcome = .value
      (if (checked sensors voltageStub).any (alarming sensors) then 0x02 else 0x01) := by
  have returns : (getAllAlarmsStatus : Program interface State UInt8).rely sensors.Answers (.returns
      fun status _ => status =
        if (checked sensors voltageStub).any (alarming sensors) then 0x02 else 0x01) state := by
    apply rely_then (alarmCheck_found temperatureStub)
    rintro temperature checked -
    apply rely_then (alarmCheck_found tachStub)
    rintro tach checked -
    apply rely_then (alarmCheck_found voltageStub)
    rintro voltage checked rfl
    rfl
  exact Sensors.sound_returns returns other position

end Check

/-- The low flag is set and the high flag cannot be read. -/
def halfRead (sensors : Sensors) (path : String) : Bool :=
  sensors.flag path "CriticalAlarmLow" == some true &&
    (sensors.flag path "CriticalAlarmHigh").isNone

/-- A sensor that a check gets past alarms when it is raised, or before its second flag is read. -/
theorem alarming_iff {sensors : Sensors} {path : String} (gets : passes sensors path = true) :
    alarming sensors path = true ↔
      sensors.raised path = true ∨ halfRead sensors path = true := by
  cases low : sensors.flag path "CriticalAlarmLow" with
  | none => simp [passes, low] at gets
  | some first =>
      cases high : sensors.flag path "CriticalAlarmHigh" with
      | none =>
          cases first with
          | false => simp [passes, low, high] at gets
          | true => simp [alarming, halfRead, low, high]
      | some second => simp [alarming, Sensors.raised, Sensors.flags, halfRead, low, high]

theorem checked_listed {sensors : Sensors} {stub path : String}
    (member : path ∈ checked sensors stub) :
    path ∈ sensors.listed stub ∧ passes sensors path = true :=
  ⟨List.takeWhile_subset _ member, List.all_eq_true.mp List.all_takeWhile path member⟩

/-- The sensors whose alarms the status stands for. -/
def monitored (sensors : Sensors) : List String :=
  sensors.listed temperatureStub ++ sensors.listed tachStub ++ sensors.listed voltageStub

/-- The voltages tell of every alarm, and of no alarm that is only half read. -/
structure VoltagesTell (sensors : Sensors) : Prop where
  alarm : (∃ path ∈ monitored sensors, sensors.raised path = true) →
    ∃ path ∈ checked sensors voltageStub, alarming sensors path = true
  silence : (∀ path ∈ monitored sensors, sensors.raised path = false) →
    ∀ path ∈ checked sensors voltageStub, halfRead sensors path = false

theorem voltagesTell_iff (sensors : Sensors) :
    ((∃ path ∈ checked sensors voltageStub, alarming sensors path = true) ↔
        ∃ path ∈ monitored sensors, sensors.raised path = true) ↔
      VoltagesTell sensors := by
  constructor
  · intro same
    refine ⟨same.mpr, ?_⟩
    intro silent path member
    by_contra half
    have alarms := (alarming_iff (checked_listed member).2).mpr
      (Or.inr (Bool.eq_true_of_not_eq_false half))
    obtain ⟨other, listed, raised⟩ := same.mp ⟨path, member, alarms⟩
    exact ne_true_of_eq_false (silent other listed) raised
  · intro tell
    refine ⟨?_, tell.alarm⟩
    rintro ⟨path, member, alarms⟩
    obtain ⟨listed, gets⟩ := checked_listed member
    by_contra none
    have silent : ∀ other ∈ monitored sensors, sensors.raised other = false :=
      fun other within => Bool.eq_false_of_not_eq_true fun raised => none ⟨other, within, raised⟩
    rcases (alarming_iff gets).mp alarms with raised | half
    · exact none ⟨path, List.mem_append_right _ listed, raised⟩
    · exact ne_true_of_eq_false (tell.silence silent path member) half

/-- The status stands for the alarms of all sensors exactly when the voltages tell of them. -/
theorem getAllAlarmsStatus_iff {State : Type} (sensors : Sensors) (other : Environment interface)
    (state : State) (position : Nat) :
    ((getAllAlarmsStatus.run (sensors.environment other) state position).outcome =
        .value (if (monitored sensors).any sensors.raised then 0x02 else 0x01)) ↔
      VoltagesTell sensors := by
  have codes (first second : Bool) :
      (if first then 0x02 else 0x01 : UInt8) = (if second then 0x02 else 0x01) ↔
        (first = true ↔ second = true) := by
    revert first second
    decide
  rw [getAllAlarmsStatus_outcome, ← voltagesTell_iff, Outcome.value.injEq, codes,
    List.any_eq_true, List.any_eq_true]

/-- The only sensor is too hot. -/
def hotSensors : Sensors where
  paths stub := some (if stub = temperatureStub then [firstSensor] else [])
  flag _ property := some (property == "CriticalAlarmHigh")
  value _ := some 90

/-- The checks of the fans and of the voltages discard the alarm of the temperature. -/
theorem hot_unreported : ¬∀ (sensors : Sensors) (other : Environment interface) (state : Unit)
    (position : Nat), (getAllAlarmsStatus.run (sensors.environment other) state position).outcome =
      .value (if (monitored sensors).any sensors.raised then 0x02 else 0x01) := by
  intro always
  have status := always hotSensors (fun _ => default) () 0
  rw [getAllAlarmsStatus_outcome] at status
  have raised : (monitored hotSensors).any hotSensors.raised = true := by decide +kernel
  have silent : (checked hotSensors voltageStub).any (alarming hotSensors) = false := by
    decide +kernel
  rw [raised, silent] at status
  cases status

end Chassis.Health
