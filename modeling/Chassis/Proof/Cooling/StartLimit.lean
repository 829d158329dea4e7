import Chassis.Proof.Cooling.Rules

namespace Chassis.Cooling
open Effect Program Json Monitor Vita4611

/-- The controller that a run leaves when it returns. -/
def returned (run : Run interface FanLoop Unit) : Option FanLoop :=
  match run.outcome with
  | .value _ => some run.state
  | .thrown _ => none
  | .fault _ => none

theorem returned_value {run : Run interface FanLoop Unit} {after : FanLoop}
    (ended : returned run = some after) : run.outcome = .value () ∧ run.state = after := by
  unfold returned at ended
  split at ended
  next outcome =>
    cases ended
    exact ⟨outcome, rfl⟩
  all_goals cases ended

theorem returned_andThen {Value : Type} {first : Run interface FanLoop Value}
    {next : Value → FanLoop → Run interface FanLoop Unit} {after : FanLoop}
    (ended : returned (first.andThen next) = some after) :
    ∃ value, first.outcome = .value value ∧ returned (next value first.state) = some after := by
  unfold returned Run.andThen at ended
  cases outcome : first.outcome with
  | value value =>
      rw [outcome] at ended
      exact ⟨value, rfl, ended⟩
  | thrown exception =>
      rw [outcome] at ended
      cases ended
  | fault reason =>
      rw [outcome] at ended
      cases ended

/-- The second program starts where the first one ended. -/
theorem returned_then {first second : Program interface FanLoop Unit}
    {environment : Environment interface} {loop after : FanLoop} {position : Nat}
    (ended : returned ((first >>= fun _ => second).run environment loop position) = some after) :
    ∃ middle later, returned (first.run environment loop position) = some middle ∧
      returned (second.run environment middle later) = some after := by
  rw [run_bind] at ended
  obtain ⟨value, outcome, ended⟩ := returned_andThen ended
  refine ⟨_, _, ?_, ended⟩
  rw [returned, outcome]

/-- What a program keeps holds of the controller that its run leaves. -/
theorem returned_keeps {allowed : FanLoop → Op → Prop} {invariant : FanLoop → Prop}
    {admitted : Fault → Prop} {program : Program interface FanLoop Unit}
    (keeps : Keeps allowed invariant admitted program) {environment : Environment interface}
    {loop next : FanLoop} {position : Nat} (start : invariant loop)
    (ended : returned (program.run environment loop position) = some next) : invariant next := by
  obtain ⟨_, rfl⟩ := returned_value ended
  exact (keeps.sound environment loop position start).2.1

namespace FanLoop

/-- A controller after its construction and one turn in each of some surroundings. -/
def after [Curve] (junk : FanLoop) (startup : Surroundings) (history : List Surroundings) :
    Option FanLoop :=
  (returned (construct.run startup.environment junk 0)).bind fun loop =>
    history.foldlM (fun loop surroundings => returned (turn.run surroundings.environment loop 0)) loop

/-- The upper limit at the start of the sensor that is then listed first. -/
def startLimit (junk : FanLoop) (startup : Surroundings) : ℚ :=
  match startup.paths tempStub thresholdInterface with
  | some (path :: _) => (startup.property path thresholdInterface "CriticalHigh").getD junk.tempMax
  | _ => junk.tempMax

section Keeps

variable {limit : ℚ}

/-- A program that leaves the maximum temperature alone. -/
abbrev LeavesLimit {Value : Type} (limit : ℚ) (program : Program interface FanLoop Value) : Prop :=
  Keeps (fun _ _ => True) (fun loop => loop.tempMax = limit) (fun _ => True) program

theorem limit_reads : AllowsReads (fun _ _ => True) fun loop => loop.tempMax = limit :=
  fun _ _ _ _ => trivial

theorem limit_unread (loop next : FanLoop) (unread : Unread loop next)
    (same : loop.tempMax = limit) : next.tempMax = limit :=
  unread.tempMax.trans same

theorem initializeTemps_leaves : LeavesLimit limit initializeTemps :=
  initializeTemps_keeps limit_reads limit_unread

theorem initializeController_leaves : LeavesLimit limit initializeController :=
  initializeController_keeps limit_reads limit_unread

theorem getFanPwms_leaves : LeavesLimit limit getFanPwms :=
  getFanPwms_keeps limit_reads limit_unread

theorem commandFans_leaves (next : Fan → Option Int) : LeavesLimit limit (commandFans next) :=
  commandFans_keeps (fun _ _ _ _ same _ => same) (fun _ _ _ _ _ => trivial) fun _ _ _ _ _ => trivial

theorem turn_leaves [Curve] : LeavesLimit limit turn := by
  refine keeps_bind (readTemperatures_keeps limit_reads fun _ _ same => same) fun _ => ?_
  refine keeps_bind (loadSetpoint_keeps limit_reads fun _ _ same => same) fun _ => ?_
  refine keeps_read fun loop _ => ?_
  refine keeps_ite (fun _ => commandFans_leaves _) fun _ => ?_
  exact keeps_bind (keeps_modify fun _ same => same) fun _ => commandFans_leaves _

end Keeps

/-- The last step of the construction takes the limit of the sensor that is listed first. -/
theorem getTempThresholds_takes {startup : Surroundings} {loop next junk : FanLoop} {position : Nat}
    (start : loop.tempMax = junk.tempMax)
    (ended : returned (getTempThresholds.run startup.environment loop position) = some next) :
    next.tempMax = startLimit junk startup := by
  rw [getTempThresholds, run_bind, run_getSubTreePaths] at ended
  obtain ⟨paths, listed, ended⟩ := returned_andThen ended
  unfold startLimit
  cases answered : startup.paths tempStub thresholdInterface with
  | none =>
      rw [answered] at listed
      cases listed
  | some all =>
      rw [answered] at listed
      cases listed
      cases paths with
      | nil =>
          cases ended
          exact start
      | cons path rest =>
          simp only [run_bind, run_getProperty, run_modify] at ended
          obtain ⟨low, _, ended⟩ := returned_andThen ended
          obtain ⟨_, _, ended⟩ := returned_andThen ended
          obtain ⟨high, read, ended⟩ := returned_andThen ended
          cases ended
          cases property : startup.property path thresholdInterface "CriticalHigh" with
          | none =>
              rw [property] at read
              cases read
          | some limit =>
              rw [property] at read
              cases read
              simp [property]

/-- The construction ends with that step and does not touch the limit before it. -/
theorem construct_takes {startup : Surroundings} {junk loop : FanLoop}
    (ended : returned (construct.run startup.environment junk 0) = some loop) :
    loop.tempMax = startLimit junk startup := by
  obtain ⟨cleared, _, clearing, ended⟩ := returned_then ended
  obtain ⟨sensed, _, sensing, ended⟩ := returned_then ended
  obtain ⟨configured, _, configuring, ended⟩ := returned_then ended
  obtain ⟨fanned, _, fanning, ended⟩ := returned_then ended
  refine getTempThresholds_takes ?_ ended
  refine returned_keeps getFanPwms_leaves ?_ fanning
  refine returned_keeps initializeController_leaves ?_ configuring
  refine returned_keeps initializeTemps_leaves ?_ sensing
  cases clearing
  rfl

/-- However the limits change afterwards, the controller keeps the one that it took when it
started. -/
theorem after_tempMax [Curve] {junk loop : FanLoop} {startup : Surroundings}
    {history : List Surroundings} (reached : after junk startup history = some loop) :
    loop.tempMax = startLimit junk startup := by
  obtain ⟨first, constructed, later⟩ := Option.bind_eq_some_iff.mp reached
  have taken := construct_takes constructed
  clear constructed reached
  induction history generalizing first with
  | nil =>
      cases later
      exact taken
  | cons surroundings rest ih =>
      rw [List.foldlM_cons] at later
      obtain ⟨next, turned, later⟩ := Option.bind_eq_some_iff.mp later
      exact ih next later (returned_keeps turn_leaves taken turned)

end FanLoop

end Chassis.Cooling
