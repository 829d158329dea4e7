import Chassis.Construction.Manager.Fan
import Chassis.Proof.Manager.Outline
import Chassis.Automaton.Run
import Chassis.Effect.Run

namespace Chassis.Vita4611
open Effect Program Automaton

section Runs

variable {State : Type} {reqdata : List UInt8} (environment : Environment interface)

/-- The answer of a unit call decides between a return and an exception. -/
def flagged (answer : Bool) : Outcome interface Unit :=
  cond answer (.value ()) (.thrown .dbusError)

theorem run_flag (answer : Bool) (state : State) (position : Nat) :
    (if id answer then Pure.pure () else .throw .dbusError : Program interface State Unit).run
      environment state position = ⟨flagged answer, state, []⟩ := by
  cases answer <;> rfl

theorem run_stopUnit (state : State) (position : Nat) :
    stopUnit.run environment state position =
      ⟨flagged (environment position .stopUnit), state,
        [⟨state, .stopUnit, environment position .stopUnit⟩]⟩ :=
  congrArg (fun rest : Run interface State Unit => { rest with
    calls := ⟨state, .stopUnit, environment position .stopUnit⟩ :: rest.calls })
    (run_flag environment (environment position .stopUnit) state (position + 1))

theorem run_startUnit (state : State) (position : Nat) :
    startUnit.run environment state position =
      ⟨flagged (environment position .startUnit), state,
        [⟨state, .startUnit, environment position .startUnit⟩]⟩ :=
  congrArg (fun rest : Run interface State Unit => { rest with
    calls := ⟨state, .startUnit, environment position .startUnit⟩ :: rest.calls })
    (run_flag environment (environment position .startUnit) state (position + 1))

theorem run_setFanPwm (target : UInt64) (state : State) (position : Nat) :
    (setFanPwm target).run environment state position =
      ⟨flagged (environment position (.setFanPwm target)), state,
        [⟨state, .setFanPwm target, environment position (.setFanPwm target)⟩]⟩ :=
  congrArg (fun rest : Run interface State Unit => { rest with
    calls := ⟨state, .setFanPwm target, environment position (.setFanPwm target)⟩ :: rest.calls })
    (run_flag environment (environment position (.setFanPwm target)) state (position + 1))

variable (manager : ChassisManager)

/-- The timer is cancelled whatever happens next. -/
abbrev ChassisManager.cancelled (manager : ChassisManager) : ChassisManager :=
  { manager with fanRestartTimer := none }

abbrev ChassisManager.armed (manager : ChassisManager) (fanPolicyTimeout : UInt8) :
    ChassisManager :=
  { manager with fanRestartTimer := some ⟨fanPolicyTimeout.toNat * 5, true⟩ }

theorem run_startUnit_caught (position : Nat) :
    (tryCatch startUnit (fun _ => Pure.pure ()) : Program interface ChassisManager Unit).run
      environment manager position =
      ⟨.value (), manager, [⟨manager, .startUnit, environment position .startUnit⟩]⟩ := by
  rw [run_tryCatch, run_startUnit]
  unfold flagged
  cases (environment position .startUnit : Bool) <;> rfl

/-- An admitted timeout that is not zero stops the controller and arms the timer on success. -/
theorem run_stopFans_caught {fanPolicyTimeout : UInt8} (admitted : fanPolicyTimeout ≤ 240)
    (nonzero : fanPolicyTimeout ≠ 0) :
    (tryCatch (stopFans fanPolicyTimeout) (fun _ => Pure.pure ())).run environment manager 0 =
      ⟨.value (), cond (stopSucceeds environment) (manager.armed fanPolicyTimeout) manager,
        [⟨manager, .stopUnit, environment 0 .stopUnit⟩]⟩ := by
  have arms : fanPolicyTimeout > 0 ∧ fanPolicyTimeout ≠ 0xFF :=
    ⟨UInt8.pos_iff_ne_zero.mpr nonzero, fun full => absurd admitted (by rw [full]; decide)⟩
  rw [run_tryCatch]
  simp only [stopFans, nonzero, ne_eq, not_false_eq_true, if_true, run_bind, run_stopUnit, arms,
    and_self]
  unfold flagged stopSucceeds
  cases (environment 0 .stopUnit : Bool) <;> rfl

/-- The PWM is written only after the controller was stopped. -/
theorem run_stopThenSet_caught (target : UInt64) :
    (tryCatch (do stopUnit; setFanPwm target) (fun _ => Pure.pure ())).run environment manager 0 =
      ⟨.value (), manager, ⟨manager, .stopUnit, environment 0 .stopUnit⟩ ::
        cond (stopSucceeds environment)
          [⟨manager, .setFanPwm target, environment 1 (.setFanPwm target)⟩] []⟩ := by
  rw [run_tryCatch]
  simp only [run_bind, run_stopUnit, run_setFanPwm]
  unfold flagged stopSucceeds
  cases (environment 0 .stopUnit : Bool) with
  | false => rfl
  | true =>
      simp only [Run.andThen, cond_true, List.length_cons, List.length_nil]
      cases (environment 1 (.setFanPwm target) : Bool) <;> rfl

theorem run_setFanLevel :
    (setFanLevel reqdata).run environment manager 0 =
      if reqdata.length < 7 then ⟨.value [], manager, []⟩
      else if reqdata.getD 6 0 = 0 then ⟨.value [0x03], manager,
        ⟨manager, .stopUnit, environment 0 .stopUnit⟩ ::
          cond (stopSucceeds environment)
            [⟨manager, .setFanPwm (reqdata.getD 5 0).toUInt64, environment 1 _⟩] []⟩
      else ⟨.value [0x03], manager, [⟨manager, .startUnit, environment 0 .startUnit⟩]⟩ := by
  by_cases short : reqdata.length < 7
  · simp [setFanLevel, short]
  · simp (disch := omega) only [setFanLevel, short, run_reqByte, run_bind, run_ite, if_false,
      Run.andThen, List.nil_append, List.length_nil, Nat.add_zero]
    by_cases zero : reqdata.getD 6 0 = 0
    · simp only [zero, if_true, run_stopThenSet_caught, run_pure, List.append_nil]
    · simp only [zero, if_false, run_startUnit_caught, run_pure, List.append_nil]

theorem run_setFanPolicy :
    (setFanPolicy reqdata).run environment manager 0 =
      if policyAccepted reqdata then
        if reqdata.getD 5 0 ≠ 0 then ⟨.value [0x03], manager.cancelled,
          [⟨manager.cancelled, .startUnit, environment 0 .startUnit⟩]⟩
        else if reqdata.getD 6 0 = 0 then ⟨.value [0x03], manager.cancelled, []⟩
        else ⟨.value [0x03],
          cond (stopSucceeds environment) (manager.armed (reqdata.getD 6 0)) manager.cancelled,
          [⟨manager.cancelled, .stopUnit, environment 0 .stopUnit⟩]⟩
      else ⟨.value [], manager, []⟩ := by
  by_cases short : reqdata.length < 9
  · simp [setFanPolicy, short, policyAccepted]
  · have long : 9 ≤ reqdata.length := by omega
    simp (disch := omega) only [setFanPolicy, cancelFanRestartTimer, short, run_reqByte, run_bind,
      run_ite, run_pure, run_modify, if_false, Run.andThen, List.nil_append, List.length_nil,
      Nat.add_zero, policyAccepted, long, true_and]
    by_cases tray : reqdata.getD 4 0 = 0
    · by_cases late : reqdata.getD 6 0 ≤ 240
      · simp only [tray, UInt8.not_lt.mpr late, late, ne_eq, not_true_eq_false, if_false, and_self,
          decide_true, if_true]
        by_cases disabled : reqdata.getD 5 0 = 0
        · by_cases zero : reqdata.getD 6 0 = 0
          · simp only [disabled, zero, if_true, not_true_eq_false, if_false]
            rfl
          · simp only [disabled, zero, if_true, if_false, run_stopFans_caught _ _ late zero,
              not_true_eq_false, List.append_nil]
        · simp only [disabled, if_false, run_startUnit_caught, not_false_eq_true, if_true,
            List.append_nil]
      · simp only [tray, UInt8.not_le.mp late, late, ne_eq, not_true_eq_false, if_true,
          if_false, and_false, decide_false]
        rfl
    · simp only [tray, ne_eq, not_false_eq_true, if_true, false_and, decide_false]
      rfl

theorem run_fanRestartCallback :
    fanRestartCallback.run environment manager 0 =
      ⟨.value (), manager, [⟨manager, .startUnit, environment 0 .startUnit⟩]⟩ :=
  run_startUnit_caught environment manager 0

end Runs

/-- The abstract system sees who controls the fans and whether a restart is scheduled. -/
structure FanView where
  controller : Controller
  pending : Bool
  pwm : Option UInt64
  level : Option UInt64

def FanSystem.view (system : FanSystem) : FanView :=
  ⟨system.controller, system.pending, system.pwm, system.level⟩

namespace FanView

/-- An accepted policy cancels the timer, and only a successful stop schedules a new restart. -/
def setFanPolicy (view : FanView) (reqdata : List UInt8) (environment : Environment interface) :
    FanView :=
  if policyAccepted reqdata then
    if reqdata.getD 5 0 ≠ 0 then { view with
      controller := cond (startSucceeds environment) .running view.controller
      pending := false
      level := none }
    else if reqdata.getD 6 0 = 0 then { view with pending := false }
    else { view with
      controller := cond (stopSucceeds environment) (.stopped .policy) view.controller
      pending := stopSucceeds environment }
  else view

/-- The level command leaves the timer alone. -/
def setFanLevel (view : FanView) (reqdata : List UInt8) (environment : Environment interface) :
    FanView :=
  let target := (reqdata.getD 5 0).toUInt64
  if reqdata.length < 7 then view
  else if reqdata.getD 6 0 ≠ 0 then { view with
    controller := cond (startSucceeds environment) .running view.controller
    level := none }
  else if stopSucceeds environment then { view with
    controller := .stopped .level
    pwm := cond (pwmSucceeds environment target) (some target) view.pwm
    level := cond (pwmSucceeds environment target) (some target) view.level }
  else view

/-- Only a pending timer expires, and it starts the controller if it can. -/
def expire (view : FanView) (environment : Environment interface) : Option FanView :=
  if view.pending then some { view with
    controller := cond (startSucceeds environment) .running view.controller
    pending := false }
  else none

def step (view : FanView) : FanEvent → Option FanView
  | .setFanPolicy reqdata environment => some (view.setFanPolicy reqdata environment)
  | .setFanLevel reqdata environment => some (view.setFanLevel reqdata environment)
  | .expire environment => view.expire environment

end FanView

section Calls

variable {State : Type} (stopper : Stopper) (controller : Controller) (pwm : Option UInt64)
  (state : State) (environment : Environment interface)

theorem apply_stopUnit :
    controller.apply stopper ⟨state, .stopUnit, environment 0 .stopUnit⟩ =
      cond (stopSucceeds environment) (.stopped stopper) controller := rfl

theorem apply_startUnit :
    controller.apply stopper ⟨state, .startUnit, environment 0 .startUnit⟩ =
      cond (startSucceeds environment) .running controller := rfl

theorem apply_setFanPwm (target : UInt64) (answer : Op.Answer (.setFanPwm target)) :
    controller.apply stopper ⟨state, .setFanPwm target, answer⟩ = controller := rfl

theorem applyPwm_setFanPwm (target : UInt64) :
    applyPwm pwm ⟨state, .setFanPwm target, environment 1 (.setFanPwm target)⟩ =
      cond (pwmSucceeds environment target) (some target) pwm := rfl

theorem applyPwm_stopUnit (answer : Op.Answer .stopUnit) :
    applyPwm pwm ⟨state, .stopUnit, answer⟩ = pwm := rfl

theorem applyPwm_startUnit (answer : Op.Answer .startUnit) :
    applyPwm pwm ⟨state, .startUnit, answer⟩ = pwm := rfl

end Calls

theorem setFanPolicy_view (system : FanSystem) (reqdata : List UInt8)
    (environment : Environment interface) :
    (system.step (.setFanPolicy reqdata environment)).map FanSystem.view =
      some (system.view.setFanPolicy reqdata environment) := by
  simp only [FanSystem.step, run_setFanPolicy, FanView.setFanPolicy, Option.map_some]
  by_cases accepted : policyAccepted reqdata = true
  · simp only [accepted, if_true, policyEnables, true_and]
    by_cases disabled : reqdata.getD 5 0 = 0
    · by_cases zero : reqdata.getD 6 0 = 0
      · simp only [disabled, zero, ne_eq, not_true_eq_false, if_false, if_true, decide_false]
        rfl
      · simp only [disabled, zero, ne_eq, not_true_eq_false, if_false, decide_false]
        simp only [FanSystem.after, FanSystem.view, List.foldl_cons, List.foldl_nil, apply_stopUnit,
          applyPwm_stopUnit]
        cases stopSucceeds environment <;> rfl
    · simp only [disabled, ne_eq, not_false_eq_true, if_true, decide_true]
      rfl
  · simp only [accepted, policyEnables]
    rfl

theorem setFanLevel_view (system : FanSystem) (reqdata : List UInt8)
    (environment : Environment interface) :
    (system.step (.setFanLevel reqdata environment)).map FanSystem.view =
      some (system.view.setFanLevel reqdata environment) := by
  simp only [FanSystem.step, run_setFanLevel, FanView.setFanLevel, Option.map_some]
  by_cases short : reqdata.length < 7
  · have refused : ¬7 ≤ reqdata.length := by omega
    simp only [short, refused, levelEnables, levelSet, if_true, false_and, decide_false]
    rfl
  · have long : 7 ≤ reqdata.length := by omega
    by_cases zero : reqdata.getD 6 0 = 0
    · simp only [short, long, zero, levelEnables, levelSet, if_true, if_false, true_and, ne_eq,
        not_true_eq_false, decide_false]
      simp only [FanSystem.after, FanSystem.view, List.foldl_cons, apply_stopUnit, applyPwm_stopUnit]
      cases stopSucceeds environment with
      | false => rfl
      | true =>
          simp only [cond_true, List.foldl_cons, List.foldl_nil, apply_setFanPwm,
            applyPwm_setFanPwm]
          cases pwmSucceeds environment (reqdata.getD 5 0).toUInt64 <;> rfl
    · simp only [short, long, zero, levelEnables, if_false, true_and, ne_eq, not_false_eq_true,
        decide_true, if_true]
      rfl

theorem expire_view (system : FanSystem) (environment : Environment interface) :
    (system.step (.expire environment)).map FanSystem.view = system.view.expire environment := by
  have silent : (FanSystem.pending ⟨{ system.manager with
      fanRestartTimer := system.manager.fanRestartTimer.map fun timer =>
        { timer with waiting := false } }, system.controller, system.pwm, system.level⟩) = false := by
    unfold FanSystem.pending
    cases system.manager.fanRestartTimer <;> rfl
  by_cases pending : system.pending = true
  · simp only [FanSystem.step, FanView.expire, FanSystem.view, pending, if_true,
      run_fanRestartCallback, Option.map_some, FanSystem.after, List.foldl_cons, List.foldl_nil,
      apply_startUnit, applyPwm_startUnit]
    exact congrArg (fun waiting => some (FanView.mk _ waiting _ _)) silent
  · simp only [FanSystem.step, FanView.expire, FanSystem.view, pending]
    rfl

/-- The abstract system takes exactly the steps of the concrete one. -/
theorem step_view (system : FanSystem) (event : FanEvent) :
    (system.step event).map FanSystem.view = system.view.step event := by
  cases event with
  | setFanPolicy reqdata environment => exact setFanPolicy_view system reqdata environment
  | setFanLevel reqdata environment => exact setFanLevel_view system reqdata environment
  | expire environment => exact expire_view system environment

end Chassis.Vita4611
