import Chassis.Construction.Manager.Passthrough

namespace Chassis.Vita4611
open Effect

/-- Two commands stop the fan controller. -/
inductive Stopper where
  | policy
  | level
  deriving DecidableEq, Repr

/-- The systemd unit of the fan controller remembers who stopped it last. -/
inductive Controller where
  | running
  | stopped (by' : Stopper)
  deriving DecidableEq, Repr

/-- A successful unit call takes effect, and a failed one changes nothing. -/
def Controller.apply {State : Type} (stopper : Stopper) (controller : Controller)
    (call : Call interface State) : Controller :=
  match call with
  | ⟨_, .stopUnit, answer⟩ => cond answer (.stopped stopper) controller
  | ⟨_, .startUnit, answer⟩ => cond answer .running controller
  | _ => controller

/-- A successful write replaces the target of the fan's PWM. -/
def applyPwm {State : Type} (pwm : Option UInt64) (call : Call interface State) : Option UInt64 :=
  match call with
  | ⟨_, .setFanPwm target, answer⟩ => cond answer (some target) pwm
  | _ => pwm

/-- The chassis manager, the fan controller and the PWM form one system. The last field records the
level of a successful Set Fan Level until a command enables local control. -/
structure FanSystem where
  manager : ChassisManager
  controller : Controller
  pwm : Option UInt64
  level : Option UInt64

/-- The system starts with a running controller and no timer. -/
def FanSystem.initial (manager : ChassisManager) : FanSystem :=
  ⟨{ manager with fanRestartTimer := none }, .running, none, none⟩

/-- A restart is scheduled as long as the timer waits. -/
def FanSystem.pending (system : FanSystem) : Bool :=
  match system.manager.fanRestartTimer with
  | some timer => timer.waiting
  | none => false

/-- The calls of one command or callback reach the controller and the PWM in order. -/
def FanSystem.after {Value : Type} (system : FanSystem) (stopper : Stopper)
    (run : Run interface ChassisManager Value) (level : Option UInt64) : FanSystem :=
  ⟨run.state, run.calls.foldl (Controller.apply stopper) system.controller,
    run.calls.foldl applyPwm system.pwm, level⟩

/-- A command is carried out with the answers of its environment, and a pending timer expires. -/
inductive FanEvent where
  | setFanPolicy (reqdata : List UInt8) (environment : Environment interface)
  | setFanLevel (reqdata : List UInt8) (environment : Environment interface)
  | expire (environment : Environment interface)

def stopSucceeds (environment : Environment interface) : Bool := environment 0 .stopUnit

def startSucceeds (environment : Environment interface) : Bool := environment 0 .startUnit

/-- The PWM is written by the second call of its command. -/
def pwmSucceeds (environment : Environment interface) (target : UInt64) : Bool :=
  environment 1 (.setFanPwm target)

/-- The command passes every check of its handler. -/
def policyAccepted (reqdata : List UInt8) : Bool :=
  9 ≤ reqdata.length ∧ reqdata.getD 4 0 = 0 ∧ reqdata.getD 6 0 ≤ 240

def policyEnables (reqdata : List UInt8) : Bool :=
  policyAccepted reqdata ∧ reqdata.getD 5 0 ≠ 0

def levelEnables (reqdata : List UInt8) : Bool :=
  7 ≤ reqdata.length ∧ reqdata.getD 6 0 ≠ 0

/-- A level takes force when the controller was stopped and the PWM was set. -/
def levelSet (reqdata : List UInt8) (environment : Environment interface) : Bool :=
  7 ≤ reqdata.length ∧ reqdata.getD 6 0 = 0 ∧ stopSucceeds environment ∧
    pwmSucceeds environment (reqdata.getD 5 0).toUInt64

def FanSystem.step (system : FanSystem) : FanEvent → Option FanSystem
  | .setFanPolicy reqdata environment =>
      let run := (Vita4611.setFanPolicy reqdata).run environment system.manager 0
      some (system.after .policy run (if policyEnables reqdata then none else system.level))
  | .setFanLevel reqdata environment =>
      let run := (Vita4611.setFanLevel reqdata).run environment system.manager 0
      some (system.after .level run
        (if levelEnables reqdata then none
          else if levelSet reqdata environment then some (reqdata.getD 5 0).toUInt64
          else system.level))
  | .expire environment =>
      if system.pending then
        let expired := { system.manager with
          fanRestartTimer := system.manager.fanRestartTimer.map fun timer =>
            { timer with waiting := false } }
        some (system.after .policy (fanRestartCallback.run environment expired 0) system.level)
      else none

end Chassis.Vita4611
