import Chassis.Construction.Boot.Manager

namespace Chassis.Boot
open Effect

/-- The functions of the manager that drive or publish the two lines, and the one that records
whether the publisher is to run. -/
inductive Event where
  | setPs
  | unsetPs
  | setSr
  | watchGpios
  | watchServices
  deriving DecidableEq, Repr

/-- The results of the setters are left to their callers. -/
def perform : Event → Program interface Manager Unit
  | .setPs => do
      let _ ← setPs
      pure ()
  | .unsetPs => do
      let _ ← unsetPs
      pure ()
  | .setSr => do
      let _ ← setSr
      pure ()
  | .watchGpios => watchGpios
  | .watchServices => watchServices

/-- The manager with the values published on the bus and the lines driven so far. -/
structure Signals where
  manager : Manager
  published : String → Option ℚ
  driven : Nat × Nat → Bool

/-- A publication or a drive takes effect when its call succeeds. -/
def Signals.observe (signals : Signals) : Call interface Manager → Signals
  | ⟨_, .setValueProperty path value, true⟩ =>
      { signals with published := Function.update signals.published path (some value) }
  | ⟨_, .requestOutput chip line _, true⟩ =>
      { signals with driven := Function.update signals.driven (chip, line) true }
  | _ => signals

/-- The effect of a run on the signals. -/
def Signals.after {Value : Type} (signals : Signals) (run : Run interface Manager Value) : Signals :=
  run.calls.foldl Signals.observe { signals with manager := run.state }

/-- One function runs at a time with the answers of its environment. An exception that escapes ends
the process. -/
def Signals.step (signals : Signals) (event : Event × Environment interface) : Option Signals :=
  let run := (perform event.1).run event.2 signals.manager 0
  match run.outcome with
  | .value _ => some (signals.after run)
  | .thrown _ => none
  | .fault _ => none

end Chassis.Boot
