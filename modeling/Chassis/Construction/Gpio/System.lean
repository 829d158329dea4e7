import Chassis.Construction.Gpio.Cli
import Chassis.Construction.Gpio.Monitor

namespace Chassis.Gpio
open Effect

/-- The three programs make the same calls, and each is seen with its answer. -/
abbrev Answered := (op : Boot.Op) × op.Answer

/-- The calls of a run in order. -/
abbrev answers {Exception Fault State Value : Type}
    (run : Run ⟨Boot.Op, Boot.Op.Answer, Exception, Fault⟩ State Value) : List Answered :=
  run.calls.map fun call => ⟨call.op, call.answer⟩

inductive Direction where
  | input
  | output (value : Int)
  deriving DecidableEq, Repr

/-- The lines as they are, and as the requests for an output alone have left them. -/
structure Lines where
  current : Nat × Nat → Direction
  driven : Nat × Nat → Direction

namespace Lines

/-- A request takes effect when it succeeds, and a line keeps its direction after the release. -/
def observe (lines : Lines) : (op : Boot.Op) → op.Answer → Lines
  | .requestInput chip line, true => { lines with
      current := Function.update lines.current (chip, line) .input }
  | .requestOutput chip line value, true =>
      ⟨Function.update lines.current (chip, line) (.output value),
        Function.update lines.driven (chip, line) (.output value)⟩
  | _, _ => lines

/-- The calls of a run take effect in order. -/
def after (lines : Lines) (answers : List Answered) : Lines :=
  answers.foldl (fun lines entry => lines.observe entry.1 entry.2) lines

end Lines

/-- The functions of the manager that request a line. -/
inductive Access where
  | waitForSwitch
  | setAlarmGpio
  | setPs
  | unsetPs
  | setSr
  deriving DecidableEq, Repr

def access : Access → Program Boot.interface Boot.Manager Bool
  | .waitForSwitch => Boot.waitForSwitch
  | .setAlarmGpio => Boot.setAlarmGpio
  | .setPs => Boot.setPs
  | .unsetPs => Boot.unsetPs
  | .setSr => Boot.setSr

inductive Event where
  | poll
  | lcrpin (arguments : List (List UInt8))
  | manager (function : Access)

structure System where
  monitor : GpioMonitor
  manager : Boot.Manager
  lines : Lines

/-- One function of the three programs runs at a time with the answers of its environment. An
exception or a fault ends the monitor for good and a command of the tool alone. -/
def System.step (system : System) (event : Event × Environment interface) : Option System :=
  match event.1 with
  | .poll =>
      let run := GpioMonitor.readallpins.run event.2 system.monitor 0
      match run.outcome with
      | .value _ => some { system with
          monitor := run.state
          lines := system.lines.after (answers run) }
      | .thrown _ => none
      | .fault _ => none
  | .lcrpin arguments =>
      let run := (Cli.processArgument arguments).run event.2 Cli.construct 0
      some { system with lines := system.lines.after (answers run) }
  | .manager function =>
      let environment : Environment Boot.interface := event.2
      let run := (access function).run environment system.manager 0
      some { system with
        manager := run.state
        lines := system.lines.after (answers run) }

/-- The monitor has been constructed and the lines are in any state. -/
def System.start (limitJson : Json.Value ℚ) (junk : Monitor.Rail → Boot.AdcElement)
    (environment : Environment interface) (lines : Nat × Nat → Direction) : System where
  monitor := (GpioMonitor.construct.run environment ⟨[], fun _ => none⟩ 0).state
  manager := Boot.Manager.construct limitJson junk
  lines := ⟨lines, lines⟩

end Chassis.Gpio
