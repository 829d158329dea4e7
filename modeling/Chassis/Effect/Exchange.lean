import Chassis.Effect.Run

namespace Chassis.Effect

variable {I : Interface} {State Inner Value : Type}

/-- An exchange is a call without the state it was made in. -/
abbrev Exchange (I : Interface) := (op : I.Op) × I.Answer op

def Call.exchange (call : Call I State) : Exchange I := ⟨call.op, call.answer⟩

namespace Run

def exchanges (run : Run I State Value) : List (Exchange I) := run.calls.map Call.exchange

def ops (run : Run I State Value) : List I.Op := run.calls.map Call.op

theorem length_eq_of_ops {first second : Run I State Value} (same : first.ops = second.ops) :
    first.calls.length = second.calls.length := by
  have lengths := congrArg List.length same
  simpa only [ops, List.length_map] using lengths

end Run

namespace Program

/-- A program on an object of its own makes the calls of the program. -/
theorem exchanges_isolate (program : Program I Inner Value) (inner : Inner)
    (environment : Environment I) (state : State) (position : Nat) :
    ((program.isolate inner).run environment state position).exchanges =
        (program.run environment inner position).exchanges ∧
      ((program.isolate inner).run environment state position).ops =
        (program.run environment inner position).ops := by
  induction program generalizing inner position with
  | pure | throw | fault => exact ⟨rfl, rfl⟩
  | get next ih => exact ih inner inner position
  | set changed next ih => exact ih changed position
  | call op next ih =>
      obtain ⟨exchanges, ops⟩ := ih (environment position op) inner (position + 1)
      exact ⟨congrArg (List.cons _) exchanges, congrArg (List.cons _) ops⟩

/-- The object of its own comes back with the value. -/
theorem ended_isolate (program : Program I Inner Value) (inner : Inner)
    (environment : Environment I) (state : State) (position : Nat) :
    ((program.isolate inner).run environment state position).state = state ∧
      ((program.isolate inner).run environment state position).outcome =
        match (program.run environment inner position).outcome with
        | .value value => .value (value, (program.run environment inner position).state)
        | .thrown exception => .thrown exception
        | .fault reason => .fault reason := by
  induction program generalizing inner position with
  | pure | throw | fault => exact ⟨rfl, rfl⟩
  | get next ih => exact ih inner inner position
  | set changed next ih => exact ih changed position
  | call op next ih => exact ih (environment position op) inner (position + 1)

variable {replace : Inner → State → State}
  (overwrite : ∀ first second state, replace second (replace first state) = replace second state)
include overwrite

/-- A program on a part of the state makes the calls of the program and ends as it does. -/
theorem run_focus (program : Program I Inner Value) (inner : Inner) (environment : Environment I)
    (state : State) (position : Nat) :
    ((program.focus replace inner).run environment (replace inner state) position).exchanges =
        (program.run environment inner position).exchanges ∧
      ((program.focus replace inner).run environment (replace inner state) position).ops =
        (program.run environment inner position).ops ∧
      ((program.focus replace inner).run environment (replace inner state) position).state =
        replace (program.run environment inner position).state state ∧
      ((program.focus replace inner).run environment (replace inner state) position).outcome =
        (program.run environment inner position).outcome := by
  induction program generalizing inner position with
  | pure | throw | fault => exact ⟨rfl, rfl, rfl, rfl⟩
  | get next ih => exact ih inner inner position
  | set changed next ih =>
      simp only [focus, run, overwrite]
      exact ih changed position
  | call op next ih =>
      obtain ⟨exchanges, ops, kept, ended⟩ := ih (environment position op) inner (position + 1)
      exact ⟨congrArg (List.cons _) exchanges, congrArg (List.cons _) ops, kept, ended⟩

end Program

end Chassis.Effect
