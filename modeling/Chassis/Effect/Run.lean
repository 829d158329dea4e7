import Chassis.Effect.Program
import Mathlib.Data.List.Basic

namespace Chassis.Effect

variable {I : Interface} {State Value Result : Type}

/-- A run that returned goes on from its state, and any other run keeps its ending. -/
def Run.andThen (first : Run I State Value) (next : Value → State → Run I State Result) :
    Run I State Result :=
  match first.outcome with
  | .value value =>
      let second := next value first.state
      { second with calls := first.calls ++ second.calls }
  | .thrown exception => ⟨.thrown exception, first.state, first.calls⟩
  | .fault reason => ⟨.fault reason, first.state, first.calls⟩

/-- A run that threw goes on with the handler, and any other run keeps its ending. -/
def Run.orElse (first : Run I State Value) (handler : I.Exception → State → Run I State Value) :
    Run I State Value :=
  match first.outcome with
  | .value value => ⟨.value value, first.state, first.calls⟩
  | .thrown exception =>
      let second := handler exception first.state
      { second with calls := first.calls ++ second.calls }
  | .fault reason => ⟨.fault reason, first.state, first.calls⟩

@[simp] theorem andThen_value (value : Value) (state : State) (calls : List (Call I State))
    (next : Value → State → Run I State Result) :
    (⟨.value value, state, calls⟩ : Run I State Value).andThen next =
      { next value state with calls := calls ++ (next value state).calls } := rfl

@[simp] theorem andThen_thrown (exception : I.Exception) (state : State)
    (calls : List (Call I State)) (next : Value → State → Run I State Result) :
    (⟨.thrown exception, state, calls⟩ : Run I State Value).andThen next =
      ⟨.thrown exception, state, calls⟩ := rfl

namespace Program

variable (environment : Environment I) (state : State) (position : Nat)

@[simp] theorem run_pure (value : Value) :
    (Pure.pure value : Program I State Value).run environment state position =
      ⟨.value value, state, []⟩ := rfl

@[simp] theorem run_throw (exception : I.Exception) :
    (.throw exception : Program I State Value).run environment state position =
      ⟨.thrown exception, state, []⟩ := rfl

@[simp] theorem run_fault (reason : I.Fault) :
    (.fault reason : Program I State Value).run environment state position =
      ⟨.fault reason, state, []⟩ := rfl

@[simp] theorem run_read :
    (read : Program I State State).run environment state position = ⟨.value state, state, []⟩ := rfl

@[simp] theorem run_modify (update : State → State) :
    (modify update : Program I State Unit).run environment state position =
      ⟨.value (), update state, []⟩ := rfl

@[simp] theorem run_ask (op : I.Op) :
    (ask op : Program I State (I.Answer op)).run environment state position =
      ⟨.value (environment position op), state, [⟨state, op, environment position op⟩]⟩ := rfl

@[simp] theorem run_ite (condition : Prop) [Decidable condition]
    (first second : Program I State Value) :
    (if condition then first else second).run environment state position =
      if condition then first.run environment state position
      else second.run environment state position := by
  split <;> rfl

/-- Sequencing is associative. -/
theorem bind_bind {Last : Type} (program : Program I State Value)
    (middle : Value → Program I State Result) (last : Result → Program I State Last) :
    (program >>= middle) >>= last = program >>= fun value => middle value >>= last := by
  change (program.bind middle).bind last = program.bind fun value => (middle value).bind last
  induction program with
  | pure | throw | fault => rfl
  | get next ih => exact congrArg Program.get (funext ih)
  | set inner next ih => exact congrArg (Program.set inner) ih
  | call op next ih => exact congrArg (Program.call op) (funext ih)

theorem forEach_cons {Element : Type} (body : Element → Program I State Unit) (element : Element)
    (rest : List Element) :
    forEach body (element :: rest) = body element >>= fun _ => forEach body rest := rfl

/-- The second program is asked from the first unused position. -/
theorem run_then (program : Program I State Value) (rest : Value → Program I State Result) :
    (program.bind rest).run environment state position =
      (program.run environment state position).andThen fun value next =>
        (rest value).run environment next
          (position + (program.run environment state position).calls.length) := by
  induction program generalizing state position with
  | pure value => simp [bind, run, Run.andThen]
  | throw | fault => rfl
  | get next ih => exact ih state state position
  | set inner next ih => exact ih inner position
  | call op next ih =>
      simp only [bind, run, ih, List.length_cons, Run.andThen]
      rcases (next (environment position op)).run environment state (position + 1) with
        ⟨_ | _ | _, after, calls⟩
      · have later : position + (calls.length + 1) = position + 1 + calls.length := by omega
        simp only [later, List.cons_append]
      · rfl
      · rfl

@[simp] theorem run_bind (program : Program I State Value)
    (rest : Value → Program I State Result) :
    (program >>= rest).run environment state position =
      (program.run environment state position).andThen fun value next =>
        (rest value).run environment next
          (position + (program.run environment state position).calls.length) :=
  run_then environment state position program rest

/-- A run from a later position meets the answers from there on. -/
theorem run_shift (program : Program I State Value) (offset : Nat) :
    program.run environment state (offset + position) =
      program.run (fun position => environment (offset + position)) state position := by
  induction program generalizing state position with
  | pure | throw | fault => rfl
  | get next ih => exact ih state state position
  | set inner next ih => exact ih inner position
  | call op next ih =>
      simp only [run]
      rw [Nat.add_assoc, ih]

@[simp] theorem run_tryCatch (program : Program I State Value)
    (handler : I.Exception → Program I State Value) :
    (program.tryCatch handler).run environment state position =
      (program.run environment state position).orElse fun exception next =>
        (handler exception).run environment next
          (position + (program.run environment state position).calls.length) := by
  induction program generalizing state position with
  | pure | fault => rfl
  | throw exception => simp [tryCatch, run, Run.orElse]
  | get next ih => exact ih state state position
  | set inner next ih => exact ih inner position
  | call op next ih =>
      simp only [tryCatch, run, ih, List.length_cons, Run.orElse]
      rcases (next (environment position op)).run environment state (position + 1) with
        ⟨_ | _ | _, after, calls⟩
      · rfl
      · have later : position + (calls.length + 1) = position + 1 + calls.length := by omega
        simp only [later, List.cons_append]
      · rfl

end Program

end Chassis.Effect
