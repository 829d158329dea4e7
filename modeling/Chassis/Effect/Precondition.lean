import Chassis.Effect.Program
import Mathlib.Data.List.Basic

namespace Chassis.Effect

/-- A postcondition covers the value, each escaping exception, and each fault. -/
structure Post (I : Interface) (State : Type) (Value : Type) where
  value : Value → State → Prop
  thrown : I.Exception → State → Prop
  fault : I.Fault → State → Prop

/-- This postcondition accepts every normal return and no exception or fault. -/
def Post.returns {I : Interface} {State Value : Type} (value : Value → State → Prop) :
    Post I State Value := ⟨value, fun _ _ => False, fun _ _ => False⟩

/-- This postcondition accepts every ending. -/
def Post.any {I : Interface} {State Value : Type} : Post I State Value :=
  ⟨fun _ _ => True, fun _ _ => True, fun _ _ => True⟩

def Post.holds {I : Interface} {State Value : Type} (post : Post I State Value) :
    Outcome I Value → State → Prop
  | .value value, state => post.value value state
  | .thrown exception, state => post.thrown exception state
  | .fault reason, state => post.fault reason state

namespace Program

variable {I : Interface} {State Inner Value Result Element : Type}
  {allowed : State → I.Op → Prop} {post : Post I State Value}

/-- The weakest precondition lets the environment answer arbitrarily and admits only allowed calls. -/
def pre (allowed : State → I.Op → Prop) :
    Program I State Value → Post I State Value → State → Prop
  | .pure value, post, state => post.value value state
  | .throw exception, post, state => post.thrown exception state
  | .fault reason, post, state => post.fault reason state
  | .get next, post, state => (next state).pre allowed post state
  | .set state next, post, _ => next.pre allowed post state
  | .call op next, post, state =>
      allowed state op ∧ ∀ answer, (next answer).pre allowed post state

@[simp] theorem pre_return (value : Value) (state : State) :
    (Program.pure value).pre allowed post state = post.value value state := rfl

@[simp] theorem pre_pure (value : Value) (state : State) :
    (Pure.pure value : Program I State Value).pre allowed post state = post.value value state := rfl

@[simp] theorem pre_throw (exception : I.Exception) (state : State) :
    (Program.throw exception).pre allowed post state = post.thrown exception state := rfl

@[simp] theorem pre_fault (reason : I.Fault) (state : State) :
    (Program.fault reason).pre allowed post state = post.fault reason state := rfl

@[simp] theorem pre_read (post : Post I State State) (state : State) :
    (Program.read).pre allowed post state = post.value state state := rfl

@[simp] theorem pre_modify (update : State → State) (post : Post I State Unit) (state : State) :
    (Program.modify update).pre allowed post state = post.value () (update state) := rfl

@[simp] theorem pre_ask (op : I.Op) (post : Post I State (I.Answer op)) (state : State) :
    (Program.ask op).pre allowed post state =
      (allowed state op ∧ ∀ answer, post.value answer state) := rfl

/-- The first program must establish the precondition of the rest. -/
theorem pre_then (program : Program I State Value) (rest : Value → Program I State Result)
    (post : Post I State Result) (state : State) :
    (program.bind rest).pre allowed post state =
      program.pre allowed ⟨fun value next => (rest value).pre allowed post next,
        post.thrown, post.fault⟩ state := by
  induction program generalizing state with
  | pure | throw | fault => rfl
  | get next ih => exact ih state state
  | set inner next ih => exact ih inner
  | call op next ih => simp only [bind, pre, ih]

@[simp] theorem pre_bind (program : Program I State Value) (rest : Value → Program I State Result)
    (post : Post I State Result) (state : State) :
    (program >>= rest).pre allowed post state =
      program.pre allowed ⟨fun value next => (rest value).pre allowed post next,
        post.thrown, post.fault⟩ state :=
  pre_then program rest post state

/-- The handler must establish the postcondition after each exception. -/
@[simp] theorem pre_tryCatch (program : Program I State Value)
    (handler : I.Exception → Program I State Value) (state : State) :
    (program.tryCatch handler).pre allowed post state =
      program.pre allowed ⟨post.value,
        fun exception next => (handler exception).pre allowed post next, post.fault⟩ state := by
  induction program generalizing state with
  | pure | throw | fault => rfl
  | get next ih => exact ih state state
  | set inner next ih => exact ih inner
  | call op next ih => simp only [tryCatch, pre, ih]

@[simp] theorem pre_ite (condition : Prop) [Decidable condition]
    (first second : Program I State Value) (state : State) :
    (if condition then first else second).pre allowed post state =
      if condition then first.pre allowed post state else second.pre allowed post state := by
  split <;> rfl

/-- A program on a part of the state keeps the rest of the state. -/
theorem pre_focus (replace : Inner → State → State)
    (overwrite : ∀ first second state,
      replace second (replace first state) = replace second state)
    (program : Program I Inner Value) (inner : Inner) (state : State) :
    (program.focus replace inner).pre allowed post (replace inner state) =
      program.pre (fun inner op => allowed (replace inner state) op)
        ⟨fun value inner => post.value value (replace inner state),
          fun exception inner => post.thrown exception (replace inner state),
          fun reason inner => post.fault reason (replace inner state)⟩ inner := by
  induction program generalizing inner with
  | pure | throw | fault => rfl
  | get next ih => exact ih inner inner
  | set changed next ih => simp only [focus, pre, overwrite, ih]
  | call op next ih => simp only [focus, pre, ih]

/-- A program on an object of its own changes nothing else. -/
theorem pre_isolate (program : Program I Inner Value) (inner : Inner)
    (post : Post I State (Value × Inner)) (state : State) :
    (program.isolate inner).pre allowed post state =
      program.pre (fun _ op => allowed state op)
        ⟨fun value inner => post.value (value, inner) state,
          fun exception _ => post.thrown exception state,
          fun reason _ => post.fault reason state⟩ inner := by
  induction program generalizing inner with
  | pure | throw | fault => rfl
  | get next ih => exact ih inner inner
  | set changed next ih => exact ih changed
  | call op next ih => simp only [isolate, pre, ih]

/-- A stronger call condition and a stronger postcondition give a stronger precondition. -/
theorem pre_mono {strong weak : State → I.Op → Prop} {first second : Post I State Value}
    {program : Program I State Value} {state : State} (holds : program.pre strong first state)
    (calls : ∀ state op, strong state op → weak state op)
    (values : ∀ value state, first.value value state → second.value value state)
    (exceptions : ∀ exception state, first.thrown exception state → second.thrown exception state)
    (faults : ∀ reason state, first.fault reason state → second.fault reason state) :
    program.pre weak second state := by
  induction program generalizing state with
  | pure value => exact values value state holds
  | throw exception => exact exceptions exception state holds
  | fault reason => exact faults reason state holds
  | get next ih => exact ih state holds
  | set inner next ih => exact ih holds
  | call op next ih => exact ⟨calls state op holds.1, fun answer => ih answer (holds.2 answer)⟩

/-- Only the condition on returned values changes. -/
theorem pre_value {first second : Value → State → Prop} {thrown : I.Exception → State → Prop}
    {fault : I.Fault → State → Prop} {program : Program I State Value} {state : State}
    (holds : program.pre allowed ⟨first, thrown, fault⟩ state)
    (values : ∀ value state, first value state → second value state) :
    program.pre allowed ⟨second, thrown, fault⟩ state :=
  pre_mono holds (fun _ _ held => held) values (fun _ _ held => held) (fun _ _ held => held)

/-- An invariant of the body is an invariant of the loop. -/
theorem pre_forEach (body : Element → Program I State Unit) (elements : List Element)
    (invariant : State → Prop) (thrown : I.Exception → State → Prop)
    (fault : I.Fault → State → Prop)
    (preserved : ∀ element ∈ elements, ∀ state, invariant state →
      (body element).pre allowed ⟨fun _ => invariant, thrown, fault⟩ state)
    (state : State) (initial : invariant state) :
    (forEach body elements).pre allowed ⟨fun _ => invariant, thrown, fault⟩ state := by
  induction elements generalizing state with
  | nil => exact initial
  | cons element rest ih =>
      rw [forEach, pre_then]
      apply pre_value (preserved element List.mem_cons_self state initial)
      intro _ next kept
      exact ih (fun other member => preserved other (List.mem_cons_of_mem _ member)) next kept

/-- A run that meets the precondition makes only allowed calls and ends in the postcondition. -/
theorem pre_sound (program : Program I State Value) (environment : Environment I)
    (state : State) (position : Nat) (holds : program.pre allowed post state) :
    (∀ entry ∈ (program.run environment state position).calls, allowed entry.state entry.op) ∧
      post.holds (program.run environment state position).outcome
        (program.run environment state position).state := by
  induction program generalizing state position with
  | pure | throw | fault => exact ⟨by simp [run], holds⟩
  | get next ih => exact ih state state position holds
  | set inner next ih => exact ih inner position holds
  | call op next ih =>
      have rest := ih (environment position op) state (position + 1) (holds.2 _)
      refine ⟨?_, rest.2⟩
      intro entry member
      rcases List.mem_cons.mp member with rfl | later
      · exact holds.1
      · exact rest.1 entry later

/-- A condition on every ending holds of the final state. -/
theorem pre_state {holds : State → Prop} (program : Program I State Value)
    (environment : Environment I) (state : State) (position : Nat)
    (met : program.pre allowed ⟨fun _ => holds, fun _ => holds, fun _ => holds⟩ state) :
    holds (program.run environment state position).state := by
  have ended := (pre_sound program environment state position met).2
  generalize (program.run environment state position).outcome = outcome at ended
  cases outcome <;> exact ended

/-- A run asks its environment only from its position on. -/
theorem run_congr (program : Program I State Value) {first second : Environment I} (state : State)
    (position : Nat) (agree : ∀ later, position ≤ later → first later = second later) :
    program.run first state position = program.run second state position := by
  induction program generalizing state position with
  | pure | throw | fault => rfl
  | get next ih => exact ih state state position agree
  | set inner next ih => exact ih inner position agree
  | call op next ih =>
      have rest := ih (second position op) state (position + 1)
        fun later after => agree later (by omega)
      simp only [run, agree position (Nat.le_refl _), rest]

open Classical in
/-- This environment gives one chosen answer and otherwise follows another environment. -/
noncomputable def answering (environment : Environment I) (position : Nat) (op : I.Op)
    (answer : I.Answer op) : Environment I :=
  fun index asked => if index = position then
    if same : asked = op then same ▸ answer else environment index asked
    else environment index asked

/-- A program whose runs all end well and make only allowed calls meets its precondition. -/
theorem pre_complete [answers : ∀ op, Nonempty (I.Answer op)] (program : Program I State Value)
    (state : State) (position : Nat)
    (good : ∀ environment : Environment I,
      (∀ entry ∈ (program.run environment state position).calls, allowed entry.state entry.op) ∧
        post.holds (program.run environment state position).outcome
          (program.run environment state position).state) : program.pre allowed post state := by
  have somehow : Environment I := fun _ op => (answers op).some
  induction program generalizing state position with
  | pure | throw | fault => exact (good somehow).2
  | get next ih => exact ih state state position good
  | set inner next ih => exact ih inner position good
  | call op next ih =>
      refine ⟨(good somehow).1 _ List.mem_cons_self, fun answer => ?_⟩
      apply ih answer state (position + 1)
      intro environment
      have chosen := good (answering environment position op answer)
      have first : answering environment position op answer position op = answer := by
        simp [answering]
      have rest : (next answer).run (answering environment position op answer) state
          (position + 1) = (next answer).run environment state (position + 1) := by
        apply run_congr _ state _
        intro later after
        funext asked
        simp [answering, show later ≠ position by omega]
      simp only [run, first, rest] at chosen
      exact ⟨fun entry member => chosen.1 entry (List.mem_cons_of_mem _ member), chosen.2⟩

/-- The precondition describes exactly the runs under every environment. -/
theorem pre_iff [∀ op, Nonempty (I.Answer op)] (program : Program I State Value) (state : State)
    (position : Nat) :
    program.pre allowed post state ↔ ∀ environment : Environment I,
      (∀ entry ∈ (program.run environment state position).calls, allowed entry.state entry.op) ∧
        post.holds (program.run environment state position).outcome
          (program.run environment state position).state :=
  ⟨fun holds environment => pre_sound program environment state position holds,
    pre_complete program state position⟩

/-- With no condition on the ending only the calls matter. -/
theorem pre_calls_iff [∀ op, Nonempty (I.Answer op)] (program : Program I State Value)
    (state : State) (position : Nat) :
    program.pre allowed .any state ↔ ∀ environment : Environment I,
      ∀ entry ∈ (program.run environment state position).calls, allowed entry.state entry.op := by
  refine (pre_iff program state position).trans (forall_congr' fun environment => ?_)
  apply and_iff_left
  cases (program.run environment state position).outcome <;> trivial

end Program

end Chassis.Effect
