import Chassis.Effect.Precondition

namespace Chassis.Effect

namespace Program

variable {I : Interface} {State Value Result : Type}
  {assumed : (op : I.Op) → I.Answer op → Prop} {post : Post I State Value}

/-- The precondition under an assumption lets the environment give only assumed answers. -/
def rely (assumed : (op : I.Op) → I.Answer op → Prop) :
    Program I State Value → Post I State Value → State → Prop
  | .pure value, post, state => post.value value state
  | .throw exception, post, state => post.thrown exception state
  | .fault reason, post, state => post.fault reason state
  | .get next, post, state => (next state).rely assumed post state
  | .set state next, post, _ => next.rely assumed post state
  | .call op next, post, state =>
      ∀ answer, assumed op answer → (next answer).rely assumed post state

@[simp] theorem rely_pure (value : Value) (state : State) :
    (Pure.pure value : Program I State Value).rely assumed post state =
      post.value value state := rfl

@[simp] theorem rely_throw (exception : I.Exception) (state : State) :
    (Program.throw exception).rely assumed post state = post.thrown exception state := rfl

@[simp] theorem rely_fault (reason : I.Fault) (state : State) :
    (Program.fault reason).rely assumed post state = post.fault reason state := rfl

@[simp] theorem rely_read (post : Post I State State) (state : State) :
    (Program.read).rely assumed post state = post.value state state := rfl

@[simp] theorem rely_modify (update : State → State) (post : Post I State Unit) (state : State) :
    (Program.modify update).rely assumed post state = post.value () (update state) := rfl

@[simp] theorem rely_ask (op : I.Op) (post : Post I State (I.Answer op)) (state : State) :
    (Program.ask op).rely assumed post state =
      ∀ answer, assumed op answer → post.value answer state := rfl

/-- The first program must establish the precondition of the rest. -/
@[simp] theorem rely_bind (program : Program I State Value)
    (rest : Value → Program I State Result) (post : Post I State Result) (state : State) :
    (program >>= rest).rely assumed post state =
      program.rely assumed ⟨fun value next => (rest value).rely assumed post next,
        post.thrown, post.fault⟩ state := by
  change (program.bind rest).rely assumed post state = _
  induction program generalizing state with
  | pure | throw | fault => rfl
  | get next ih => exact ih state state
  | set inner next ih => exact ih inner
  | call op next ih => simp only [bind, rely, ih]

/-- The handler must establish the postcondition after each exception. -/
@[simp] theorem rely_tryCatch (program : Program I State Value)
    (handler : I.Exception → Program I State Value) (state : State) :
    (program.tryCatch handler).rely assumed post state =
      program.rely assumed ⟨post.value,
        fun exception next => (handler exception).rely assumed post next, post.fault⟩ state := by
  induction program generalizing state with
  | pure | throw | fault => rfl
  | get next ih => exact ih state state
  | set inner next ih => exact ih inner
  | call op next ih => simp only [tryCatch, rely, ih]

@[simp] theorem rely_ite (condition : Prop) [Decidable condition]
    (first second : Program I State Value) (state : State) :
    (if condition then first else second).rely assumed post state =
      if condition then first.rely assumed post state else second.rely assumed post state := by
  split <;> rfl

/-- A stronger postcondition gives a stronger precondition. -/
theorem rely_mono {first second : Post I State Value} {program : Program I State Value}
    {state : State} (holds : program.rely assumed first state)
    (values : ∀ value state, first.value value state → second.value value state)
    (exceptions : ∀ exception state, first.thrown exception state → second.thrown exception state)
    (faults : ∀ reason state, first.fault reason state → second.fault reason state) :
    program.rely assumed second state := by
  induction program generalizing state with
  | pure value => exact values value state holds
  | throw exception => exact exceptions exception state holds
  | fault reason => exact faults reason state holds
  | get next ih => exact ih state holds
  | set inner next ih => exact ih holds
  | call op next ih => exact fun answer given => ih answer (holds answer given)

/-- The rest of a program that returns starts from what the program promises. -/
theorem rely_then {program : Program I State Value} {rest : Value → Program I State Result}
    {post : Post I State Result} {promised : Value → State → Prop} {state : State}
    (first : program.rely assumed (.returns promised) state)
    (second : ∀ value next, promised value next → (rest value).rely assumed post next) :
    (program >>= rest).rely assumed post state := by
  rw [rely_bind]
  apply rely_mono first
  · exact second
  · exact fun _ _ impossible => impossible.elim
  · exact fun _ _ impossible => impossible.elim

/-- A program goes on with the only answer that is assumed. -/
theorem rely_given {op : I.Op} {given : I.Answer op} {rest : I.Answer op → Program I State Value}
    (only : ∀ answer, assumed op answer → answer = given)
    {state : State} (holds : (rest given).rely assumed post state) :
    (ask op >>= rest).rely assumed post state := by
  intro answer asked
  rw [only answer asked]
  exact holds

/-- What holds whatever the environment answers also holds under an assumption. -/
theorem rely_of_pre {allowed : State → I.Op → Prop} {program : Program I State Value} {state : State}
    (holds : program.pre allowed post state) : program.rely assumed post state := by
  induction program generalizing state with
  | pure | throw | fault => exact holds
  | get next ih => exact ih state holds
  | set inner next ih => exact ih holds
  | call op next ih => exact fun answer _ => ih answer (holds.2 answer)

/-- A run whose calls all got assumed answers ends in the postcondition. -/
theorem rely_sound (program : Program I State Value) (environment : Environment I)
    (state : State) (position : Nat) (holds : program.rely assumed post state)
    (given : ∀ entry ∈ (program.run environment state position).calls,
      assumed entry.op entry.answer) :
    post.holds (program.run environment state position).outcome
      (program.run environment state position).state := by
  induction program generalizing state position with
  | pure | throw | fault => exact holds
  | get next ih => exact ih state state position holds given
  | set inner next ih => exact ih inner position holds given
  | call op next ih =>
      have first := given ⟨state, op, environment position op⟩ List.mem_cons_self
      exact ih (environment position op) state (position + 1) (holds _ first)
        fun entry member => given entry (List.mem_cons_of_mem _ member)

/-- Every recorded answer is the environment's. -/
theorem calls_answered (program : Program I State Value) (environment : Environment I)
    (state : State) (position : Nat) :
    ∀ entry ∈ (program.run environment state position).calls,
      ∃ index, entry.answer = environment index entry.op := by
  induction program generalizing state position with
  | pure | throw | fault => exact fun _ member => nomatch member
  | get next ih => exact ih state state position
  | set inner next ih => exact ih inner position
  | call op next ih =>
      intro entry member
      rcases List.mem_cons.mp member with rfl | later
      · exact ⟨position, rfl⟩
      · exact ih _ state (position + 1) entry later

/-- An environment that keeps to an assumption does so in every recorded call. -/
theorem calls_assumed (program : Program I State Value) {environment : Environment I}
    (keeps : ∀ index op, assumed op (environment index op)) (state : State) (position : Nat) :
    ∀ entry ∈ (program.run environment state position).calls, assumed entry.op entry.answer := by
  intro entry member
  obtain ⟨index, answered⟩ := calls_answered program environment state position entry member
  rw [answered]
  exact keeps index entry.op

end Program

end Chassis.Effect
