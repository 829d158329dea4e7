import Chassis.Effect.Run

namespace Chassis.Effect

variable {I : Interface} {State Value : Type}

/-- A program that has run on its own has ended or waits for the answer to a call. -/
inductive Residual (I : Interface) (State Value : Type) where
  | ended (outcome : Outcome I Value)
  | waiting (op : I.Op) (next : I.Answer op → Program I State Value)

/-- A program runs on its own until it waits or ends. -/
def Program.settle : Program I State Value → State → Residual I State Value × State
  | .pure value, state => (.ended (.value value), state)
  | .throw exception, state => (.ended (.thrown exception), state)
  | .fault reason, state => (.ended (.fault reason), state)
  | .get next, state => (next state).settle state
  | .set state next, _ => next.settle state
  | .call op next, state => (.waiting op next, state)

/-- The environment answers the rest of the program from the given position on. -/
def Residual.run (environment : Environment I) (residual : Residual I State Value) (state : State)
    (position : Nat) : Run I State Value :=
  match residual with
  | .ended outcome => ⟨outcome, state, []⟩
  | .waiting op next => (Program.call op next).run environment state position

/-- Settling a program changes none of its runs. -/
theorem Program.run_settle (environment : Environment I) (program : Program I State Value)
    (state : State) (position : Nat) :
    (program.settle state).1.run environment (program.settle state).2 position =
      program.run environment state position := by
  induction program generalizing state with
  | pure value => rfl
  | throw exception => rfl
  | fault reason => rfl
  | get next ih => exact ih state state
  | set next rest ih => exact ih next
  | call op next ih => rfl

/-- A thread is the rest of a program with its state and the calls answered so far. -/
structure Thread (I : Interface) (State Value : Type) where
  residual : Residual I State Value
  state : State
  calls : List (Call I State)

namespace Thread

def start (program : Program I State Value) (state : State) : Thread I State Value :=
  ⟨(program.settle state).1, (program.settle state).2, []⟩

/-- A waiting thread has made a call that is not answered yet. -/
def waiting (thread : Thread I State Value) : Option I.Op :=
  match thread.residual with
  | .waiting op _ => some op
  | .ended _ => none

/-- A waiting thread continues with the answer to its call. -/
def resume (thread : Thread I State Value) (answer : (op : I.Op) → I.Answer op) :
    Thread I State Value :=
  match thread.residual with
  | .waiting op next =>
      ⟨((next (answer op)).settle thread.state).1, ((next (answer op)).settle thread.state).2,
        thread.calls ++ [⟨thread.state, op, answer op⟩]⟩
  | .ended _ => thread

/-- A thread that goes on records the answer to its call. -/
theorem resume_calls (thread : Thread I State Value) (answer : (op : I.Op) → I.Answer op) :
    (thread.resume answer).calls = thread.calls ∨
      ∃ op, thread.waiting = some op ∧
        (thread.resume answer).calls = thread.calls ++ [⟨thread.state, op, answer op⟩] := by
  rcases thread with ⟨_ | ⟨op, next⟩, state, calls⟩
  · exact .inl rfl
  · exact .inr ⟨op, rfl, rfl⟩

/-- The environment gives the answers that were recorded. -/
def Agrees (environment : Environment I) (calls : List (Call I State)) : Prop :=
  ∀ position entry, calls[position]? = some entry → environment position entry.op = entry.answer

/-- A thread replays a program when every agreeing run of the program passes through it. -/
def Replays (thread : Thread I State Value) (program : Program I State Value) (state : State) :
    Prop :=
  ∀ environment, Agrees environment thread.calls →
    program.run environment state 0 =
      let rest := thread.residual.run environment thread.state thread.calls.length
      { rest with calls := thread.calls ++ rest.calls }

theorem start_replays (program : Program I State Value) (state : State) :
    (start program state).Replays program state := by
  intro environment _
  simp only [start, List.length_nil, List.nil_append, Program.run_settle]

/-- An answer moves the thread along the runs that agree with it. -/
theorem Replays.resume {thread : Thread I State Value} {program : Program I State Value}
    {state : State} (replays : thread.Replays program state)
    (answer : (op : I.Op) → I.Answer op) : (thread.resume answer).Replays program state := by
  rcases thread with ⟨residual, current, calls⟩
  cases residual with
  | ended outcome => exact replays
  | waiting op next =>
      intro environment agrees
      have earlier : Agrees environment calls := fun position entry recorded =>
        agrees position entry (List.getElem?_append_left (List.getElem?_eq_some_iff.mp recorded).1
          |>.trans recorded)
      have last : environment calls.length op = answer op :=
        agrees calls.length ⟨current, op, answer op⟩ List.getElem?_concat_length
      rw [replays environment earlier]
      simp only [Thread.resume, Program.run_settle, List.length_append, List.length_singleton,
        List.append_assoc, List.singleton_append]
      simp only [Residual.run, Program.run, last]

section Ending

variable [DecidableEq I.Op] [∀ op, Inhabited (I.Answer op)]

/-- The recorded answers form an environment. -/
def replaying (calls : List (Call I State)) : Environment I := fun position op =>
  match calls[position]? with
  | some entry => if same : entry.op = op then same ▸ entry.answer else default
  | none => default

theorem replaying_agrees (calls : List (Call I State)) : Agrees (replaying calls) calls := by
  intro position entry recorded
  simp only [replaying, recorded, dite_true]

/-- A thread that has ended is the end of a run of its program. -/
theorem Replays.ended {thread : Thread I State Value} {program : Program I State Value}
    {state : State} (replays : thread.Replays program state) {outcome : Outcome I Value}
    (ended : thread.residual = .ended outcome) :
    program.run (replaying thread.calls) state 0 = ⟨outcome, thread.state, thread.calls⟩ := by
  rw [replays _ (replaying_agrees _), ended]
  simp only [Residual.run, List.append_nil]

end Ending

end Thread

end Chassis.Effect
