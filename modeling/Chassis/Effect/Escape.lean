import Chassis.Effect.Exchange
import Chassis.Effect.Keeps

namespace Chassis.Effect.Program

variable {I : Interface} {State Inner Value Result Element : Type} {bad : Exchange I → Prop}

/-- In every run of the program an exception escapes exactly when one of its exchanges was bad. -/
def ThrowsAt (bad : Exchange I → Prop) (program : Program I State Value) : Prop :=
  ∀ environment state position,
    (∃ exception, (program.run environment state position).outcome = .thrown exception) ↔
      ∃ exchange ∈ (program.run environment state position).exchanges, bad exchange

/-- No answer can make the calls of the program bad. -/
abbrev Calm (bad : Exchange I → Prop) (program : Program I State Value) : Prop :=
  Keeps (fun _ op => ∀ answer, ¬bad ⟨op, answer⟩) (fun _ => True) (fun _ => True) program

theorem Calm.exchanges {program : Program I State Value} (calm : Calm bad program)
    (environment : Environment I) (state : State) (position : Nat) :
    ∀ exchange ∈ (program.run environment state position).exchanges, ¬bad exchange := by
  intro exchange member
  obtain ⟨call, called, rfl⟩ := List.mem_map.mp member
  exact (calm.sound environment state position trivial).1 call called call.answer

theorem throwsAt_pure (value : Value) : ThrowsAt bad (Pure.pure value : Program I State Value) := by
  intro environment state position
  simp [Run.exchanges]

theorem throwsAt_fault (reason : I.Fault) :
    ThrowsAt bad (.fault reason : Program I State Value) := by
  intro environment state position
  simp [Run.exchanges]

theorem throwsAt_modify (update : State → State) :
    ThrowsAt bad (modify update : Program I State Unit) := by
  intro environment state position
  simp [Run.exchanges]

/-- A call that no answer makes bad. -/
theorem throwsAt_ask {op : I.Op} (calm : ∀ answer, ¬bad ⟨op, answer⟩) :
    ThrowsAt bad (ask op : Program I State (I.Answer op)) := by
  intro environment state position
  simp [Run.exchanges, Call.exchange, calm]

theorem throwsAt_read {rest : State → Program I State Value}
    (second : ∀ state, ThrowsAt bad (rest state)) : ThrowsAt bad (read >>= rest) :=
  fun environment state position => second state environment state position

/-- A part that throws ends the sequence. -/
theorem throwsAt_bind {program : Program I State Value} {rest : Value → Program I State Result}
    (first : ThrowsAt bad program) (second : ∀ value, ThrowsAt bad (rest value)) :
    ThrowsAt bad (program >>= rest) := by
  intro environment state position
  have before := first environment state position
  rw [run_bind]
  generalize program.run environment state position = run at before ⊢
  rcases run with ⟨value | exception | reason, middle, calls⟩
  · have after := second value environment middle (position + calls.length)
    have none : ¬∃ exchange ∈ calls.map Call.exchange, bad exchange :=
      fun some => by simpa using before.mpr some
    simp only [andThen_value, Run.exchanges, List.map_append, List.mem_append, or_and_right,
      exists_or] at after ⊢
    rw [after]
    exact (or_iff_right none).symm
  · exact iff_of_true ⟨exception, rfl⟩ (before.mp ⟨exception, rfl⟩)
  · exact iff_of_false (by simp [Run.andThen]) fun some => by simpa using before.mpr some

/-- Exceptions of a calm program end in the handler. -/
theorem throwsAt_tryCatch {program : Program I State Value}
    {handler : I.Exception → Program I State Value} (calm : Calm bad program)
    (second : ∀ exception, ThrowsAt bad (handler exception)) :
    ThrowsAt bad (program.tryCatch handler) := by
  intro environment state position
  have quiet := calm.exchanges environment state position
  rw [run_tryCatch]
  generalize program.run environment state position = run at quiet ⊢
  rcases run with ⟨value | exception | reason, middle, calls⟩
  · simpa [Run.orElse, Run.exchanges] using quiet
  · have after := second exception environment middle (position + calls.length)
    have none : ¬∃ exchange ∈ calls.map Call.exchange, bad exchange := by
      rintro ⟨exchange, member, found⟩
      exact quiet exchange member found
    simp only [Run.orElse, Run.exchanges, List.map_append, List.mem_append, or_and_right,
      exists_or] at after ⊢
    rw [after]
    exact (or_iff_right none).symm
  · simpa [Run.orElse, Run.exchanges] using quiet

theorem throwsAt_ite {condition : Prop} [Decidable condition] {first second : Program I State Value}
    (positive : condition → ThrowsAt bad first) (negative : ¬condition → ThrowsAt bad second) :
    ThrowsAt bad (if condition then first else second) := by
  split
  · exact positive ‹_›
  · exact negative ‹_›

theorem throwsAt_forEach {body : Element → Program I State Unit} {elements : List Element}
    (each : ∀ element, ThrowsAt bad (body element)) : ThrowsAt bad (forEach body elements) := by
  induction elements with
  | nil => exact throwsAt_pure ()
  | cons element rest ih => exact throwsAt_bind (each element) fun _ => ih

end Chassis.Effect.Program
