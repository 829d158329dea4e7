import Chassis.Effect.Run

namespace Chassis.Effect.Program

variable {I : Interface} {State Value Result Element : Type}
  {good : Call I State → Prop} {before holds : State → Prop}

/-- After every run of the program the last property holds exactly when the first one held before and
all calls of the run were good. -/
def Decides (good : Call I State → Prop) (before holds : State → Prop)
    (program : Program I State Value) : Prop :=
  ∀ environment state position, holds (program.run environment state position).state ↔
    before state ∧ ∀ call ∈ (program.run environment state position).calls, good call

/-- Only a bad call can make the property hold no longer, and nothing else can make it hold again. -/
abbrev Exact (good : Call I State → Prop) (holds : State → Prop) (program : Program I State Value) :
    Prop :=
  Decides good holds holds program

/-- A run without calls decides by its final state alone. -/
theorem decides_of_quiet {first last : State} (same : holds last ↔ before first) :
    holds last ↔ before first ∧ ∀ call ∈ ([] : List (Call I State)), good call := by
  simp [same]

theorem decides_pure {value : Value} (same : ∀ state, holds state ↔ before state) :
    Decides good before holds (Pure.pure value : Program I State Value) :=
  fun _ state _ => decides_of_quiet (same state)

theorem exact_pure (value : Value) : Exact good holds (Pure.pure value : Program I State Value) :=
  decides_pure fun _ => Iff.rfl

theorem exact_throw (exception : I.Exception) :
    Exact good holds (.throw exception : Program I State Value) :=
  fun _ _ _ => decides_of_quiet Iff.rfl

theorem decides_fault {reason : I.Fault} (same : ∀ state, holds state ↔ before state) :
    Decides good before holds (.fault reason : Program I State Value) :=
  fun _ state _ => decides_of_quiet (same state)

theorem exact_modify {update : State → State} (same : ∀ state, holds (update state) ↔ holds state) :
    Exact good holds (modify update : Program I State Unit) :=
  fun _ state _ => decides_of_quiet (same state)

/-- A change of the state turns one property into another. -/
theorem decides_modify {update : State → State} {middle : State → Prop}
    {rest : Unit → Program I State Value} (second : Decides good middle holds (rest ()))
    (same : ∀ state, middle (update state) ↔ before state) :
    Decides good before holds (modify update >>= rest) := by
  intro environment state position
  rw [← same state]
  exact second environment (update state) position

/-- The answer to a call decides together with the state of the call. -/
theorem decides_ask {op : I.Op} {middle : I.Answer op → State → Prop}
    {rest : I.Answer op → Program I State Value}
    (second : ∀ answer, Decides good (middle answer) holds (rest answer))
    (divided : ∀ state answer, middle answer state ↔ before state ∧ good ⟨state, op, answer⟩) :
    Decides good before holds (ask op >>= rest) := by
  intro environment state position
  have after := second (environment position op) environment state (position + 1)
  rw [divided, and_assoc] at after
  simpa only [run_bind, run_ask, andThen_value, List.length_singleton, List.singleton_append,
    List.forall_mem_cons] using after

/-- The calls of a sequence are those of its parts. -/
theorem decides_bind {program : Program I State Value} {rest : Value → Program I State Result}
    (first : Decides good before holds program) (second : ∀ value, Exact good holds (rest value)) :
    Decides good before holds (program >>= rest) := by
  intro environment state position
  have decided := first environment state position
  rw [run_bind]
  generalize program.run environment state position = run at decided ⊢
  rcases run with ⟨_ | _ | _, middle, calls⟩
  · rename_i value
    have after := second value environment middle (position + calls.length)
    simp only [andThen_value, List.forall_mem_append]
    dsimp only at decided
    rw [after, decided, and_assoc]
  · exact decided
  · exact decided

/-- The rest may depend on the state it has read. -/
theorem exact_read {rest : State → Program I State Result}
    (second : ∀ state, Exact good holds (rest state)) : Exact good holds (read >>= rest) :=
  fun environment state position => second state environment state position

theorem exact_tryCatch {program : Program I State Value}
    {handler : I.Exception → Program I State Value} (first : Exact good holds program)
    (second : ∀ exception, Exact good holds (handler exception)) :
    Exact good holds (program.tryCatch handler) := by
  intro environment state position
  have decided := first environment state position
  rw [run_tryCatch]
  generalize program.run environment state position = run at decided ⊢
  rcases run with ⟨_ | _ | _, middle, calls⟩
  · exact decided
  · rename_i exception
    have after := second exception environment middle (position + calls.length)
    simp only [Run.orElse, List.forall_mem_append]
    dsimp only at decided
    rw [after, decided, and_assoc]
  · exact decided

theorem exact_ite {condition : Prop} [Decidable condition] {first second : Program I State Value}
    (positive : condition → Exact good holds first)
    (negative : ¬condition → Exact good holds second) :
    Exact good holds (if condition then first else second) := by
  split
  · exact positive ‹_›
  · exact negative ‹_›

theorem exact_forEach {body : Element → Program I State Unit} {elements : List Element}
    (each : ∀ element, Exact good holds (body element)) :
    Exact good holds (forEach body elements) := by
  induction elements with
  | nil => exact exact_pure ()
  | cons element rest ih => exact decides_bind (each element) fun _ => ih

end Chassis.Effect.Program
