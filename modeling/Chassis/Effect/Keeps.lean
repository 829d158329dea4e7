import Chassis.Effect.Precondition

namespace Chassis.Effect.Program

variable {I : Interface} {State Inner Value Result Element : Type}
  {allowed : State → I.Op → Prop} {invariant : State → Prop} {admitted : I.Fault → Prop}

/-- A program keeps an invariant when each of its endings leaves it in force, and it makes only
allowed calls and reaches only admitted faults. -/
def Keeps (allowed : State → I.Op → Prop) (invariant : State → Prop) (admitted : I.Fault → Prop)
    (program : Program I State Value) : Prop :=
  ∀ state, invariant state → program.pre allowed ⟨fun _ => invariant, fun _ => invariant,
    fun reason state => invariant state ∧ admitted reason⟩ state

theorem keeps_pure (value : Value) :
    Keeps allowed invariant admitted (Pure.pure value : Program I State Value) :=
  fun _ initial => initial

theorem keeps_throw (exception : I.Exception) :
    Keeps allowed invariant admitted (.throw exception : Program I State Value) :=
  fun _ initial => initial

theorem keeps_fault {reason : I.Fault} (harmless : admitted reason) :
    Keeps allowed invariant admitted (.fault reason : Program I State Value) :=
  fun _ initial => ⟨initial, harmless⟩

theorem keeps_modify {update : State → State}
    (preserved : ∀ state, invariant state → invariant (update state)) :
    Keeps allowed invariant admitted (modify update : Program I State Unit) :=
  preserved

theorem keeps_ask {op : I.Op} (permitted : ∀ state, invariant state → allowed state op) :
    Keeps allowed invariant admitted (ask op : Program I State (I.Answer op)) :=
  fun state initial => ⟨permitted state initial, fun _ => initial⟩

theorem keeps_bind {program : Program I State Value} {rest : Value → Program I State Result}
    (first : Keeps allowed invariant admitted program)
    (second : ∀ value, Keeps allowed invariant admitted (rest value)) :
    Keeps allowed invariant admitted (program >>= rest) := by
  intro state initial
  rw [pre_bind]
  exact pre_value (first state initial) fun value next kept => second value next kept

/-- The rest may rely on the invariant of the state it has read. -/
theorem keeps_read {rest : State → Program I State Result}
    (second : ∀ state, invariant state → Keeps allowed invariant admitted (rest state)) :
    Keeps allowed invariant admitted (read >>= rest) :=
  fun state initial => second state initial state initial

theorem keeps_tryCatch {program : Program I State Value}
    {handler : I.Exception → Program I State Value}
    (first : Keeps allowed invariant admitted program)
    (second : ∀ exception, Keeps allowed invariant admitted (handler exception)) :
    Keeps allowed invariant admitted (program.tryCatch handler) := by
  intro state initial
  rw [pre_tryCatch]
  exact pre_mono (first state initial) (fun _ _ held => held) (fun _ _ held => held)
    (fun exception next kept => second exception next kept) (fun _ _ held => held)

theorem keeps_ite {condition : Prop} [Decidable condition] {first second : Program I State Value}
    (positive : condition → Keeps allowed invariant admitted first)
    (negative : ¬condition → Keeps allowed invariant admitted second) :
    Keeps allowed invariant admitted (if condition then first else second) := by
  split
  · exact positive ‹_›
  · exact negative ‹_›

theorem keeps_forEach {body : Element → Program I State Unit} {elements : List Element}
    (each : ∀ element, Keeps allowed invariant admitted (body element)) :
    Keeps allowed invariant admitted (forEach body elements) :=
  fun state initial => pre_forEach body elements invariant _ _
    (fun element _ next kept => each element next kept) state initial

/-- Every run of a program that keeps an invariant ends in it. -/
theorem Keeps.sound {program : Program I State Value}
    (keeps : Keeps allowed invariant admitted program) (environment : Environment I)
    (state : State) (position : Nat) (initial : invariant state) :
    (∀ entry ∈ (program.run environment state position).calls, allowed entry.state entry.op) ∧
      invariant (program.run environment state position).state ∧
      ∀ reason, (program.run environment state position).outcome = .fault reason →
        admitted reason := by
  rcases pre_sound program environment state position (keeps state initial) with ⟨calls, ended⟩
  refine ⟨calls, ?_⟩
  cases outcome : (program.run environment state position).outcome with
  | value value =>
      rw [outcome] at ended
      exact ⟨ended, nofun⟩
  | thrown exception =>
      rw [outcome] at ended
      exact ⟨ended, nofun⟩
  | fault reason =>
      rw [outcome] at ended
      refine ⟨ended.1, ?_⟩
      rintro _ ⟨⟩
      exact ended.2

/-- What holds of every ending holds of the endings of a program. -/
theorem pre_always {post : Post I State Value} (values : ∀ value state, post.value value state)
    (exceptions : ∀ exception state, post.thrown exception state)
    (faults : ∀ reason state, post.fault reason state) (program : Program I State Value)
    (state : State) : program.pre (fun _ _ => True) post state := by
  induction program generalizing state with
  | pure value => exact values value state
  | throw exception => exact exceptions exception state
  | fault reason => exact faults reason state
  | get next ih => exact ih state state
  | set inner next ih => exact ih inner
  | call op next ih => exact ⟨trivial, fun answer => ih answer state⟩

/-- A program returns only accepted values, whatever its states and the answers it gets. -/
def Returns (accepted : Value → Prop) : Program I State Value → Prop
  | .pure value => accepted value
  | .throw _ => True
  | .fault _ => True
  | .get next => ∀ state, Returns accepted (next state)
  | .set _ next => Returns accepted next
  | .call _ next => ∀ answer, Returns accepted (next answer)

section Returns

variable {accepted : Value → Prop}

theorem returns_pure {value : Value} (good : accepted value) :
    Returns accepted (Pure.pure value : Program I State Value) := good

/-- The returned value is a value of the last program. -/
theorem returns_bind {program : Program I State Result} {rest : Result → Program I State Value}
    (second : ∀ result, Returns accepted (rest result)) : Returns accepted (program >>= rest) := by
  change Returns accepted (program.bind rest)
  induction program with
  | pure result => exact second result
  | throw | fault => trivial
  | get next ih => exact ih
  | set state next ih => exact ih
  | call op next ih => exact ih

theorem returns_ite {condition : Prop} [Decidable condition] {first second : Program I State Value}
    (positive : condition → Returns accepted first)
    (negative : ¬condition → Returns accepted second) :
    Returns accepted (if condition then first else second) := by
  split
  · exact positive ‹_›
  · exact negative ‹_›

theorem Returns.pre {program : Program I State Value} (returns : Returns accepted program)
    (state : State) : program.pre (fun _ _ => True)
      ⟨fun value _ => accepted value, fun _ _ => True, fun _ _ => True⟩ state := by
  induction program generalizing state with
  | pure value => exact returns
  | throw | fault => trivial
  | get next ih => exact ih state (returns state) state
  | set inner next ih => exact ih returns inner
  | call op next ih => exact ⟨trivial, fun answer => ih answer (returns answer) state⟩

end Returns

end Chassis.Effect.Program
