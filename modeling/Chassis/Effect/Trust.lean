import Chassis.Effect.Exchange
import Chassis.Effect.Precondition

namespace Chassis.Effect

variable {I : Interface} {State Inner Value Result Element : Type}
  {assumed : List (Exchange I) → Exchange I → Prop}

/-- A postcondition that looks back at the exchanges of the run. -/
abbrev PostAfter (I : Interface) (State Value : Type) := List (Exchange I) → Post I State Value

/-- This postcondition accepts such returns, no exception and every fault. -/
abbrev PostAfter.unlessFault (holds : List (Exchange I) → State → Prop) : PostAfter I State Unit :=
  fun past => ⟨fun _ => holds past, fun _ _ => False, fun _ _ => True⟩

/-- Each exchange of the list is assumed after the ones before it. -/
def Trusted (assumed : List (Exchange I) → Exchange I → Prop) (past : List (Exchange I)) :
    List (Exchange I) → Prop
  | [] => True
  | exchange :: rest => assumed past exchange ∧ Trusted assumed (past ++ [exchange]) rest

namespace Program

/-- The precondition under an assumption on each answer that looks back at the exchanges so far. -/
def trust (assumed : List (Exchange I) → Exchange I → Prop) :
    Program I State Value → PostAfter I State Value → List (Exchange I) → State → Prop
  | .pure value, post, past, state => (post past).value value state
  | .throw exception, post, past, state => (post past).thrown exception state
  | .fault reason, post, past, state => (post past).fault reason state
  | .get next, post, past, state => (next state).trust assumed post past state
  | .set state next, post, past, _ => next.trust assumed post past state
  | .call op next, post, past, state => ∀ answer, assumed past ⟨op, answer⟩ →
      (next answer).trust assumed post (past ++ [⟨op, answer⟩]) state

theorem trust_read (post : PostAfter I State State) (past : List (Exchange I))
    (state : State) :
    (Program.read).trust assumed post past state = (post past).value state state := rfl

/-- The first program must establish the precondition of the rest. -/
theorem trust_bind (program : Program I State Value)
    (rest : Value → Program I State Result) (post : PostAfter I State Result)
    (past : List (Exchange I)) (state : State) :
    (program >>= rest).trust assumed post past state =
      program.trust assumed (fun past => ⟨fun value next =>
        (rest value).trust assumed post past next, (post past).thrown, (post past).fault⟩)
          past state := by
  change (program.bind rest).trust assumed post past state = _
  induction program generalizing past state with
  | pure | throw | fault => rfl
  | get next ih => exact ih state past state
  | set inner next ih => exact ih past inner
  | call op next ih => simp only [bind, trust, ih]

/-- The handler must establish the postcondition after each exception. -/
theorem trust_tryCatch (program : Program I State Value)
    (handler : I.Exception → Program I State Value) (post : PostAfter I State Value)
    (past : List (Exchange I)) (state : State) :
    (program.tryCatch handler).trust assumed post past state =
      program.trust assumed (fun past => ⟨(post past).value,
        fun exception next => (handler exception).trust assumed post past next,
        (post past).fault⟩) past state := by
  induction program generalizing past state with
  | pure | throw | fault => rfl
  | get next ih => exact ih state past state
  | set inner next ih => exact ih past inner
  | call op next ih => simp only [tryCatch, trust, ih]

/-- A program on a part of the state keeps the rest of the state. -/
theorem trust_focus (replace : Inner → State → State)
    (overwrite : ∀ first second state,
      replace second (replace first state) = replace second state)
    (program : Program I Inner Value) (inner : Inner) (post : PostAfter I State Value)
    (past : List (Exchange I)) (state : State) :
    (program.focus replace inner).trust assumed post past (replace inner state) =
      program.trust assumed (fun past =>
        ⟨fun value inner => (post past).value value (replace inner state),
          fun exception inner => (post past).thrown exception (replace inner state),
          fun reason inner => (post past).fault reason (replace inner state)⟩) past inner := by
  induction program generalizing inner past with
  | pure | throw | fault => rfl
  | get next ih => exact ih inner inner past
  | set changed next ih => simp only [focus, trust, overwrite, ih]
  | call op next ih => simp only [focus, trust, ih]

/-- A stronger postcondition gives a stronger precondition. -/
theorem trust_mono {first second : PostAfter I State Value} {program : Program I State Value}
    {past : List (Exchange I)} {state : State} (holds : program.trust assumed first past state)
    (values : ∀ past value state,
      (first past).value value state → (second past).value value state)
    (exceptions : ∀ past exception state,
      (first past).thrown exception state → (second past).thrown exception state)
    (faults : ∀ past reason state,
      (first past).fault reason state → (second past).fault reason state) :
    program.trust assumed second past state := by
  induction program generalizing past state with
  | pure value => exact values past value state holds
  | throw exception => exact exceptions past exception state holds
  | fault reason => exact faults past reason state holds
  | get next ih => exact ih state holds
  | set inner next ih => exact ih holds
  | call op next ih => exact fun answer given => ih answer (holds answer given)

/-- Only the condition on the returns changes. -/
theorem trust_weaken {first second : List (Exchange I) → State → Prop}
    {program : Program I State Unit} {past : List (Exchange I)} {state : State}
    (holds : program.trust assumed (.unlessFault first) past state)
    (values : ∀ past state, first past state → second past state) :
    program.trust assumed (.unlessFault second) past state :=
  trust_mono holds (fun past _ => values past) (fun _ _ _ held => held) (fun _ _ _ held => held)

/-- The rest of a program starts from what the first part leaves. -/
theorem trust_then {first second : List (Exchange I) → State → Prop}
    {program : Program I State Unit} {rest : Unit → Program I State Unit}
    {past : List (Exchange I)} {state : State}
    (holds : program.trust assumed (.unlessFault first) past state)
    (later : ∀ past state, first past state →
      (rest ()).trust assumed (.unlessFault second) past state) :
    (program >>= rest).trust assumed (.unlessFault second) past state := by
  rw [trust_bind]
  exact trust_mono holds (fun past _ => later past) (fun _ _ _ held => held)
    (fun _ _ _ held => held)

/-- An invariant of the elements visited so far holds of all elements after the loop. -/
theorem trust_forEach (body : Element → Program I State Unit) (elements : List Element)
    (invariant : List Element → List (Exchange I) → State → Prop)
    (step : ∀ done element, done ++ [element] <+: elements → ∀ past state,
      invariant done past state →
        (body element).trust assumed (.unlessFault (invariant (done ++ [element]))) past state)
    (past : List (Exchange I)) (state : State) (initial : invariant [] past state) :
    (forEach body elements).trust assumed (.unlessFault (invariant elements)) past state := by
  suffices rest : ∀ done remaining, done ++ remaining = elements → ∀ past state,
      invariant done past state →
        (forEach body remaining).trust assumed (.unlessFault (invariant elements)) past state by
    exact rest [] elements rfl past state initial
  intro done remaining whole
  induction remaining generalizing done with
  | nil =>
      rw [List.append_nil] at whole
      subst whole
      exact fun _ _ reached => reached
  | cons element remaining ih =>
      intro past state reached
      have visited : done ++ [element] ++ remaining = elements := by
        rw [List.append_assoc, List.singleton_append, whole]
      exact trust_then (step done element ⟨remaining, visited⟩ past state reached)
        fun past state held => ih (done ++ [element]) visited past state held

/-- A run whose exchanges are trusted ends in the postcondition. -/
theorem trust_sound (program : Program I State Value) (post : PostAfter I State Value)
    (environment : Environment I) (past : List (Exchange I)) (state : State) (position : Nat)
    (holds : program.trust assumed post past state)
    (given : Trusted assumed past (program.run environment state position).exchanges) :
    (post (past ++ (program.run environment state position).exchanges)).holds
      (program.run environment state position).outcome
      (program.run environment state position).state := by
  induction program generalizing past state position with
  | pure | throw | fault =>
      change (post (past ++ [])).holds _ _
      rw [List.append_nil]
      exact holds
  | get next ih => exact ih state past state position holds given
  | set inner next ih => exact ih past inner position holds given
  | call op next ih =>
      obtain ⟨first, later⟩ := given
      have ended := ih (environment position op) _ state (position + 1) (holds _ first) later
      rw [List.append_assoc] at ended
      exact ended

end Program

end Chassis.Effect
