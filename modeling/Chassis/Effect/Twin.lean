import Chassis.Effect.Exchange

namespace Chassis.Effect

variable {I : Interface} {Known State Inner Value Result Element : Type}

/-- Two runs are watched side by side: which answers to one call count as the same, what the answers
of the first run tell, and which of them are sound. -/
structure Watch (I : Interface) (Known : Type) where
  agree : (op : I.Op) → I.Answer op → I.Answer op → Prop
  observe : Known → (op : I.Op) → I.Answer op → Known
  sound : Known → (op : I.Op) → I.Answer op → Prop

namespace Watch

variable (watch : Watch I Known)

/-- The answers of two environments count as the same at each position. -/
def Agree (first second : Environment I) : Prop :=
  ∀ position op, watch.agree op (first position op) (second position op)

/-- What is known after some exchanges. -/
def after (known : Known) (exchanges : List (Exchange I)) : Known :=
  exchanges.foldl (fun known exchange => watch.observe known exchange.1 exchange.2) known

/-- Every answer was sound when it came. -/
def Clean : Known → List (Exchange I) → Prop
  | _, [] => True
  | known, exchange :: rest => watch.sound known exchange.1 exchange.2 ∧
      Clean (watch.observe known exchange.1 exchange.2) rest

theorem after_append (known : Known) (first second : List (Exchange I)) :
    watch.after known (first ++ second) = watch.after (watch.after known first) second :=
  List.foldl_append

theorem clean_append (known : Known) (first second : List (Exchange I)) :
    watch.Clean known (first ++ second) ↔
      watch.Clean known first ∧ watch.Clean (watch.after known first) second := by
  induction first generalizing known with
  | nil => simp [Clean, after]
  | cons exchange rest ih => simp only [List.cons_append, Clean, ih, and_assoc, after,
      List.foldl_cons]

/-- Clean exchanges are recognised one after the other. -/
instance decidableClean [sound : ∀ known op answer, Decidable (watch.sound known op answer)]
    (known : Known) : (exchanges : List (Exchange I)) → Decidable (watch.Clean known exchanges)
  | [] => isTrue trivial
  | exchange :: rest =>
      have := decidableClean (watch.observe known exchange.1 exchange.2) rest
      inferInstanceAs (Decidable (_ ∧ _))

end Watch

/-- A condition on the endings of two runs. Nothing is asked of the states at a fault. -/
structure Ends (Known State Value : Type) where
  value : Known → Value → Value → State → State → Prop
  thrown : Known → State → State → Prop

/-- Both runs end in the same way. -/
inductive Ends.Hold (ends : Ends Known State Value) (known : Known) (state other : State) :
    Outcome I Value → Outcome I Value → Prop where
  | value {first second : Value} (related : ends.value known first second state other) :
      ends.Hold known state other (.value first) (.value second)
  | thrown (exception : I.Exception) (related : ends.thrown known state other) :
      ends.Hold known state other (.thrown exception) (.thrown exception)
  | fault (reason : I.Fault) : ends.Hold known state other (.fault reason) (.fault reason)

theorem Ends.Hold.mono {strong weak : Ends Known State Value} {known : Known} {state other : State}
    {first second : Outcome I Value} (holds : strong.Hold known state other first second)
    (values : ∀ known value value' state other, strong.value known value value' state other →
      weak.value known value value' state other)
    (exceptions : ∀ known state other, strong.thrown known state other →
      weak.thrown known state other) :
    weak.Hold known state other first second := by
  cases holds with
  | value related => exact .value (values _ _ _ _ _ related)
  | thrown exception related => exact .thrown exception (exceptions _ _ _ related)
  | fault reason => exact .fault reason

section Runs

variable {watch : Watch I Known} {strong : Ends Known State Result} {ends : Ends Known State Value}
  {known : Known}

/-- As long as the answers of the first run are sound, the second one makes the same calls and ends in
the same way. -/
def Meets (watch : Watch I Known) (ends : Ends Known State Value) (known : Known)
    (first second : Run I State Value) : Prop :=
  watch.Clean known first.exchanges → first.ops = second.ops ∧
    ends.Hold (watch.after known first.exchanges) first.state second.state first.outcome
      second.outcome

/-- Two runs that returned go on from the states they left. -/
theorem meets_andThen {run run' : Run I State Result}
    {next next' : Result → State → Run I State Value} (start : Meets watch strong known run run')
    (later : ∀ value value', run.outcome = .value value → run.calls.length = run'.calls.length →
      strong.value (watch.after known run.exchanges) value value' run.state run'.state →
        Meets watch ends (watch.after known run.exchanges) (next value run.state)
          (next' value' run'.state))
    (exceptions : ∀ known state other, strong.thrown known state other →
      ends.thrown known state other) :
    Meets watch ends known (run.andThen next) (run'.andThen next') := by
  rcases run with ⟨outcome, middle, calls⟩
  rcases run' with ⟨outcome', middle', calls'⟩
  intro clean
  cases outcome with
  | value value =>
      simp only [andThen_value, Run.exchanges, List.map_append, Watch.clean_append] at clean
      obtain ⟨same, ended⟩ := start clean.1
      cases ended with
      | value related =>
          have rest := later _ _ rfl (Run.length_eq_of_ops same) related clean.2
          simp only [andThen_value, Run.exchanges, Run.ops, List.map_append, Watch.after_append]
          exact ⟨congrArg₂ _ same rest.1, rest.2⟩
  | thrown exception =>
      obtain ⟨same, ended⟩ := start clean
      cases ended with
      | thrown _ related => exact ⟨same, .thrown exception (exceptions _ _ _ related)⟩
  | fault reason =>
      obtain ⟨same, ended⟩ := start clean
      cases ended with
      | fault => exact ⟨same, .fault reason⟩

end Runs

namespace Program

variable {watch : Watch I Known} {ends : Ends Known State Value} {known : Known}
  {state other : State}

/-- Under environments that agree the two programs meet from each position on. -/
def twin (watch : Watch I Known) (first second : Program I State Value)
    (ends : Ends Known State Value) (known : Known) (state other : State) : Prop :=
  ∀ environment environment', watch.Agree environment environment' → ∀ position,
    Meets watch ends known (first.run environment state position)
      (second.run environment' other position)

theorem twin_pure {first second : Value} (related : ends.value known first second state other) :
    twin watch (Pure.pure first : Program I State Value) (Pure.pure second) ends known state other :=
  fun _ _ _ _ _ => ⟨rfl, .value related⟩

theorem twin_throw {exception : I.Exception} (related : ends.thrown known state other) :
    twin watch (.throw exception : Program I State Value) (.throw exception) ends known state
      other :=
  fun _ _ _ _ _ => ⟨rfl, .thrown exception related⟩

theorem twin_fault (reason : I.Fault) :
    twin watch (.fault reason : Program I State Value) (.fault reason) ends known state other :=
  fun _ _ _ _ _ => ⟨rfl, .fault reason⟩

theorem twin_modify {ends : Ends Known State Unit} {update change : State → State}
    (related : ends.value known () () (update state) (change other)) :
    twin watch (modify update : Program I State Unit) (modify change) ends known state other :=
  fun _ _ _ _ _ => ⟨rfl, .value related⟩

/-- An answer that is not sound is never met. -/
theorem twin_ask {op : I.Op} {ends : Ends Known State (I.Answer op)}
    (related : ∀ first second, watch.agree op first second → watch.sound known op first →
      ends.value (watch.observe known op first) first second state other) :
    twin watch (ask op : Program I State (I.Answer op)) (ask op) ends known state other :=
  fun _ _ agree position clean =>
    ⟨rfl, .value (related _ _ (agree position op) clean.1)⟩

/-- The rest starts from the states that the first programs leave. -/
theorem twin_bind {first second : Program I State Result} {rest rest' : Result → Program I State Value}
    (related : twin watch first second ⟨fun known value value' state other =>
      twin watch (rest value) (rest' value') ends known state other, ends.thrown⟩
      known state other) :
    twin watch (first >>= rest) (second >>= rest') ends known state other := by
  intro environment environment' agree position
  rw [run_bind, run_bind]
  refine meets_andThen (related environment environment' agree position) ?_ fun _ _ _ ended => ended
  intro value value' _ lengths later
  rw [← lengths]
  exact later environment environment' agree _

theorem twin_ite {condition : Prop} [Decidable condition]
    {first first' second second' : Program I State Value}
    (positive : condition → twin watch first first' ends known state other)
    (negative : ¬condition → twin watch second second' ends known state other) :
    twin watch (if condition then first else second) (if condition then first' else second') ends
      known state other := by
  by_cases holds : condition
  · rw [if_pos holds, if_pos holds]
    exact positive holds
  · rw [if_neg holds, if_neg holds]
    exact negative holds

/-- Each rest may depend on the state that its own run has read. -/
theorem twin_read {rest rest' : State → Program I State Value}
    (related : twin watch (rest state) (rest' other) ends known state other) :
    twin watch (read >>= rest) (read >>= rest') ends known state other :=
  related

/-- A weaker condition on the endings follows. -/
theorem twin_mono {first second : Program I State Value} {strong : Ends Known State Value}
    (related : twin watch first second strong known state other)
    (values : ∀ known value value' state other, strong.value known value value' state other →
      ends.value known value value' state other)
    (exceptions : ∀ known state other, strong.thrown known state other →
      ends.thrown known state other) :
    twin watch first second ends known state other := by
  intro environment environment' agree position clean
  obtain ⟨same, ended⟩ := related environment environment' agree position clean
  exact ⟨same, ended.mono values exceptions⟩

/-- Both handlers see the same exception. -/
theorem twin_tryCatch {first second : Program I State Value}
    {handler handler' : I.Exception → Program I State Value}
    (related : twin watch first second ⟨ends.value, fun known state other => ∀ exception,
      twin watch (handler exception) (handler' exception) ends known state other⟩
      known state other) :
    twin watch (first.tryCatch handler) (second.tryCatch handler') ends known state other := by
  intro environment environment' agree position clean
  have start := related environment environment' agree position
  rw [run_tryCatch] at clean
  rw [run_tryCatch, run_tryCatch]
  generalize first.run environment state position = run at start clean ⊢
  generalize second.run environment' other position = run' at start ⊢
  rcases run with ⟨outcome, middle, calls⟩
  rcases run' with ⟨outcome', middle', calls'⟩
  cases outcome with
  | value value =>
      obtain ⟨same, ended⟩ := start clean
      cases ended with
      | value related => exact ⟨same, .value related⟩
  | thrown exception =>
      simp only [Run.orElse, Run.exchanges, List.map_append, Watch.clean_append] at clean
      obtain ⟨same, ended⟩ := start clean.1
      cases ended with
      | thrown _ related =>
          have later := related exception environment environment' agree
            (position + calls.length) clean.2
          have lengths : calls.length = calls'.length := Run.length_eq_of_ops same
          simp only [Run.orElse, Run.exchanges, Run.ops, List.map_append, Watch.after_append]
          rw [← lengths]
          exact ⟨congrArg₂ _ same later.1, later.2⟩
  | fault reason =>
      obtain ⟨same, ended⟩ := start clean
      cases ended with
      | fault => exact ⟨same, .fault reason⟩

section Parts

/-- Two objects of their own leave the two states alone. -/
theorem twin_isolate {first second : Program I Inner Value} {inner inner' : Inner}
    {ends : Ends Known State (Value × Inner)}
    (related : twin watch first second ⟨fun known value value' inner inner' =>
        ends.value known (value, inner) (value', inner') state other,
      fun known _ _ => ends.thrown known state other⟩ known inner inner') :
    twin watch (first.isolate inner) (second.isolate inner') ends known state other := by
  intro environment environment' agree position clean
  obtain ⟨exchanges, ops⟩ := exchanges_isolate first inner environment state position
  obtain ⟨kept, ended⟩ := ended_isolate first inner environment state position
  obtain ⟨_, ops'⟩ := exchanges_isolate second inner' environment' other position
  obtain ⟨kept', ended'⟩ := ended_isolate second inner' environment' other position
  rw [exchanges] at clean
  obtain ⟨same, holds⟩ := related environment environment' agree position clean
  rw [exchanges, ops, kept, ended, ops', kept', ended']
  refine ⟨same, ?_⟩
  generalize first.run environment inner position = run at holds ⊢
  generalize second.run environment' inner' position = run' at holds ⊢
  rcases run with ⟨outcome, middle, calls⟩
  rcases run' with ⟨outcome', middle', calls'⟩
  cases holds with
  | value related => exact .value related
  | thrown exception related => exact .thrown exception related
  | fault reason => exact .fault reason

variable {replace : Inner → State → State}
  (overwrite : ∀ first second state, replace second (replace first state) = replace second state)
include overwrite

/-- Two parts are replaced in the two states. -/
theorem twin_focus {first second : Program I Inner Value} {inner inner' : Inner}
    (related : twin watch first second ⟨fun known value value' inner inner' =>
        ends.value known value value' (replace inner state) (replace inner' other),
      fun known inner inner' => ends.thrown known (replace inner state) (replace inner' other)⟩
      known inner inner') :
    twin watch (first.focus replace inner) (second.focus replace inner') ends known
      (replace inner state) (replace inner' other) := by
  intro environment environment' agree position clean
  obtain ⟨exchanges, ops, kept, ended⟩ :=
    run_focus overwrite first inner environment state position
  obtain ⟨_, ops', kept', ended'⟩ :=
    run_focus overwrite second inner' environment' other position
  rw [exchanges] at clean
  obtain ⟨same, holds⟩ := related environment environment' agree position clean
  rw [exchanges, ops, kept, ended, ops', kept', ended']
  refine ⟨same, ?_⟩
  generalize first.run environment inner position = run at holds ⊢
  generalize second.run environment' inner' position = run' at holds ⊢
  rcases run with ⟨outcome, middle, calls⟩
  rcases run' with ⟨outcome', middle', calls'⟩
  cases holds with
  | value related => exact .value related
  | thrown exception related => exact .thrown exception related
  | fault reason => exact .fault reason

end Parts

/-- Two programs keep a relation between their states and return matching values. Another relation
holds after an exception. -/
def Lockstep (watch : Watch I Known) (relation thrown : Known → State → State → Prop)
    (agrees : Value → Value → Prop) (first second : Program I State Value) : Prop :=
  ∀ known state other, relation known state other → twin watch first second
    ⟨fun known value value' state other => agrees value value' ∧ relation known state other,
      thrown⟩ known state other

section Lockstep

variable {relation thrown : Known → State → State → Prop} {agrees : Value → Value → Prop}

theorem lockstep_pure {first second : Value} (same : agrees first second) :
    Lockstep watch relation thrown agrees (Pure.pure first : Program I State Value)
      (Pure.pure second) :=
  fun _ _ _ related => twin_pure ⟨same, related⟩

/-- The values may agree in less. -/
theorem lockstep_weaken {strong : Value → Value → Prop} {first second : Program I State Value}
    (start : Lockstep watch relation thrown strong first second)
    (weaker : ∀ value value', strong value value' → agrees value value') :
    Lockstep watch relation thrown agrees first second :=
  fun known state other related => twin_mono (start known state other related)
    (fun _ value value' _ _ ended => ⟨weaker value value' ended.1, ended.2⟩)
    (fun _ _ _ ended => ended)

theorem lockstep_throw (exception : I.Exception) : Lockstep watch relation relation agrees
    (.throw exception : Program I State Value) (.throw exception) :=
  fun _ _ _ related => twin_throw related

theorem lockstep_fault (reason : I.Fault) : Lockstep watch relation thrown agrees
    (.fault reason : Program I State Value) (.fault reason) :=
  fun _ _ _ _ => twin_fault reason

theorem lockstep_modify {update change : State → State}
    (kept : ∀ known state other, relation known state other →
      relation known (update state) (change other)) :
    Lockstep watch relation thrown Eq (modify update : Program I State Unit) (modify change) :=
  fun known state other related => twin_modify ⟨rfl, kept known state other related⟩

theorem lockstep_ask {op : I.Op} {agrees : I.Answer op → I.Answer op → Prop}
    (kept : ∀ known state other first second, relation known state other →
      watch.agree op first second → watch.sound known op first →
      agrees first second ∧ relation (watch.observe known op first) state other) :
    Lockstep watch relation thrown agrees (ask op : Program I State (I.Answer op)) (ask op) :=
  fun known state other related => twin_ask fun first second agree sound =>
    kept known state other first second related agree sound

theorem lockstep_bind {first second : Program I State Result}
    {rest rest' : Result → Program I State Value} {matched : Result → Result → Prop}
    (start : Lockstep watch relation thrown matched first second)
    (later : ∀ value value', matched value value' →
      Lockstep watch relation thrown agrees (rest value) (rest' value')) :
    Lockstep watch relation thrown agrees (first >>= rest) (second >>= rest') :=
  fun known state other related => twin_bind (twin_mono (start known state other related)
    (fun known value value' state other ended =>
      later value value' ended.1 known state other ended.2)
    (fun _ _ _ ended => ended))

/-- The rest goes on from related states with matching values. -/
theorem Lockstep.bind {first second : Program I State Result}
    {rest rest' : Result → Program I State Value} {matched : Result → Result → Prop}
    (start : Lockstep watch relation ends.thrown matched first second)
    (related : relation known state other)
    (later : ∀ known value value' state other, matched value value' → relation known state other →
      twin watch (rest value) (rest' value') ends known state other) :
    twin watch (first >>= rest) (second >>= rest') ends known state other :=
  twin_bind (twin_mono (start known state other related)
    (fun known value value' state other ended =>
      later known value value' state other ended.1 ended.2)
    (fun _ _ _ ended => ended))

/-- The rest may rely on the relation between the states it has read. -/
theorem lockstep_read {rest rest' : State → Program I State Value}
    (later : ∀ known state other, relation known state other →
      Lockstep watch relation thrown agrees (rest state) (rest' other)) :
    Lockstep watch relation thrown agrees (read >>= rest) (read >>= rest') :=
  fun known state other related =>
    twin_read (later known state other related known state other related)

theorem lockstep_ite {condition : Prop} [Decidable condition]
    {first first' second second' : Program I State Value}
    (positive : condition → Lockstep watch relation thrown agrees first first')
    (negative : ¬condition → Lockstep watch relation thrown agrees second second') :
    Lockstep watch relation thrown agrees (if condition then first else second)
      (if condition then first' else second') :=
  fun known state other related => twin_ite (fun holds => positive holds known state other related)
    fun holds => negative holds known state other related

/-- The handlers start from the relation that holds after an exception. -/
theorem lockstep_tryCatch (middle : Known → State → State → Prop)
    {first second : Program I State Value} {handler handler' : I.Exception → Program I State Value}
    (start : Lockstep watch relation middle agrees first second)
    (later : ∀ exception known state other, middle known state other →
      twin watch (handler exception) (handler' exception)
        ⟨fun known value value' state other => agrees value value' ∧ relation known state other,
          thrown⟩ known state other) :
    Lockstep watch relation thrown agrees (first.tryCatch handler) (second.tryCatch handler') :=
  fun known state other related => twin_tryCatch (twin_mono (start known state other related)
    (fun _ _ _ _ _ ended => ended)
    (fun known state other ended exception => later exception known state other ended))

/-- Both loops visit the same elements. -/
theorem lockstep_forEach {body body' : Element → Program I State Unit} {elements : List Element}
    (each : ∀ element ∈ elements, Lockstep watch relation thrown Eq (body element) (body' element)) :
    Lockstep watch relation thrown Eq (forEach body elements) (forEach body' elements) := by
  induction elements with
  | nil => exact lockstep_pure rfl
  | cons element rest ih =>
      apply lockstep_bind (each element List.mem_cons_self)
      intro _ _ _
      exact ih fun element member => each element (List.mem_cons_of_mem _ member)

end Lockstep

end Program

end Chassis.Effect
