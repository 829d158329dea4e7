import Chassis.Effect.Exchange
import Chassis.Effect.Keeps
import Chassis.Effect.Rely
import Mathlib.Data.List.Infix

namespace Chassis.Effect.Program

variable {I : Interface} {State Value Result Element Image : Type}
  {event assumed : Exchange I → Prop} {holds : State → Prop}

/-- Runs whose answers are all assumed keep the property, unless they reach a fault. -/
def Retains (assumed : Exchange I → Prop) (holds : State → Prop) (program : Program I State Value) :
    Prop :=
  ∀ state, holds state → program.rely (fun op answer => assumed ⟨op, answer⟩)
    ⟨fun _ => holds, fun _ => holds, fun _ _ => True⟩ state

/-- Once an event happened and all later answers are assumed, the property holds at the end of the
run, unless it reaches a fault. -/
def Secures (event assumed : Exchange I → Prop) (holds : State → Prop)
    (program : Program I State Value) : Prop :=
  ∀ environment state position,
    let run := program.run environment state position
    (∀ reason, run.outcome ≠ .fault reason) → ∀ before exchange later,
      run.exchanges = before ++ exchange :: later → event exchange →
        (∀ other ∈ later, assumed other) → holds run.state

theorem Retains.sound {program : Program I State Value} (retains : Retains assumed holds program)
    (environment : Environment I) {state : State} (position : Nat) (initial : holds state) :
    let run := program.run environment state position
    (∀ reason, run.outcome ≠ .fault reason) → (∀ exchange ∈ run.exchanges, assumed exchange) →
      holds run.state := by
  intro run running given
  have ended := rely_sound program environment state position (retains state initial)
    fun entry called => given ⟨entry.op, entry.answer⟩ (List.mem_map_of_mem called)
  change Post.holds _ run.outcome run.state at ended
  rcases outcome : run.outcome with _ | exception | reason
  · rwa [outcome] at ended
  · rwa [outcome] at ended
  · exact (running reason outcome).elim

/-- What holds whatever the environment answers is also kept under an assumption. -/
theorem retains_of_keeps {allowed : State → I.Op → Prop} {program : Program I State Value}
    (keeps : Keeps allowed holds (fun _ => True) program) : Retains assumed holds program := by
  intro state initial
  apply rely_of_pre
  exact pre_mono (keeps state initial) (fun _ _ call => call) (fun _ _ held => held)
    (fun _ _ held => held) (fun _ _ _ => trivial)

theorem retains_bind {program : Program I State Value} {rest : Value → Program I State Result}
    (first : Retains assumed holds program) (second : ∀ value, Retains assumed holds (rest value)) :
    Retains assumed holds (program >>= rest) := by
  intro state initial
  rw [rely_bind]
  exact rely_mono (first state initial) (fun value next held => second value next held)
    (fun _ _ held => held) (fun _ _ held => held)

theorem retains_forEach {body : Element → Program I State Unit} {elements : List Element}
    (each : ∀ element, Retains assumed holds (body element)) :
    Retains assumed holds (forEach body elements) := by
  induction elements with
  | nil => exact fun _ initial => initial
  | cons element rest ih => exact retains_bind (each element) fun _ => ih

/-- The event is in the first part or in the second. -/
theorem split_append {first second before later : List (Exchange I)} {exchange : Exchange I}
    (split : first ++ second = before ++ exchange :: later) :
    (∃ middle, first = before ++ exchange :: middle ∧ later = middle ++ second) ∨
      ∃ middle, before = first ++ middle ∧ second = middle ++ exchange :: later := by
  rcases List.append_eq_append_iff.mp split with ⟨middle, long, rest⟩ | ⟨middle, short, rest⟩
  · exact .inr ⟨middle, long, rest⟩
  · rcases middle with _ | ⟨head, middle⟩
    · exact .inr ⟨[], by simpa using short.symm, rest.symm⟩
    · rw [List.cons_append, List.cons.injEq] at rest
      obtain ⟨rfl, rest⟩ := rest
      exact .inl ⟨middle, short, rest⟩

/-- The second part keeps what the first one secured. -/
theorem secures_bind {program : Program I State Value} {rest : Value → Program I State Result}
    (first : Secures event assumed holds program)
    (second : ∀ value, Secures event assumed holds (rest value))
    (kept : ∀ value, Retains assumed holds (rest value)) :
    Secures event assumed holds (program >>= rest) := by
  intro environment state position
  have secured := first environment state position
  rw [run_bind]
  generalize program.run environment state position = run at secured ⊢
  rcases run with ⟨value | exception | reason, middle, calls⟩
  · intro ended running before exchange later split happened given
    have whole : calls.map Call.exchange ++ _ = before ++ exchange :: later :=
      List.map_append.symm.trans split
    rcases split_append whole with ⟨front, early, rfl⟩ | ⟨front, rfl, late⟩
    · have held := secured (by simp) before exchange front early happened
        fun other member => given other (List.mem_append_left _ member)
      exact (kept value).sound environment _ held running
        fun other member => given other (List.mem_append_right _ member)
    · exact second value environment middle _ running front exchange later late happened given
  · intro ended _ before exchange later split happened given
    exact secured (by simp) before exchange later split happened given
  · intro _ running
    exact (running reason rfl).elim

theorem secures_forEach {body : Element → Program I State Unit} {elements : List Element}
    (each : ∀ element, Secures event assumed holds (body element))
    (kept : ∀ element, Retains assumed holds (body element)) :
    Secures event assumed holds (forEach body elements) := by
  induction elements with
  | nil =>
      intro environment state position run _ before exchange later split
      exact absurd split (by simp [run, forEach, Program.run, Run.exchanges])
  | cons element rest ih =>
      exact secures_bind (each element) (fun _ => ih) fun _ => retains_forEach kept

/-- When each body is observed once, a loop is observed at its elements in order, as far as it gets. -/
theorem forEach_observed {observe : Call I State → Option Image} {image : Element → Image}
    {body : Element → Program I State Unit} {environment : Environment I}
    (each : ∀ element state position,
      ((body element).run environment state position).calls.filterMap observe = [image element])
    (elements : List Element) (state : State) (position : Nat) :
    let run := (forEach body elements).run environment state position
    run.calls.filterMap observe <+: elements.map image ∧
      (run.outcome = .value () → run.calls.filterMap observe = elements.map image) := by
  induction elements generalizing state position with
  | nil => exact ⟨List.nil_prefix, fun _ => rfl⟩
  | cons element rest ih =>
      have own := each element state position
      intro run
      dsimp only [run]
      rw [forEach_cons, run_bind]
      generalize (body element).run environment state position = first at own ⊢
      rcases first with ⟨_ | exception | reason, middle, calls⟩
      · obtain ⟨initial, whole⟩ := ih middle (position + calls.length)
        simp only [andThen_value, List.filterMap_append, List.map_cons]
        dsimp only at own
        rw [own]
        exact ⟨(List.prefix_cons_inj _).mpr initial, fun returned => congrArg _ (whole returned)⟩
      · dsimp only at own
        refine ⟨?_, fun returned => by cases returned⟩
        rw [andThen_thrown, own]
        exact List.prefix_append [_] _
      · dsimp only at own
        refine ⟨?_, fun returned => by cases returned⟩
        change calls.filterMap observe <+: _
        rw [own]
        exact List.prefix_append [_] _

end Chassis.Effect.Program
