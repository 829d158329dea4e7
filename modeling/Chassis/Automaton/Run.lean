import Mathlib.Data.List.Induction

namespace Chassis.Automaton

variable {State Event : Type}

/-- A run applies its events in order and is undefined when an event is not enabled. -/
def run (step : State → Event → Option State) : State → List Event → Option State
  | state, [] => some state
  | state, event :: rest => (step state event).bind fun next => run step next rest

@[simp] theorem run_nil (step : State → Event → Option State) (state : State) :
    run step state [] = some state := rfl

theorem run_cons (step : State → Event → Option State) (state : State) (event : Event)
    (rest : List Event) :
    run step state (event :: rest) = (step state event).bind fun next => run step next rest := rfl

theorem run_append (step : State → Event → Option State) (state : State)
    (first second : List Event) :
    run step state (first ++ second) =
      (run step state first).bind fun next => run step next second := by
  induction first generalizing state with
  | nil => rfl
  | cons event rest ih =>
      simp only [List.cons_append, run_cons, Option.bind_assoc]
      congr 1
      funext next
      exact ih next

/-- A property of the events so far and the state they lead to is proved event by event. -/
theorem run_invariant {step : State → Event → Option State} {start : State}
    (property : List Event → State → Prop) (initial : property [] start)
    (preserved : ∀ events state event next, run step start events = some state →
      property events state → step state event = some next → property (events ++ [event]) next)
    {events : List Event} {state : State} (ran : run step start events = some state) :
    property events state := by
  induction events using List.reverseRecOn generalizing state with
  | nil =>
      cases ran
      exact initial
  | append_singleton events event ih =>
      rw [run_append, Option.bind_eq_some_iff] at ran
      obtain ⟨before, ran, last⟩ := ran
      rw [run_cons, Option.bind_eq_some_iff] at last
      obtain ⟨next, taken, ended⟩ := last
      cases ended
      exact preserved events before event state ran (ih ran) taken

/-- A state is reached by a run whose every step meets the condition in the state before it. -/
inductive Reach (step : State → Event → Option State) (condition : State → Event → Prop)
    (start : State) : State → Prop where
  | start : Reach step condition start start
  | next {state after : State} {event : Event} (before : Reach step condition start state)
      (met : condition state event) (taken : step state event = some after) :
      Reach step condition start after

/-- Plain reachability puts no condition on the steps. -/
abbrev Reachable (step : State → Event → Option State) (start : State) : State → Prop :=
  Reach step (fun _ _ => True) start

/-- A property that every admitted step preserves holds in every state reached. -/
theorem Reach.invariant {step : State → Event → Option State} {condition : State → Event → Prop}
    {start state : State} (reach : Reach step condition start state) (property : State → Prop)
    (initial : property start)
    (preserved : ∀ before event after, property before → condition before event →
      step before event = some after → property after) : property state := by
  induction reach with
  | start => exact initial
  | next _ met taken ih => exact preserved _ _ _ ih met taken

/-- A weaker condition admits every run of a stronger one. -/
theorem Reach.weaken {step : State → Event → Option State} {strong weak : State → Event → Prop}
    {start state : State} (reach : Reach step strong start state)
    (implies : ∀ before event, strong before event → weak before event) :
    Reach step weak start state := by
  induction reach with
  | start => exact .start
  | next _ met taken ih => exact .next ih (implies _ _ met) taken

theorem Reach.reachable {step : State → Event → Option State} {condition : State → Event → Prop}
    {start state : State} (reach : Reach step condition start state) :
    Reachable step start state :=
  reach.weaken fun _ _ _ => trivial

/-- Two consecutive runs form one run. -/
theorem Reach.trans {step : State → Event → Option State} {condition : State → Event → Prop}
    {start middle state : State} (first : Reach step condition start middle)
    (second : Reach step condition middle state) : Reach step condition start state := by
  induction second with
  | start => exact first
  | next _ met taken ih => exact .next ih met taken

/-- Every step of an executed list of events meets the condition on its two states. -/
def Along (step : State → Event → Option State) (condition : State → Event → State → Prop) :
    State → List Event → Prop
  | _, [] => True
  | state, event :: rest => ∀ next, step state event = some next →
      condition state event next ∧ Along step condition next rest

/-- Two conditions that agree on the steps from states with an invariant agree on whole runs. -/
theorem along_congr {step : State → Event → Option State}
    {first second : State → Event → State → Prop} (invariant : State → Prop)
    (preserved : ∀ state event next, invariant state → step state event = some next →
      invariant next)
    (agree : ∀ state event next, invariant state → step state event = some next →
      (first state event next ↔ second state event next))
    {start : State} (initial : invariant start) (events : List Event) :
    Along step first start events ↔ Along step second start events := by
  induction events generalizing start with
  | nil => exact Iff.rfl
  | cons event rest ih =>
      apply forall_congr'
      intro next
      apply imp_congr_right
      intro taken
      exact and_congr (agree start event next initial taken)
        (ih (preserved start event next initial taken))

/-- When a property of the states passes exactly over the steps that meet a condition, a run keeps it
throughout exactly when all of its steps do. -/
theorem along_iff_of_step {step : State → Event → Option State} {holds : State → Prop}
    {condition : State → Event → Prop} (invariant : State → Prop)
    (preserved : ∀ state event next, invariant state → step state event = some next →
      invariant next)
    (passes : ∀ state event next, invariant state → holds state → step state event = some next →
      (holds next ↔ condition state event))
    {start : State} (initial : invariant start) (held : holds start) (events : List Event) :
    Along step (fun _ _ next => holds next) start events ↔
      Along step (fun state event _ => condition state event) start events := by
  induction events generalizing start with
  | nil => exact Iff.rfl
  | cons event rest ih =>
      apply forall_congr'
      intro next
      apply imp_congr_right
      intro taken
      have kept := preserved start event next initial taken
      have passed := passes start event next initial held taken
      constructor
      · intro along
        exact ⟨passed.mp along.1, (ih kept along.1).mp along.2⟩
      · intro along
        have after := passed.mpr along.1
        exact ⟨after, (ih kept after).mpr along.2⟩

/-- An executed list of events shows the condition of its steps. -/
theorem Along.reach {step : State → Event → Option State} {condition : State → Event → Prop}
    {start state : State} {events : List Event}
    (along : Along step (fun before event _ => condition before event) start events)
    (ran : run step start events = some state) : Reach step condition start state := by
  induction events generalizing start with
  | nil =>
      cases ran
      exact .start
  | cons event rest ih =>
      rw [run_cons, Option.bind_eq_some_iff] at ran
      obtain ⟨middle, taken, ran⟩ := ran
      obtain ⟨met, along⟩ := along middle taken
      exact Reach.trans (.next .start met taken) (ih along ran)

/-- A weaker condition holds along every run of a stronger one. -/
theorem Along.weaken {step : State → Event → Option State}
    {strong weak : State → Event → State → Prop} {start : State} {events : List Event}
    (along : Along step strong start events)
    (implies : ∀ before event after, strong before event after → weak before event after) :
    Along step weak start events := by
  induction events generalizing start with
  | nil => trivial
  | cons event rest ih =>
      intro next taken
      obtain ⟨met, later⟩ := along next taken
      exact ⟨implies start event next met, ih later⟩

instance along_decidable (step : State → Event → Option State)
    (condition : State → Event → State → Prop)
    [∀ before event after, Decidable (condition before event after)] :
    (start : State) → (events : List Event) → Decidable (Along step condition start events)
  | _, [] => .isTrue trivial
  | state, event :: rest =>
      match taken : step state event with
      | none => .isTrue fun _ stepped => nomatch taken.symm.trans stepped
      | some after =>
          have := along_decidable step condition after rest
          if met : condition state event after ∧ Along step condition after rest then
            .isTrue fun _ stepped => Option.some.inj (taken.symm.trans stepped) ▸ met
          else .isFalse fun along => met (along after taken)

/-- The condition holds of the last step of an executed list of events. -/
theorem Along.last {step : State → Event → Option State} {condition : State → Event → State → Prop}
    {start before after : State} {events : List Event} {event : Event}
    (along : Along step condition start (events ++ [event]))
    (ran : run step start events = some before) (taken : step before event = some after) :
    condition before event after := by
  induction events generalizing start with
  | nil =>
      cases ran
      exact (along after taken).1
  | cons first rest ih =>
      rw [run_cons, Option.bind_eq_some_iff] at ran
      obtain ⟨middle, stepped, ran⟩ := ran
      exact ih (along middle stepped).2 ran

/-- An executed list of events that meet the condition everywhere witnesses reachability. -/
theorem reach_of_run {step : State → Event → Option State} {condition : State → Event → Prop}
    {start state : State} {events : List Event} (ran : run step start events = some state)
    (met : ∀ event ∈ events, ∀ before, condition before event) :
    Reach step condition start state := by
  induction events generalizing start with
  | nil =>
      cases ran
      exact .start
  | cons event rest ih =>
      rw [run_cons, Option.bind_eq_some_iff] at ran
      rcases ran with ⟨middle, taken, ran⟩
      exact Reach.trans (.next .start (met event List.mem_cons_self start) taken)
        (ih ran fun later member => met later (List.mem_cons_of_mem event member))

end Chassis.Automaton
