import Chassis.Proof.Bridge.Faults

namespace Chassis.Ipmb
open Automaton

variable {count : Nat}

/-- No timer wait ends with an error other than its cancellation. -/
def Event.Timely (event : Event count) : Prop := ∀ call, event ≠ .timerDone call true

/-- After the first events the frame matches the request of a call whose coroutine is suspended. -/
def Processes (channels : Fin count → IpmbChannel) (before : List (Event count))
    (frame : Event count) (call : Nat) (response : IpmbResponse) : Prop :=
  ∃ bridge record, run Bridge.step (.initial channels) before = some bridge ∧
    bridge.calls call = some record ∧ record.suspended = true ∧
    bridge.table.Hears frame call response

/-- The try that a suspended coroutine is in. -/
def Suspension.attempt : Suspension → Nat
  | .writing attempt _ => attempt
  | .waiting attempt => attempt
  | .resuming attempt _ => attempt

/-- So many of its operations are still to be completed in the present try at most. -/
def Suspension.pending : Suspension → Nat
  | .writing _ i2cRetryCnt => if i2cRetryCnt + 1 < ipmbI2cNumberOfRetries then 4 else 3
  | .waiting _ => 2
  | .resuming _ _ => 1

theorem Suspension.pending_pos (suspension : Suspension) : 1 ≤ suspension.pending := by
  cases suspension with
  | writing attempt i2cRetryCnt =>
      simp only [Suspension.pending]
      split_ifs <;> omega
  | waiting attempt => exact Nat.le_add_left 1 1
  | resuming attempt ec => exact Nat.le_refl 1

/-- A failed wait is about to end the call. -/
def Suspension.failed : Suspension → Bool
  | .resuming _ .failed => true
  | _ => false

section Promise

variable {bridge after : Bridge count} {event : Event count} {call : Nat}

/-- A call with a matched request has returned its response or will do so after a few completions. -/
def Promised (bridge : Bridge count) (call completions : Nat) : Prop :=
  ∃ record, bridge.calls call = some record ∧
    ((∃ response, record.status = .returned (.matched response)) ∨
      ∃ suspension, record.status = .suspended suspension ∧ suspension.failed = false ∧
        (bridge.heap call).state = .matched ∧ completions + suspension.pending ≤ 4)

theorem Suspension.pending_le (suspension : Suspension) : suspension.pending ≤ 4 := by
  cases suspension with
  | writing attempt i2cRetryCnt =>
      simp only [Suspension.pending]
      split_ifs <;> omega
  | waiting attempt => exact Nat.le_add_right 2 2
  | resuming attempt ec => exact Nat.le_add_right 1 3

/-- A suspended call that hears its response has the promise. -/
theorem promised_of_heard {record : Call count} {suspension : Suspension} {response : IpmbResponse}
    (sound : bridge.table.Sound) (present : bridge.calls call = some record)
    (suspended : record.status = .suspended suspension) (punctual : suspension.failed = false)
    (hears : bridge.table.Hears event call response) (taken : bridge.step event = some after) :
    Promised after call 0 := by
  obtain ⟨index, bytes, rfl, _⟩ := id hears
  cases step_turn sound present taken with
  | stays foreign unheard present' same => exact absurd hears (unheard response)
  | marked response' status hears' woken present' kept =>
      refine ⟨_, present', .inr ?_⟩
      have matched : (after.heap call).state = .matched := by rw [kept]
      rcases woken with rfl | ⟨attempt, waiting, rfl⟩
      · exact ⟨suspension, suspended, punctual, matched, by have := suspension.pending_le; omega⟩
      · exact ⟨.resuming attempt .aborted, rfl, rfl, matched, Nat.le_add_right 1 3⟩
  | rewrote attempt i2cRetryCnt own => cases own
  | wrote attempt i2cRetryCnt ec own => cases own
  | ended attempt failed own => cases own
  | retried attempt ec own => cases own
  | returned attempt ec outcome own => cases own

/-- A call that has returned keeps its record. -/
theorem step_returned (sound : bridge.table.Sound) {record : Call count} {outcome : RequestOutcome}
    (present : bridge.calls call = some record) (returned : record.status = .returned outcome)
    (taken : bridge.step event = some after) : after.calls call = some record :=
  sound.returned (step_table taken) present returned

/-- Every timely step keeps the promise, and the completions of the call's operations count. -/
theorem Promised.step {completions : Nat} (promised : Promised bridge call completions)
    (sound : bridge.table.Sound) (timely : event.Timely) (taken : bridge.step event = some after) :
    Promised after call (completions + if event.completes call then 1 else 0) := by
  obtain ⟨record, present, ⟨response, returned⟩ | ⟨suspension, suspended, punctual, matched, few⟩⟩ :=
    promised
  · exact ⟨record, step_returned sound present returned taken, .inl ⟨response, returned⟩⟩
  · cases step_turn sound present taken with
    | stays foreign unheard present' same =>
        refine ⟨record, present', .inr ⟨suspension, suspended, punctual, same ▸ matched, ?_⟩⟩
        rw [foreign]
        exact few
    | marked response status hears woken present' kept =>
        obtain ⟨index, bytes, rfl, _⟩ := hears
        have matched : (after.heap call).state = .matched := by rw [kept]
        refine ⟨_, present', .inr ?_⟩
        rcases woken with rfl | ⟨attempt, waiting, rfl⟩
        · exact ⟨suspension, suspended, punctual, matched, few⟩
        · cases suspended.symm.trans waiting
          refine ⟨.resuming attempt .aborted, rfl, rfl, matched, ?_⟩
          simp only [Suspension.pending] at few ⊢
          simp only [Event.completes, Bool.false_eq_true, if_false]
          omega
    | rewrote attempt i2cRetryCnt own before left present' same =>
        cases suspended.symm.trans before
        subst own
        refine ⟨_, present', .inr ⟨.writing attempt (i2cRetryCnt + 1), rfl, rfl, same ▸ matched, ?_⟩⟩
        have last : ¬i2cRetryCnt + 1 + 1 < ipmbI2cNumberOfRetries := by
          unfold ipmbI2cNumberOfRetries at left ⊢
          omega
        simp only [Suspension.pending, left, if_true] at few
        simp only [Suspension.pending, last, if_false, Event.completes, beq_self_eq_true, if_true]
        omega
    | wrote attempt i2cRetryCnt ec own before present' same =>
        cases suspended.symm.trans before
        subst own
        refine ⟨_, present', .inr ⟨.waiting attempt, rfl, rfl, same ▸ matched, ?_⟩⟩
        simp only [Suspension.pending] at few ⊢
        simp only [Event.completes, beq_self_eq_true, if_true]
        split_ifs at few <;> omega
    | ended attempt failed own before present' same =>
        cases suspended.symm.trans before
        subst own
        cases failed with
        | true => exact absurd rfl (timely call)
        | false =>
            refine ⟨_, present', .inr ⟨.resuming attempt .expired, rfl, rfl, same ▸ matched, ?_⟩⟩
            simp only [Suspension.pending] at few ⊢
            simp only [Event.completes, beq_self_eq_true, if_true]
            omega
    | retried attempt ec own before unmatched => exact absurd matched unmatched
    | returned attempt ec outcome own before settled present' =>
        cases suspended.symm.trans before
        refine ⟨_, present', .inl ?_⟩
        rcases settled with ⟨failed, _⟩ | ⟨_, _, response, _, rfl⟩ | ⟨_, unmatched, _⟩
        · subst failed
          cases punctual
        · exact ⟨response, rfl⟩
        · exact absurd matched unmatched

/-- Every timely run keeps the promise. -/
theorem Promised.run {completions : Nat} {later : List (Event count)} {last : Bridge count}
    (promised : Promised bridge call completions) (sound : bridge.table.Sound)
    (timely : ∀ event ∈ later, event.Timely) (ran : run Bridge.step bridge later = some last) :
    Promised last call (completions + later.countP fun event => event.completes call) := by
  induction later generalizing bridge completions with
  | nil =>
      cases ran
      exact promised
  | cons event rest ih =>
      rw [run_cons, Option.bind_eq_some_iff] at ran
      obtain ⟨next, taken, ran⟩ := ran
      have moved := promised.step sound (timely event List.mem_cons_self) taken
      have ended := ih moved (sound.step (step_table taken))
        (fun other member => timely other (List.mem_cons_of_mem event member)) ran
      rw [List.countP_cons, Nat.add_comm (rest.countP _), ← Nat.add_assoc]
      exact ended

/-- The operation of a suspended coroutine can be completed in every running bridge. -/
theorem completion_enabled {record : Call count} {suspension : Suspension}
    (running : bridge.fault = none) (present : bridge.calls call = some record)
    (suspended : record.status = .suspended suspension) :
    ∃ event, event.completes call = true ∧ event.Timely ∧ (bridge.step event).isSome := by
  cases suspension with
  | writing attempt i2cRetryCnt =>
      refine ⟨.writeDone call false, beq_self_eq_true call, fun _ => nofun, ?_⟩
      simp [Bridge.step, running, present, suspended]
  | waiting attempt =>
      refine ⟨.timerDone call false, beq_self_eq_true call, ?_, ?_⟩
      · intro other same
        cases same
      · simp [Bridge.step, running, present, suspended]
  | resuming attempt ec =>
      refine ⟨.resume call, beq_self_eq_true call, fun _ => nofun, ?_⟩
      simp [Bridge.step, running, present, suspended]

end Promise

section History

variable {channels : Fin count → IpmbChannel} {events : List (Event count)}
  {bridge after : Bridge count} {event : Event count}

/-- The history of a timely run tells the try of each suspended call, the tries of each call that
timed out, and where each response came from. -/
structure Chronicle (channels : Fin count → IpmbChannel) (events : List (Event count))
    (bridge : Bridge count) : Prop where
  sound : bridge.table.Sound
  unborn : ∀ call, bridge.calls call = none → events.count (.resume call) = 0
  counted : ∀ call record suspension, bridge.calls call = some record →
    record.status = .suspended suspension → suspension.failed = false ∧
      suspension.attempt < ipmbNumberOfTries ∧ events.count (.resume call) = suspension.attempt
  tried : ∀ call record, bridge.calls call = some record →
    record.status = .returned (.status .timeout) →
    events.count (.resume call) = ipmbNumberOfTries
  told : ∀ call record response, bridge.calls call = some record →
    bridge.table.Owes call record response → ∃ before frame rest,
      events = before ++ frame :: rest ∧ Processes channels before frame call response

theorem step_resume {call : Nat} (taken : bridge.step (.resume call) = some after) :
    ∃ record, bridge.calls call = some record := by
  cases (step_taken taken).2 with
  | resume present resuming => exact ⟨_, present⟩

theorem count_other {call : Nat} (other : event ≠ .resume call) :
    (events ++ [event]).count (.resume call) = events.count (.resume call) := by
  rw [List.count_append, List.count_singleton, beq_false_of_ne other]
  rfl

theorem count_foreign {call : Nat} (foreign : event.completes call = false) :
    (events ++ [event]).count (.resume call) = events.count (.resume call) := by
  apply count_other
  rintro rfl
  rw [Event.completes, beq_self_eq_true] at foreign
  cases foreign

theorem count_resume (call : Nat) : (events ++ [Event.resume call]).count (Event.resume call) =
    events.count (Event.resume call) + 1 := by
  rw [List.count_append, List.count_singleton_self]

/-- A new call is counted from its first try. -/
theorem Chronicle.born (chronicle : Chronicle channels events bridge)
    (taken : bridge.step event = some after) {call : Nat} {record : Call count}
    (fresh : bridge.calls call = none) (present : after.calls call = some record) :
    (events ++ [event]).count (.resume call) = 0 ∧
      record.status ≠ .returned (.status .timeout) ∧
      ∀ suspension, record.status = .suspended suspension → suspension = .writing 0 0 := by
  have quiet : (events ++ [event]).count (.resume call) = 0 := by
    rw [List.count_append, chronicle.unborn call fresh, List.count_singleton, if_neg]
    intro same
    rw [beq_iff_eq] at same
    subst same
    obtain ⟨old, before⟩ := step_resume taken
    cases fresh.symm.trans before
  refine ⟨quiet, ?_⟩
  cases (step_table taken).fate present with
  | untouched old => cases fresh.symm.trans old
  | rejected => exact ⟨nofun, fun _ => nofun⟩
  | stranded => exact ⟨nofun, fun _ => nofun⟩
  | admitted =>
      refine ⟨nofun, fun suspension same => ?_⟩
      cases same
      rfl
  | moved old => cases fresh.symm.trans old
  | answered arrived heard held agrees old => cases fresh.symm.trans old
  | finished old => cases fresh.symm.trans old

theorem Chronicle.counted_step (chronicle : Chronicle channels events bridge)
    (timely : event.Timely) (taken : bridge.step event = some after) {call : Nat}
    {record : Call count} {suspension : Suspension} (present : after.calls call = some record)
    (suspended : record.status = .suspended suspension) :
    suspension.failed = false ∧ suspension.attempt < ipmbNumberOfTries ∧
      (events ++ [event]).count (.resume call) = suspension.attempt := by
  cases before : bridge.calls call with
  | none =>
      obtain ⟨quiet, _, first⟩ := chronicle.born taken before present
      rw [first suspension suspended]
      exact ⟨rfl, by decide, quiet⟩
  | some old =>
      cases step_turn chronicle.sound before taken with
      | stays foreign unheard present' same =>
          cases present.symm.trans present'
          rw [count_foreign foreign]
          exact chronicle.counted call _ suspension before suspended
      | marked response status hears woken present' kept =>
          obtain ⟨index, bytes, rfl, _⟩ := hears
          cases present.symm.trans present'
          rw [count_foreign rfl]
          rcases woken with rfl | ⟨attempt, waiting, rfl⟩
          · exact chronicle.counted call _ suspension before suspended
          · cases suspended
            exact ⟨rfl, (chronicle.counted call _ _ before waiting).2⟩
      | rewrote attempt i2cRetryCnt own writing left present' same =>
          cases present.symm.trans present'
          cases suspended
          have other : event ≠ .resume call := by rw [own]; exact nofun
          rw [count_other other]
          exact ⟨rfl, (chronicle.counted call _ _ before writing).2⟩
      | wrote attempt i2cRetryCnt ec own writing present' same =>
          cases present.symm.trans present'
          cases suspended
          have other : event ≠ .resume call := by rw [own]; exact nofun
          rw [count_other other]
          exact ⟨rfl, (chronicle.counted call _ _ before writing).2⟩
      | ended attempt failed own waiting present' same =>
          cases present.symm.trans present'
          cases suspended
          have other : event ≠ .resume call := by rw [own]; exact nofun
          rw [count_other other]
          cases failed with
          | true => exact absurd own (timely call)
          | false => exact ⟨rfl, (chronicle.counted call _ _ before waiting).2⟩
      | retried attempt ec own resuming unmatched left present' same =>
          subst own
          cases present.symm.trans present'
          cases suspended
          obtain ⟨_, _, tries⟩ := chronicle.counted call _ _ before resuming
          rw [count_resume, tries]
          exact ⟨rfl, left, rfl⟩
      | returned attempt ec outcome own resuming settled present' =>
          cases present.symm.trans present'
          cases suspended

/-- A call times out only after its last try. -/
theorem Chronicle.tried_step (chronicle : Chronicle channels events bridge)
    (taken : bridge.step event = some after) {call : Nat} {record : Call count}
    (present : after.calls call = some record)
    (returned : record.status = .returned (.status .timeout)) :
    (events ++ [event]).count (.resume call) = ipmbNumberOfTries := by
  cases before : bridge.calls call with
  | none =>
      obtain ⟨_, early, _⟩ := chronicle.born taken before present
      exact absurd returned early
  | some old =>
      have turn := step_turn chronicle.sound before taken
      cases status : old.status with
      | suspended suspension =>
          obtain ⟨own, attempt, ec, resuming, settled⟩ := turn.settles status present returned
          subst own
          obtain ⟨_, bounded, tries⟩ := chronicle.counted call old _ before resuming
          rcases settled with ⟨_, other⟩ | ⟨_, _, response, _, other⟩ | ⟨_, _, last, _⟩
          · cases other
          · cases other
          · rw [count_resume, tries]
            simp only [Suspension.attempt] at bounded ⊢
            omega
      | returned outcome =>
          cases (step_returned chronicle.sound before status taken).symm.trans present
          have foreign : event ≠ .resume call := by
            rintro rfl
            cases turn with
            | stays foreign => rw [Event.completes, beq_self_eq_true] at foreign; cases foreign
            | marked response woke hears => obtain ⟨_, _, other, _⟩ := hears; cases other
            | rewrote attempt i2cRetryCnt own => cases own
            | wrote attempt i2cRetryCnt ec own => cases own
            | ended attempt failed own => cases own
            | retried attempt ec own resuming => cases status.symm.trans resuming
            | returned attempt ec outcome own resuming => cases status.symm.trans resuming
          rw [count_other foreign]
          exact chronicle.tried call _ before returned

/-- A response that a call is owed was processed while its coroutine was suspended. -/
theorem Chronicle.told_step (chronicle : Chronicle channels events bridge)
    (ran : run Bridge.step (.initial channels) events = some bridge)
    (taken : bridge.step event = some after) {call : Nat} {record : Call count}
    {response : IpmbResponse} (present : after.calls call = some record)
    (owes : after.table.Owes call record response) :
    ∃ before frame rest, events ++ [event] = before ++ frame :: rest ∧
      Processes channels before frame call response := by
  obtain ⟨old, recorded, _, owes | ⟨suspended, hears⟩⟩ := (step_table taken).owes present owes
  · obtain ⟨before, frame, rest, split, processed⟩ := chronicle.told call old response recorded owes
    refine ⟨before, frame, rest ++ [event], ?_, processed⟩
    rw [split, List.append_assoc, List.cons_append]
  · exact ⟨events, event, [], rfl, bridge, old, ran, recorded, suspended, hears⟩

/-- Every timely run has its chronicle. -/
theorem run_chronicle (timely : ∀ event ∈ events, event.Timely)
    (ran : run Bridge.step (.initial channels) events = some bridge) :
    Chronicle channels events bridge := by
  refine run_invariant (fun events bridge => (∀ event ∈ events, event.Timely) →
    Chronicle channels events bridge) ?_ ?_ ran timely
  · exact fun _ => ⟨initial_sound channels, fun _ _ => rfl, fun _ _ _ => nofun, fun _ _ => nofun,
      fun _ _ _ => nofun⟩
  · intro events before event next ran ih taken timely
    have chronicle := ih fun other member => timely other (List.mem_append_left _ member)
    have last : event.Timely := timely event (List.mem_append_right _ (List.mem_singleton_self _))
    refine ⟨chronicle.sound.step (step_table taken), ?_, ?_, ?_, ?_⟩
    · intro call absent
      have old := ((step_table taken).silent absent).1
      rw [count_other, chronicle.unborn call old]
      rintro rfl
      obtain ⟨record, present⟩ := step_resume taken
      cases present.symm.trans old
    · intro call record suspension present suspended
      exact chronicle.counted_step last taken present suspended
    · intro call record present returned
      exact chronicle.tried_step taken present returned
    · intro call record response present owes
      exact chronicle.told_step ran taken present owes

/-- A call whose request was matched is on its way to return a response. -/
theorem promised_of_processed {before rest : List (Event count)} {frame : Event count} {call : Nat}
    {response : IpmbResponse} (timely : ∀ event ∈ before ++ frame :: rest, event.Timely)
    (ran : run Bridge.step (.initial channels) (before ++ frame :: rest) = some bridge)
    (processed : Processes channels before frame call response) :
    Promised bridge call (rest.countP fun event => event.completes call) := by
  obtain ⟨middle, record, first, present, waits, hears⟩ := processed
  rw [run_append, first, Option.bind_some, run_cons, Option.bind_eq_some_iff] at ran
  obtain ⟨marked, taken, ran⟩ := ran
  have chronicle := run_chronicle
    (fun event member => timely event (List.mem_append_left _ member)) first
  obtain ⟨suspension, suspended⟩ : ∃ suspension, record.status = .suspended suspension := by
    cases status : record.status with
    | suspended suspension => exact ⟨suspension, rfl⟩
    | returned outcome =>
        rw [Call.suspended, status] at waits
        cases waits
  have punctual := (chronicle.counted call record suspension present suspended).1
  have promised := promised_of_heard chronicle.sound present suspended punctual hears taken
  have kept := promised.run (chronicle.sound.step (step_table taken))
    (fun event member => timely event
      (List.mem_append_right _ (List.mem_cons_of_mem frame member))) ran
  rwa [Nat.zero_add] at kept

end History

/-- No coroutine with a matched request is left in a bridge that a fault has stopped. -/
def Bridge.Settled (bridge : Bridge count) : Prop :=
  bridge.fault ≠ none → ∀ call record, bridge.calls call = some record →
    record.suspended = true → (bridge.heap call).state ≠ .matched

/-- An event with undefined behaviour comes only while no coroutine with a matched request is left. -/
def Event.Spares (event : Event count) (bridge : Bridge count) : Prop :=
  event.Faults bridge → ∀ call record, bridge.calls call = some record →
    record.suspended = true → (bridge.heap call).state ≠ .matched

/-- A call whose request a frame matched while its coroutine was suspended returns a response that
matched it after at most four completions of its operations, and one of them stays possible until
then. A call times out only after its six tries and only if no frame matched it. -/
structure Delivered (channels : Fin count → IpmbChannel) (events : List (Event count))
    (bridge : Bridge count) : Prop where
  returns : ∀ call response before frame rest, events = before ++ frame :: rest →
    Processes channels before frame call response →
    ∃ record, bridge.calls call = some record ∧
      ((∃ matched first frame' later, record.status = .returned (.matched matched) ∧
          events = first ++ frame' :: later ∧ Processes channels first frame' call matched) ∨
        record.suspended = true ∧ rest.countP (fun event => event.completes call) < 4 ∧
          ∃ event, event.completes call = true ∧ event.Timely ∧ (bridge.step event).isSome)
  timeouts : ∀ call record, bridge.calls call = some record →
    record.status = .returned (.status .timeout) →
    events.count (.resume call) = ipmbNumberOfTries ∧
      ∀ response before frame rest, events = before ++ frame :: rest →
        ¬Processes channels before frame call response

section Delivery

variable {channels : Fin count → IpmbChannel} {events : List (Event count)}
  {bridge after : Bridge count} {event : Event count}

/-- A step that comes to a settled bridge is a step that spares the matched requests. -/
theorem settled_iff_spares (sound : bridge.table.Sound) (taken : bridge.step event = some after) :
    after.Settled ↔ event.Spares bridge := by
  have faulted : after.fault ≠ none ↔ event.Faults bridge :=
    (not_congr (step_fault_iff sound taken)).trans not_not
  by_cases faults : event.Faults bridge
  case pos =>
    have same := faults_table taken faults
    have calls : after.calls = bridge.calls := congrArg Table.calls same
    have requests : after.heap = bridge.heap := congrArg Table.requests same
    rw [Bridge.Settled, Event.Spares, faulted, calls, requests]
  case neg =>
    exact iff_of_true (fun stopped => absurd (faulted.mp stopped) faults) fun stops =>
      absurd stops faults

/-- A suspended call is only promised its response, and in a running bridge it can go on to it. -/
theorem Delivered.of_settled (timely : ∀ event ∈ events, event.Timely)
    (ran : run Bridge.step (.initial channels) events = some bridge) (settled : bridge.Settled) :
    Delivered channels events bridge := by
  have chronicle := run_chronicle timely ran
  constructor
  · rintro call response before frame rest rfl processed
    obtain ⟨record, present, ⟨matched, returned⟩ | ⟨suspension, suspended, _, marked, few⟩⟩ :=
      promised_of_processed timely ran processed
    · obtain ⟨first, frame', later, split, heard⟩ :=
        chronicle.told call record matched present (.inl returned)
      exact ⟨record, present, .inl ⟨matched, first, frame', later, returned, split, heard⟩⟩
    · have waits := Call.suspended_of_status suspended
      have running : bridge.fault = none := by
        by_contra stopped
        exact settled stopped call record present waits marked
      have positive := suspension.pending_pos
      exact ⟨record, present, .inr ⟨waits, by omega,
        completion_enabled running present suspended⟩⟩
  · intro call record present returned
    refine ⟨chronicle.tried call record present returned, ?_⟩
    rintro response before frame rest rfl processed
    obtain ⟨record', present', ⟨matched, delivered⟩ | ⟨suspension, suspended, _⟩⟩ :=
      promised_of_processed timely ran processed
    · cases present.symm.trans present'
      cases returned.symm.trans delivered
    · cases present.symm.trans present'
      cases returned.symm.trans suspended

/-- In a stopped bridge a matched request whose coroutine is left never returns. -/
theorem Delivered.settled (delivered : Delivered channels events bridge)
    (timely : ∀ event ∈ events, event.Timely)
    (ran : run Bridge.step (.initial channels) events = some bridge) : bridge.Settled := by
  intro stopped call record present suspended marked
  have chronicle := run_chronicle timely ran
  obtain ⟨response, kept⟩ := Option.isSome_iff_exists.mp (chronicle.sound.answered call marked)
  obtain ⟨before, frame, rest, split, processed⟩ :=
    chronicle.told call record response present (.inr ⟨suspended, kept⟩)
  obtain ⟨record', present', ⟨matched, _, _, _, returned, _⟩ | ⟨_, _, event, _, _, enabled⟩⟩ :=
    delivered.returns call response before frame rest split processed
  · cases present.symm.trans present'
    rw [Call.suspended, returned] at suspended
    cases suspended
  · obtain ⟨next, taken⟩ := Option.isSome_iff_exists.mp enabled
    exact stopped (step_taken taken).1

/-- A run of steps that spare the matched requests leads to a settled bridge. -/
theorem settled_of_spared
    (spared : Along Bridge.step (fun bridge event _ => event.Spares bridge) (.initial channels)
      events) (ran : run Bridge.step (.initial channels) events = some bridge) : bridge.Settled := by
  have kept := (spared.reach ran).invariant (fun bridge => bridge.table.Sound ∧ bridge.Settled)
    ⟨initial_sound channels, fun stopped => absurd rfl stopped⟩
    fun before event after ih met taken =>
      ⟨ih.1.step (step_table taken), (settled_iff_spares ih.1 taken).mpr met⟩
  exact kept.2

end Delivery

/-- In every timely run whose steps spare the matched requests each matched response is delivered, and
the next step keeps it so exactly when it spares them too. -/
theorem responses_delivered (channels : Fin count → IpmbChannel) {events : List (Event count)}
    {bridge : Bridge count} (timely : ∀ event ∈ events, event.Timely)
    (ran : run Bridge.step (.initial channels) events = some bridge)
    (spared : Along Bridge.step (fun bridge event _ => event.Spares bridge) (.initial channels)
      events) :
    Delivered channels events bridge ∧
      ∀ event after, event.Timely → bridge.step event = some after →
        (Delivered channels (events ++ [event]) after ↔ event.Spares bridge) := by
  refine ⟨.of_settled timely ran (settled_of_spared spared ran), ?_⟩
  intro event after punctual taken
  have timely' : ∀ other ∈ events ++ [event], other.Timely := by
    intro other member
    rcases List.mem_append.mp member with earlier | last
    · exact timely other earlier
    · rwa [List.mem_singleton.mp last]
  have ran' : run Bridge.step (.initial channels) (events ++ [event]) = some after := by
    rw [run_append, ran, Option.bind_some, run_cons, taken, Option.bind_some, run_nil]
  rw [← settled_iff_spares (run_chronicle timely ran).sound taken]
  exact ⟨fun delivered => delivered.settled timely' ran', .of_settled timely' ran'⟩

/-- The response overtakes the completion of the write that asked for it. -/
abbrev overtakenWrite : List (Event 1) :=
  [.sendRequest (deviceIdRequest 0x82), .i2cEvent (Fin.last 0) (some (deviceIdResponse 0x82 0x79)),
    .writeDone 0 false, .timerDone 0 false, .resume 0]

/-- The call is inside its first write. -/
def writingBridge : Bridge 1 :=
  (run Bridge.step loneBridge [.sendRequest (deviceIdRequest 0x82)]).get (by decide +kernel)

def overtakenBridge : Bridge 1 :=
  (run Bridge.step loneBridge overtakenWrite).get (by decide +kernel)

theorem writingBridge_run :
    run Bridge.step loneBridge [.sendRequest (deviceIdRequest 0x82)] = some writingBridge :=
  (Option.some_get _).symm

theorem overtakenBridge_run :
    run Bridge.step loneBridge overtakenWrite = some overtakenBridge :=
  (Option.some_get _).symm

/-- Only a call and a frame can have undefined behaviour. -/
theorem Event.spares_of_not_faults {event : Event count} {bridge : Bridge count}
    (defined : ¬event.Faults bridge) : event.Spares bridge :=
  fun faults => absurd faults defined

instance (bytes : List UInt8) : Decidable (ShortestResponse bytes) :=
  inferInstanceAs (Decidable (_ ∧ _ ∧ _))

instance : (event : Event count) → (bridge : Bridge count) → Decidable (event.Faults bridge)
  | .sendRequest arguments, bridge =>
      inferInstanceAs (Decidable (bridge.getChannel arguments.reqChannel = none))
  | .i2cEvent _ bytes, _ => inferInstanceAs (Decidable (∃ received ∈ bytes, ShortestResponse received))
  | .writeDone _ _, _ | .timerDone _ _, _ | .resume _, _ | .executeReply _ _, _
  | .outgoingDone _ _, _ | .updateBmcSlaveAddr _ _ _ _, _ | .sendBroadcast _ _ _ _ _, _ =>
      .isFalse id

/-- A response that arrives inside a write is returned after the wait. -/
theorem responses_delivered_overtaken :
    ∃ record matched, overtakenBridge.calls 0 = some record ∧
      record.status = .returned (.matched matched) := by
  have timely : ∀ event ∈ overtakenWrite, event.Timely := by
    intro event member call same
    subst same
    simp at member
  have spared : Along Bridge.step (fun bridge event _ => event.Spares bridge) loneBridge
      overtakenWrite := by
    have defined : Along Bridge.step (fun bridge event _ => ¬event.Faults bridge) loneBridge
        overtakenWrite := by decide +kernel
    exact defined.weaken fun _ _ _ => Event.spares_of_not_faults
  have seen : (writingBridge.calls 0).map Call.suspended = some true := by decide +kernel
  obtain ⟨record, present, suspended⟩ := Option.map_eq_some_iff.mp seen
  have processed : Processes _ [.sendRequest (deviceIdRequest 0x82)]
      (.i2cEvent 0 (some (deviceIdResponse 0x82 0x79))) 0 ⟨0, 0x07, 0, 0x82, 1, 0, 0x01, 0, []⟩ :=
    ⟨_, record, writingBridge_run, present, suspended, 0, _, rfl, by decide +kernel,
      by decide +kernel, by decide +kernel⟩
  obtain ⟨last, recorded, ⟨matched, _, _, _, returned, _⟩ | ⟨waits, _⟩⟩ :=
    (responses_delivered _ timely overtakenBridge_run spared).1.returns 0 _ _ _ _ rfl processed
  · exact ⟨last, matched, recorded, returned⟩
  · have done : (overtakenBridge.calls 0).map Call.suspended = some false := by decide +kernel
    rw [recorded, Option.map_some, waits] at done
    cases done

/-- The matched call is stopped by a response without a completion code that comes next. -/
abbrev stoppedCall : List (Event 1) :=
  [.sendRequest (deviceIdRequest 0x82), .i2cEvent (Fin.last 0) (some (deviceIdResponse 0x82 0x79)),
    .i2cEvent (Fin.last 0) (some codelessResponse)]

def stoppedBridge : Bridge 1 :=
  (run Bridge.step loneBridge stoppedCall).get (by decide +kernel)

/-- A response is matched, and its call never returns. -/
theorem responses_undelivered : ¬∀ (channels : Fin 1 → IpmbChannel) (events : List (Event 1))
    (bridge : Bridge 1), (∀ event ∈ events, event.Timely) →
      run Bridge.step (.initial channels) events = some bridge →
      Delivered channels events bridge := by
  intro claim
  have timely : ∀ event ∈ stoppedCall, event.Timely := by
    intro event member call same
    subst same
    simp at member
  have ran : run Bridge.step loneBridge stoppedCall = some stoppedBridge :=
    (Option.some_get _).symm
  have settled := (claim _ stoppedCall stoppedBridge timely ran).settled timely ran
  have left : (stoppedBridge.calls 0).map Call.suspended = some true := by decide +kernel
  obtain ⟨record, present, suspended⟩ := Option.map_eq_some_iff.mp left
  exact settled (by decide +kernel) 0 record present suspended (by decide +kernel)

end Chassis.Ipmb
