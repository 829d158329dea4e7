import Chassis.Proof.Bridge.Turn

namespace Chassis.Ipmb
open Automaton

variable {count : Nat}

/-- Every request in a slot has a number of six bits and names the responder's only unit. -/
def Table.Numbered (table : Table count) : Prop :=
  ∀ index slot call, table.slots index slot = some call →
    (table.requests call).seq.toNat < 64 ∧ (table.requests call).rsLun = ipmbRsLun

section Steps

variable {table next : Table count} {event : Event count}

theorem Table.Numbered.of_bare (numbered : table.Numbered)
    (slots : ∀ index slot call, next.slots index slot = some call →
      table.slots index slot = some call)
    (bare : ∀ call, (next.requests call).bare = (table.requests call).bare) : next.Numbered := by
  intro index slot call held
  have kept := numbered index slot call (slots index slot call held)
  have seq : (next.requests call).seq = (table.requests call).seq :=
    show (IpmbRequest.bare _).seq = (IpmbRequest.bare _).seq by rw [bare]
  have rsLun : (next.requests call).rsLun = (table.requests call).rsLun :=
    show (IpmbRequest.bare _).rsLun = (IpmbRequest.bare _).rsLun by rw [bare]
  rw [seq, rsLun]
  exact kept

theorem Table.Numbered.enter (numbered : table.Numbered) (sound : table.Sound)
    (arguments : SendRequest) (index : Fin count) {seq : UInt8} (rqSA : UInt8)
    (bounded : seq.toNat < 64) : (table.enter arguments index seq rqSA).Numbered := by
  intro place slot call held
  rw [enter_slots] at held
  split_ifs at held with here
  · cases held
    rw [enter_new]
    exact ⟨bounded, rfl⟩
  · obtain ⟨record, recorded, _⟩ := sound.owned place slot call held
    rw [enter_old table arguments index seq rqSA (sound.lt_nextCall recorded).ne]
    exact numbered place slot call held

/-- Every step keeps the numbers of the requests. -/
theorem Table.Numbered.step (numbered : table.Numbered) (sound : table.Sound)
    (step : table.Step event next) : next.Numbered := by
  have released {call : Nat} {record : Call count} : (table.release call record).Numbered := by
    apply numbered.of_bare
    · intro index slot other held
      rw [release_slots] at held
      split_ifs at held
      exact held
    · exact release_bare table call record
  cases step with
  | idle => exact numbered
  | reject => exact numbered
  | strand arguments index seq rqSA served free bounded long =>
      exact numbered.enter sound arguments index rqSA bounded
  | accept arguments index seq rqSA buffer served free bounded encoded =>
      exact numbered.enter sound arguments index rqSA bounded
  | write => exact numbered
  | wait => exact numbered
  | finish => exact released
  | abort => exact released
  | hear index bytes response call =>
      exact numbered.of_bare (fun _ _ _ held => held) (keep_bare table call response)
  | wake index bytes response call =>
      exact numbered.of_bare (fun _ _ _ held => held) (keep_bare table call response)

/-- A slot that loses its call belonged to a suspended call that has returned. -/
theorem Table.Step.frees (step : table.Step event next) (sound : table.Sound) {index : Fin count}
    {slot : Fin ipmbMaxOutstandingRequestsCount} {call : Nat}
    (held : table.slots index slot = some call) :
    next.slots index slot = some call ∨ next.slots index slot = none ∧
      ∃ record suspension outcome, table.calls call = some record ∧
        record.status = .suspended suspension ∧
        next.calls call = some { record with status := .returned outcome } := by
  have entered {arguments : SendRequest} {place : Fin count} {seq rqSA : UInt8}
      (free : table.slots place (slotOf seq) = none) :
      (table.enter arguments place seq rqSA).slots index slot = some call := by
    rw [enter_slots, if_neg]
    · exact held
    · rintro ⟨rfl, rfl⟩
      cases free.symm.trans held
  cases step with
  | idle => exact .inl held
  | reject => exact .inl held
  | strand arguments place seq rqSA served free => exact .inl (entered free)
  | accept arguments place seq rqSA buffer served free => exact .inl (entered free)
  | write => exact .inl held
  | wait => exact .inl held
  | finish _ moved record suspension outcome present suspended settled =>
      rw [setCall_slots, release_slots]
      split_ifs with here
      · have owner := sound.held moved record present (Call.holds_of_status suspended)
        rw [← here.1, ← here.2, held] at owner
        cases owner
        exact .inr ⟨rfl, record, suspension, outcome, present, suspended,
          Function.update_self _ _ _⟩
      · exact .inl held
  | abort _ moved record matched absent =>
      have answered := sound.answered moved matched
      rw [absent] at answered
      cases answered
  | hear => exact .inl held
  | wake => exact .inl held

end Steps

theorem initial_numbered (channels : Fin count → IpmbChannel) :
    (Bridge.initial channels).table.Numbered := by
  intro index slot call held
  cases held

theorem reachable_numbered {channels : Fin count → IpmbChannel} {bridge : Bridge count}
    (reachable : Reachable Bridge.step (.initial channels) bridge) : bridge.table.Numbered :=
  (reachable.invariant (fun bridge => bridge.table.Sound ∧ bridge.table.Numbered)
    ⟨initial_sound channels, initial_numbered channels⟩
    fun _ _ _ kept _ taken => ⟨kept.1.step (step_table taken),
      kept.2.step kept.1 (step_table taken)⟩).2

section Reached

variable {channels : Fin count → IpmbChannel} {bridge : Bridge count}
  (reachable : Reachable Bridge.step (.initial channels) bridge)

include reachable

theorem slot_holds_own_number {index : Fin count} {slot : Fin ipmbMaxOutstandingRequestsCount}
    {call : Nat} (held : (bridge.channels index).outstandingRequests slot = some call) :
    (bridge.heap call).seq.toNat = slot.val := by
  obtain ⟨_, _, _, place, _⟩ := (reachable_sound reachable).owned index slot call held
  have bounded : (bridge.heap call).seq.toNat < 64 :=
    (reachable_numbered reachable index slot call held).1
  have value : (bridge.heap call).seq.toNat % 64 = slot.val := congrArg Fin.val place
  rwa [Nat.mod_eq_of_lt bounded] at value

/-- Only the coroutine that owns a slot gives it back. -/
theorem slot_freed_by_owner {event : Event count} {after : Bridge count} {index : Fin count}
    {slot : Fin ipmbMaxOutstandingRequestsCount} {call : Nat}
    (taken : bridge.step event = some after)
    (held : (bridge.channels index).outstandingRequests slot = some call) :
    (after.channels index).outstandingRequests slot = some call ∨
      event = .resume call ∧ (after.channels index).outstandingRequests slot = none := by
  have sound := reachable_sound reachable
  rcases (step_table taken).frees sound held with
    kept | ⟨freed, record, suspension, outcome, present, suspended, done⟩
  · exact .inl kept
  · have turn := step_turn sound present taken
    exact .inr ⟨(turn.settles suspended done rfl).1, freed⟩

end Reached

/-- The search succeeds exactly when the channel has a free slot, and it returns one. -/
theorem seqNumGet_spec (bridge : Bridge count) (index : Fin count) :
    ((bridge.seqNumGet index).2.isSome = true ↔
        ∃ slot, (bridge.channels index).outstandingRequests slot = none) ∧
      ∀ seq, (bridge.seqNumGet index).2 = some seq → seq.toNat < 64 ∧
        (bridge.channels index).outstandingRequests (slotOf seq) = none := by
  have found (seq : UInt8) (search : (bridge.seqNumGet index).2 = some seq) :
      seq.toNat < 64 ∧ (bridge.channels index).outstandingRequests (slotOf seq) = none :=
    (seqNumSearch_some search).symm
  refine ⟨⟨fun success => ?_, fun free => ?_⟩, found⟩
  · obtain ⟨seq, search⟩ := Option.isSome_iff_exists.mp success
    exact ⟨slotOf seq, (found seq search).2⟩
  · obtain ⟨slot, free⟩ := free
    by_contra failed
    exact seqNumSearch_full (Option.not_isSome_iff_eq_none.mp failed) slot free

/-- In every reachable bridge a slot holds the request of its own number, the calls of a channel that
hold slots have distinct numbers, only the owner of a slot gives it back, and the search succeeds
exactly when the channel has a free slot. -/
theorem sequence_numbers_disciplined (channels : Fin count → IpmbChannel) {bridge : Bridge count}
    (reachable : Reachable Bridge.step (.initial channels) bridge) :
    (∀ index slot call, (bridge.channels index).outstandingRequests slot = some call →
        (bridge.heap call).seq.toNat = slot.val) ∧
      (∀ first second record other, bridge.calls first = some record →
        bridge.calls second = some other → record.holds = true → other.holds = true →
        record.channel = other.channel → (bridge.heap first).seq = (bridge.heap second).seq →
        first = second) ∧
      (∀ event after index slot call, bridge.step event = some after →
        (bridge.channels index).outstandingRequests slot = some call →
        (after.channels index).outstandingRequests slot = some call ∨
          event = .resume call ∧ (after.channels index).outstandingRequests slot = none) ∧
      ∀ index, ((bridge.seqNumGet index).2.isSome = true ↔
          ∃ slot, (bridge.channels index).outstandingRequests slot = none) ∧
        ∀ seq, (bridge.seqNumGet index).2 = some seq → seq.toNat < 64 ∧
          (bridge.channels index).outstandingRequests (slotOf seq) = none := by
  refine ⟨fun _ _ _ held => slot_holds_own_number reachable held, ?_,
    fun _ _ _ _ _ taken held => slot_freed_by_owner reachable taken held, seqNumGet_spec bridge⟩
  intro first second record other present present' holds holds' channel seq
  have sound := reachable_sound reachable
  have held : bridge.table.slots record.channel (slotOf (bridge.heap first).seq) = some first :=
    sound.held first record present holds
  have held' : bridge.table.slots other.channel (slotOf (bridge.heap second).seq) = some second :=
    sound.held second other present' holds'
  rw [channel, seq] at held
  exact Option.some.inj (held.symm.trans held')

/-- In the bridge with one waiting call the slot of number one holds its request. -/
theorem sequence_numbers_disciplined_waiting :
    (waitingBridge.channels 0).outstandingRequests 1 = some 0 ∧
      (waitingBridge.heap 0).seq.toNat = 1 := by
  have owner : (waitingBridge.channels 0).outstandingRequests 1 = some 0 := by decide +kernel
  have reachable : Reachable Bridge.step loneBridge waitingBridge :=
    reach_of_run waitingBridge_run fun _ _ _ => trivial
  exact ⟨owner, (sequence_numbers_disciplined _ reachable).1 0 1 0 owner⟩

end Chassis.Ipmb
