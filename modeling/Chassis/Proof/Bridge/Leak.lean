import Chassis.Proof.Bridge.Slots

namespace Chassis.Ipmb
open Automaton

variable {count : Nat}

/-- The occupied slots of a channel are its non-null entries. -/
def Bridge.occupied (bridge : Bridge count) (index : Fin count) : Nat :=
  (Finset.univ.filter fun slot =>
    ((bridge.channels index).outstandingRequests slot).isSome = true).card

def Bridge.onChannel (bridge : Bridge count) (kind : Call count → Bool) (index : Fin count)
    (call : Nat) : Bool :=
  (bridge.calls call).any fun record => record.channel == index && kind record

/-- Calls are numbered from zero, so every call of a kind is counted. -/
def Bridge.callCount (bridge : Bridge count) (kind : Call count → Bool) (index : Fin count) :
    Nat :=
  ((Finset.range bridge.nextCall).filter fun call => bridge.onChannel kind index call = true).card

section Count

variable {bridge : Bridge count} {kind : Call count → Bool} {index : Fin count} {call : Nat}

theorem onChannel_eq_true : bridge.onChannel kind index call = true ↔
    ∃ record, bridge.calls call = some record ∧ record.channel = index ∧ kind record = true := by
  simp only [Bridge.onChannel, Option.any_eq_true, Bool.and_eq_true, beq_iff_eq]

/-- The calls that hold a slot correspond to the occupied slots. -/
theorem occupied_eq_holds (sound : bridge.table.Sound) (index : Fin count) :
    bridge.occupied index = bridge.callCount Call.holds index := by
  refine (Finset.card_bij (fun call _ => slotOf (bridge.heap call).seq) ?_ ?_ ?_).symm
  · intro call counted
    obtain ⟨record, present, rfl, holds⟩ := onChannel_eq_true.mp (Finset.mem_filter.mp counted).2
    have held : (bridge.channels record.channel).outstandingRequests
        (slotOf (bridge.heap call).seq) = some call := sound.held call record present holds
    simp only [Finset.mem_filter, Finset.mem_univ, true_and, held, Option.isSome_some]
  · intro first counted second counted' same
    obtain ⟨record, present, rfl, holds⟩ := onChannel_eq_true.mp (Finset.mem_filter.mp counted).2
    obtain ⟨other, present', channel, holds'⟩ :=
      onChannel_eq_true.mp (Finset.mem_filter.mp counted').2
    have held := sound.held first record present holds
    have held' := sound.held second other present' holds'
    rw [channel, show slotOf (bridge.table.requests second).seq = _ from same.symm] at held'
    exact Option.some.inj (held.symm.trans held')
  · intro slot occupied
    obtain ⟨call, owner⟩ := Option.isSome_iff_exists.mp (Finset.mem_filter.mp occupied).2
    obtain ⟨record, present, channel, place, holds⟩ := sound.owned index slot call owner
    exact ⟨call, Finset.mem_filter.mpr ⟨Finset.mem_range.mpr (sound.lt_nextCall present),
      onChannel_eq_true.mpr ⟨record, present, channel, holds⟩⟩, place⟩

/-- A call that holds a slot is either suspended or stranded. -/
theorem callCount_holds (bridge : Bridge count) (index : Fin count) :
    bridge.callCount Call.holds index =
      bridge.callCount Call.suspended index + bridge.callCount Call.stranded index := by
  unfold Bridge.callCount
  rw [← Finset.card_union_of_disjoint, ← Finset.filter_or]
  · congr 1
    apply Finset.filter_congr
    intro call _
    simp only [onChannel_eq_true, Call.holds, Bool.or_eq_true, ← exists_or, ← and_or_left]
  · apply Finset.disjoint_filter.mpr
    intro call _ suspended stranded
    obtain ⟨record, present, _, suspended⟩ := onChannel_eq_true.mp suspended
    obtain ⟨other, present', _, stranded⟩ := onChannel_eq_true.mp stranded
    cases present.symm.trans present'
    rw [Call.stranded, decide_eq_true_eq] at stranded
    rw [Call.suspended, stranded.1] at suspended
    cases suspended

theorem callCount_eq_zero (sound : bridge.table.Sound) :
    (∀ index, bridge.callCount kind index = 0) ↔
      ∀ call record, bridge.calls call = some record → kind record = false := by
  simp only [Bridge.callCount, Finset.card_eq_zero, Finset.filter_eq_empty_iff, Finset.mem_range]
  constructor
  · intro empty call record present
    have absent := empty record.channel (sound.lt_nextCall present)
    by_contra counted
    exact absent (onChannel_eq_true.mpr ⟨record, present, rfl, Bool.not_eq_false _ ▸ counted⟩)
  · intro none index call _ counted
    obtain ⟨record, present, _, kind⟩ := onChannel_eq_true.mp counted
    rw [none call record present] at kind
    cases kind

/-- The table is balanced exactly when no call is stranded. -/
theorem balanced_iff (sound : bridge.table.Sound) :
    (∀ index, bridge.occupied index = bridge.callCount Call.suspended index) ↔
      ∀ call record, bridge.calls call = some record → record.stranded = false := by
  rw [← callCount_eq_zero sound]
  apply forall_congr'
  intro index
  rw [occupied_eq_holds sound, callCount_holds]
  omega

end Count

section Runs

variable {bridge after : Bridge count} {event : Event count}

/-- A request that would enter the table can be encoded. -/
def Event.Fits (event : Event count) (bridge : Bridge count) : Prop :=
  ∀ arguments index, event = .sendRequest arguments →
    bridge.getChannel arguments.reqChannel = some index →
    (∃ slot, (bridge.channels index).outstandingRequests slot = none) →
    arguments.dataReceived.length ≤ 257

theorem step_sendRequest {arguments : SendRequest}
    (taken : bridge.step (.sendRequest arguments) = some after) :
    after = bridge.ipmbHandleRequest arguments := by
  cases (step_taken taken).2
  rfl

/-- A call that found its channel gets the next identifier. -/
theorem served_nextCall {arguments : SendRequest} {index : Fin count}
    (served : bridge.getChannel arguments.reqChannel = some index) :
    (bridge.ipmbHandleRequest arguments).nextCall = bridge.nextCall + 1 := by
  have next := congrArg Table.nextCall (ipmbHandleRequest_table bridge served)
  apply next.trans
  split
  · rfl
  · dsimp only
    split <;> rfl

/-- A free slot is found wherever the search starts. -/
theorem nextSeq_of_free {index : Fin count} {slot : Fin ipmbMaxOutstandingRequestsCount}
    (free : (bridge.channels index).outstandingRequests slot = none) :
    ∃ seq, bridge.nextSeq index = some seq := by
  apply Option.ne_none_iff_exists'.mp
  intro failed
  exact seqNumSearch_full failed slot free

/-- A call that finds a free slot is stranded or suspended. -/
theorem sendRequest_record {arguments : SendRequest} {index : Fin count}
    {slot : Fin ipmbMaxOutstandingRequestsCount}
    (served : bridge.getChannel arguments.reqChannel = some index)
    (free : (bridge.channels index).outstandingRequests slot = none) :
    ∃ buffer, (bridge.ipmbHandleRequest arguments).calls bridge.nextCall =
      some ⟨arguments, index, buffer, if 257 < arguments.dataReceived.length then
        .returned (.status .error) else .suspended (.writing 0 0)⟩ := by
  obtain ⟨seq, found⟩ := nextSeq_of_free free
  have entered := ipmbHandleRequest_table bridge served
  rw [found] at entered
  dsimp only at entered
  split at entered
  · next long =>
    have long : 257 < arguments.dataReceived.length := (ipmbToi2cConstruct_eq_none _).mp long
    exact ⟨[], (congrFun (congrArg Table.calls entered) _).trans
      ((Function.update_self _ _ _).trans (by rw [if_pos long]))⟩
  · next buffer encoded =>
    have fits : ¬257 < arguments.dataReceived.length := fun long => by
      rw [(ipmbToi2cConstruct_eq_none (bridge.table.request arguments index seq _)).mpr long]
        at encoded
      cases encoded
    exact ⟨buffer, (congrFun (congrArg Table.calls entered) _).trans
      ((Function.update_self _ _ _).trans (by rw [if_neg fits]))⟩

/-- Only a request that cannot be encoded strands its call. -/
theorem step_stranded (sound : bridge.table.Sound)
    (clean : ∀ call record, bridge.calls call = some record → record.stranded = false)
    (fits : event.Fits bridge) (taken : bridge.step event = some after) :
    ∀ call record, after.calls call = some record → record.stranded = false := by
  intro call record present
  cases (step_table taken).fate present with
  | untouched old => exact clean call record old
  | rejected => simp [Call.stranded]
  | stranded new asked served free long =>
      have long := (ipmbToi2cConstruct_eq_none _).mp long
      exact absurd (fits _ _ asked served ⟨_, free⟩) (Nat.not_le.mpr long)
  | admitted => simp [Call.stranded]
  | moved => simp [Call.stranded]
  | answered arrived heard held agrees old woken =>
      rcases woken with rfl | ⟨before, after, suspended, rfl⟩
      · exact clean call _ old
      · simp [Call.stranded]
  | finished old suspended =>
      have short := sound.short call _ old (Call.suspended_of_status suspended)
      simp only [Call.stranded, Nat.not_lt.mpr short, and_false, decide_false]

/-- A step keeps the table balanced exactly when it meets the condition. -/
theorem step_stranded_iff (sound : bridge.table.Sound)
    (clean : ∀ call record, bridge.calls call = some record → record.stranded = false)
    (taken : bridge.step event = some after) :
    (∀ call record, after.calls call = some record → record.stranded = false) ↔
      event.Fits bridge := by
  refine ⟨?_, fun fits => step_stranded sound clean fits taken⟩
  rintro kept arguments index rfl served ⟨slot, free⟩
  by_contra long
  have long := Nat.not_le.mp long
  obtain ⟨buffer, present⟩ := sendRequest_record served free
  rw [← step_sendRequest taken, if_pos long] at present
  have clean := kept _ _ present
  simp only [Call.stranded, long, and_self, decide_true, reduceCtorEq] at clean

/-- Along every run whose requests can be encoded the slots belong to the suspended calls, a call
on an idle channel is not busy, and the next step keeps it so exactly when it meets the condition. -/
theorem slots_balanced (channels : Fin count → IpmbChannel)
    (reach : Reach Bridge.step (fun bridge event => event.Fits bridge) (.initial channels) bridge) :
    (∀ index, bridge.occupied index = bridge.callCount Call.suspended index) ∧
      (∀ arguments index after record, bridge.getChannel arguments.reqChannel = some index →
        bridge.callCount Call.suspended index = 0 →
        bridge.step (.sendRequest arguments) = some after →
        after.calls bridge.nextCall = some record →
        record.status ≠ .returned (.status .busy)) ∧
      ∀ event after, bridge.step event = some after →
        ((∀ index, after.occupied index = after.callCount Call.suspended index) ↔
          event.Fits bridge) := by
  have sound := reachable_sound reach.reachable
  have clean : ∀ call record, bridge.calls call = some record → record.stranded = false := by
    refine (reach.invariant (fun bridge => bridge.table.Sound ∧
      ∀ call record, bridge.calls call = some record → record.stranded = false)
      ⟨initial_sound channels, fun _ _ => nofun⟩ ?_).2
    exact fun _ _ _ kept fits taken => ⟨kept.1.step (step_table taken),
      step_stranded kept.1 kept.2 fits taken⟩
  have balanced := (balanced_iff sound).mpr clean
  refine ⟨balanced, ?_, fun event after taken =>
    (balanced_iff (sound.step (step_table taken))).trans (step_stranded_iff sound clean taken)⟩
  intro arguments index after record served idle taken present
  have empty : bridge.occupied index = 0 := (balanced index).trans idle
  have free : (bridge.channels index).outstandingRequests 0 = none := by
    have absent := Finset.filter_eq_empty_iff.mp (Finset.card_eq_zero.mp empty) (Finset.mem_univ 0)
    exact Option.not_isSome_iff_eq_none.mp absent
  obtain ⟨buffer, recorded⟩ := sendRequest_record served free
  rw [step_sendRequest taken, recorded] at present
  cases present
  split_ifs <;> simp

/-- A bridge with one IPMB channel serves channel number zero. -/
def loneBridge : Bridge 1 := .initial fun _ => ⟨0x20, 0x82, 3, 0, fun _ => none⟩

/-- A Get Device ID request has no data. -/
abbrev deviceIdRequest (addr : UInt8) : SendRequest := ⟨0, addr, 0x06, 0, 0x01, []⟩

/-- One admitted call occupies one slot. -/
theorem slots_balanced_admitted :
    ∃ bridge, loneBridge.step (.sendRequest (deviceIdRequest 0x82)) = some bridge ∧
      bridge.occupied 0 = 1 ∧ bridge.occupied 0 = bridge.callCount Call.suspended 0 := by
  have fits : (Event.sendRequest (deviceIdRequest 0x82)).Fits loneBridge := by
    rintro arguments index same _ _
    cases same
    exact Nat.zero_le 257
  exact ⟨_, rfl, by decide +kernel, (slots_balanced _ (.next .start fits rfl)).1 0⟩

/-- This request is one byte too long for a frame. -/
abbrev longRequest : SendRequest := ⟨0, 0x82, 0x06, 0, 0x01, List.replicate 258 0⟩

/-- After sixty-four long requests have returned the channel is busy for ever. -/
theorem requestAdd_leaks_slots :
    ∃ bridge, run Bridge.step loneBridge (List.replicate 64 (.sendRequest longRequest) ++
        [.sendRequest (deviceIdRequest 0x82)]) = some bridge ∧
      bridge.callCount Call.suspended 0 = 0 ∧ bridge.occupied 0 = 64 ∧
      (bridge.calls 64).map Call.status = some (.returned (.status .busy)) := by
  have seen : (run Bridge.step loneBridge (List.replicate 64 (.sendRequest longRequest) ++
      [.sendRequest (deviceIdRequest 0x82)])).map (fun bridge =>
        (bridge.callCount Call.suspended 0, bridge.occupied 0,
          (bridge.calls 64).map Call.status)) =
      some (0, 64, some (.returned (.status .busy))) := by decide +kernel
  obtain ⟨bridge, ran, seen⟩ := Option.map_eq_some_iff.mp seen
  simp only [Prod.mk.injEq] at seen
  exact ⟨bridge, ran, seen⟩

end Runs

end Chassis.Ipmb
