import Chassis.Proof.Bridge.Leak
import Chassis.Proof.Bridge.Frames

namespace Chassis.Ipmb
open Automaton

variable {count : Nat}

section Entry

variable {bridge : Bridge count} {arguments : SendRequest} {index : Fin count}

/-- The selection of the remote address keeps the channel's own address. -/
theorem requester_eq (bridge : Bridge count) (arguments : SendRequest) (index : Fin count) :
    bridge.requester arguments index = (bridge.channels index).ipmbBmcSlaveAddress := by
  unfold Bridge.requester Bridge.selectSlave
  split_ifs
  · unfold Bridge.updateRqSlaveAddress Bridge.setChannel
    simp only [Function.update_self]
  · rfl

/-- The frame of a request starts with its destination and carries its requester. -/
theorem requester_of_encoded {request : IpmbRequest} {buffer : List UInt8}
    (encoded : request.ipmbToi2cConstruct = some buffer) : byteAt buffer 4 = request.rqSA := by
  unfold IpmbRequest.ipmbToi2cConstruct at encoded
  dsimp only at encoded
  split_ifs at encoded
  cases encoded
  rfl

/-- An admitted call has copied both addresses before its first suspension. -/
theorem sendRequest_routed (named : arguments.addr ≠ 0x40)
    (served : bridge.getChannel arguments.reqChannel = some index) {record : Call count}
    (present : (bridge.ipmbHandleRequest arguments).calls bridge.nextCall = some record)
    (admitted : record.admitted = true) :
    record.channel = index ∧
      ((bridge.ipmbHandleRequest arguments).heap bridge.nextCall).address = arguments.addr ∧
      ((bridge.ipmbHandleRequest arguments).heap bridge.nextCall).rqSA =
        (bridge.channels index).ipmbBmcSlaveAddress := by
  have entered := ipmbHandleRequest_table bridge served
  have remote : (bridge.table.select index arguments.addr).remote index = arguments.addr := by
    unfold Table.select
    rw [if_neg named]
    exact Function.update_self _ _ _
  change (bridge.ipmbHandleRequest arguments).table.calls bridge.nextCall = some record at present
  change _ ∧ ((bridge.ipmbHandleRequest arguments).table.requests bridge.nextCall).address = _ ∧
    ((bridge.ipmbHandleRequest arguments).table.requests bridge.nextCall).rqSA = _
  rw [entered] at present ⊢
  cases found : bridge.nextSeq index with
  | none =>
      rw [found] at present
      cases (Function.update_self _ _ _).symm.trans present
      cases admitted
  | some seq =>
      rw [found] at present
      have request := Table.enter_new bridge.table arguments index seq
        (bridge.requester arguments index)
      dsimp only at present ⊢
      split at present
      · cases (Function.update_self _ _ _).symm.trans present
        cases admitted
      · next buffer encoded =>
        cases (Function.update_self _ _ _).symm.trans present
        exact ⟨rfl, (congrArg IpmbRequest.address request).trans remote,
          (congrArg IpmbRequest.rqSA request).trans (requester_eq bridge arguments index)⟩

end Entry

section Runs

variable {asked last : Bridge count} {call : Nat}

/-- Along every run an older call keeps its channel and its request. -/
theorem reach_kept (older : call < asked.nextCall) (later : Reachable Bridge.step asked last) :
    call < last.nextCall ∧ ∀ record, last.calls call = some record →
      ∃ old, asked.calls call = some old ∧ record = { old with status := record.status } ∧
        (last.heap call).bare = (asked.heap call).bare := by
  refine later.invariant (fun bridge => call < bridge.nextCall ∧
    ∀ record, bridge.calls call = some record → ∃ old, asked.calls call = some old ∧
      record = { old with status := record.status } ∧
      (bridge.heap call).bare = (asked.heap call).bare) ?_ ?_
  · exact ⟨older, fun record present => ⟨record, present, rfl, rfl⟩⟩
  · intro before event after kept _ taken
    have step := step_table taken
    refine ⟨Nat.lt_of_lt_of_le kept.1 step.nextCall_le, fun record present => ?_⟩
    obtain ⟨middle, present', same, bare⟩ := step.kept (Nat.ne_of_lt kept.1) present
    obtain ⟨old, first, same', bare'⟩ := kept.2 middle present'
    refine ⟨old, first, ?_, bare.trans bare'⟩
    rw [same, same']

/-- Every frame that is ever written for a call carries the destination that the call named and the
address that its channel had at the time of the call. -/
theorem frames_routed (channels : Fin count → IpmbChannel) {bridge : Bridge count}
    (reachable : Reachable Bridge.step (.initial channels) bridge) {arguments : SendRequest}
    (named : arguments.addr ≠ 0x40) {index : Fin count}
    (served : bridge.getChannel arguments.reqChannel = some index)
    (taken : bridge.step (.sendRequest arguments) = some asked)
    (later : Reachable Bridge.step asked last) :
    ∀ frame ∈ last.sent, frame.call = some bridge.nextCall → frame.channel = index ∧
      destination frame.buffer = arguments.addr ∧
      byteAt frame.buffer 4 = (bridge.channels index).ipmbBmcSlaveAddress := by
  intro frame sent written
  have framed := reachable_framed ((reachable.next trivial taken).trans later)
  have member : frame ∈ last.table.framesOf bridge.nextCall := mem_framesOf.mpr ⟨sent, written⟩
  obtain ⟨record, present⟩ : ∃ record, last.calls bridge.nextCall = some record := by
    cases present : last.calls bridge.nextCall with
    | none =>
        rw [framed.silent _ present] at member
        cases member
    | some record => exact ⟨record, rfl⟩
  have admitted : record.admitted = true := by
    by_contra refused
    rw [framed.quiet _ record present (Bool.not_eq_true _ ▸ refused)] at member
    cases member
  have told := framed.told _ record present admitted
  have older : bridge.nextCall < asked.nextCall := by
    rw [step_sendRequest taken, served_nextCall served]
    exact Nat.lt_succ_self _
  obtain ⟨old, first, same, bare⟩ := (reach_kept older later).2 record present
  rw [same] at admitted
  rw [step_sendRequest taken] at first bare
  have routed := sendRequest_routed named served first admitted
  have encoded := told.carried.encoded
  rw [show last.table.requests = last.heap from rfl, bare] at encoded
  obtain ⟨channel, buffer⟩ := told.framed frame member
  rw [channel, buffer]
  refine ⟨?_, (destination_of_encoded encoded).1.trans routed.2.1,
    (requester_of_encoded encoded).trans routed.2.2⟩
  rw [same]
  exact routed.1

/-- Another call names `0x86` while the first one waits, and the channel takes another address. -/
abbrev disturbedCall : List (Event 1) :=
  [.writeDone 0 false, .sendRequest (deviceIdRequest 0x86), .updateBmcSlaveAddr 0 3 0x22 true,
    .timerDone 0 false, .resume 0]

/-- The retry of the first call still goes to `0x84` from `0x20`. -/
theorem frames_routed_disturbed :
    ∃ asked last, loneBridge.step (.sendRequest (deviceIdRequest 0x84)) = some asked ∧
      run Bridge.step asked disturbedCall = some last ∧
      last.sent.map (fun frame => frame.call) = [some 0, some 1, some 0] ∧
      ∀ frame ∈ last.sent, frame.call = some 0 →
        destination frame.buffer = 0x84 ∧ byteAt frame.buffer 4 = 0x20 := by
  have seen : ((loneBridge.step (.sendRequest (deviceIdRequest 0x84))).bind fun asked =>
      run Bridge.step asked disturbedCall).map
      (fun last => last.sent.map fun frame => frame.call) = some [some 0, some 1, some 0] := by
    decide +kernel
  obtain ⟨last, ran, calls⟩ := Option.map_eq_some_iff.mp seen
  obtain ⟨asked, taken, ran⟩ := Option.bind_eq_some_iff.mp ran
  refine ⟨asked, last, taken, ran, calls, fun frame sent written => ?_⟩
  have later : Reachable Bridge.step asked last := reach_of_run ran fun _ _ _ => trivial
  have served : loneBridge.getChannel (deviceIdRequest 0x84).reqChannel = some 0 := by
    decide +kernel
  have idle : Reachable Bridge.step loneBridge loneBridge := .start
  exact (frames_routed _ idle (by decide) served taken later frame sent written).2

end Runs

section Unconfigured

/-- The call on an unconfigured channel is refused without any other effect. -/
structure Rejects (before : Bridge count) (after : Bridge count) : Prop where
  status : ∃ record, after.calls before.nextCall = some record ∧
    record.status = .returned (.status .invalidParam)
  defined : after.fault ≠ some .nullChannel
  channels : after.channels = before.channels
  seqNum : after.seqNum = before.seqNum

/-- The handler reads the address of the missing channel, and the bridge is otherwise unchanged. -/
theorem ipmbHandleRequest_unconfigured (bridge : Bridge count) {arguments : SendRequest}
    (unconfigured : ∀ index, (bridge.channels index).channelIdx ≠ arguments.reqChannel) :
    bridge.ipmbHandleRequest arguments = { bridge with fault := some .nullChannel } := by
  have missing : bridge.getChannel arguments.reqChannel = none := by
    apply List.find?_eq_none.mpr
    intro index _
    rw [beq_iff_eq]
    exact unconfigured index
  unfold Bridge.ipmbHandleRequest
  rw [missing]

/-- No call on an unconfigured channel is refused: each one goes through the null pointer before the
pointer is checked. -/
theorem unconfigured_dereferenced (bridge : Bridge count) {arguments : SendRequest}
    (unconfigured : ∀ index, (bridge.channels index).channelIdx ≠ arguments.reqChannel) :
    (bridge.ipmbHandleRequest arguments).fault = some .nullChannel ∧
      ¬Rejects bridge (bridge.ipmbHandleRequest arguments) := by
  have faulted : (bridge.ipmbHandleRequest arguments).fault = some .nullChannel := by
    rw [ipmbHandleRequest_unconfigured bridge unconfigured]
  exact ⟨faulted, fun rejects => rejects.defined faulted⟩

/-- A Get Device ID request for channel 1 of a bridge whose only channel has number 0. -/
theorem unconfigured_dereferenced_lone :
    (loneBridge.ipmbHandleRequest { deviceIdRequest 0x82 with reqChannel := 1 }).fault =
        some .nullChannel ∧
      ¬Rejects loneBridge
        (loneBridge.ipmbHandleRequest { deviceIdRequest 0x82 with reqChannel := 1 }) :=
  unconfigured_dereferenced loneBridge (by decide)

theorem unconfigured_not_rejected : ¬∀ (bridge : Bridge 1) (arguments : SendRequest),
    (∀ index, (bridge.channels index).channelIdx ≠ arguments.reqChannel) →
      Rejects bridge (bridge.ipmbHandleRequest arguments) := by
  intro always
  have rejects := always loneBridge { deviceIdRequest 0x82 with reqChannel := 1 } (by decide)
  exact rejects.defined (by decide +kernel)

end Unconfigured

end Chassis.Ipmb
