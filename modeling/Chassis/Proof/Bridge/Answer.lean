import Chassis.Proof.Bridge.Echo

namespace Chassis.Ipmb
open Automaton

variable {count : Nat}

section Reception

/-- An accepted frame fills the buffer behind its length byte. -/
theorem receiveFrame_spec {bytes : List UInt8} {frame : List UInt8} {r : Nat}
    (received : Bridge.receiveFrame bytes = some (frame, r)) :
    ipmbMinFrameLength ≤ r ∧ r ≤ 264 ∧ frame.length = 264 := by
  have most : ipmbMaxFrameLength = 265 := rfl
  have taken : (bytes.take ipmbMaxFrameLength).length ≤ 265 := List.length_take_le _ _
  unfold Bridge.receiveFrame at received
  dsimp only at received
  split_ifs at received with outside
  cases received
  refine ⟨by omega, by omega, ?_⟩
  rw [List.length_drop, List.length_append, List.length_replicate]
  change (bytes.take ipmbMaxFrameLength).length + (ipmbMaxFrameLength -
    (bytes.take ipmbMaxFrameLength).length) - 1 = 264
  omega

variable {bytes frame : List UInt8} {r : Nat}
  (received : Bridge.receiveFrame bytes = some (frame, r))

include received

/-- An accepted frame can always be decoded as a request. -/
theorem receiveFrame_decoded :
    ∃ message, IpmbRequest.i2cToIpmbConstruct frame r = some message := by
  obtain ⟨long, short, length⟩ := receiveFrame_spec received
  exact IpmbRequest.i2cToIpmbConstruct_of_long long (by omega) (by omega)

/-- A request frame is announced and then answered at once or handed to the host. -/
theorem processI2cEvent_request (bridge : Bridge count) (index : Fin count)
    (isRequest : ipmbIsResponse frame = false) :
    ∃ signals, bridge.processI2cEvent index (some bytes) =
      { bridge with signals := signals }.requestReceived index frame r := by
  obtain ⟨message, decoded⟩ := receiveFrame_decoded received
  obtain ⟨signals, announced⟩ := announce_eq bridge index decoded
  refine ⟨signals, ?_⟩
  unfold Bridge.processI2cEvent
  rw [Option.bind_some, received]
  dsimp only
  rw [isRequest, if_neg Bool.false_ne_true, announced]

end Reception

section Emission

/-- The bytes that the driver gets for a response. -/
def IpmbResponse.buffer (response : IpmbResponse) : List UInt8 :=
  UInt8.ofNat (response.data.length + 8) :: response.frame

/-- A response with at most 256 bytes of data is always written. -/
theorem sendResponse_eq (bridge : Bridge count) (index : Fin count) {response : IpmbResponse}
    (admitted : response.data.length ≤ 256) :
    bridge.sendResponse index response = bridge.ipmbSendI2cFrame index response.buffer 0 := by
  obtain ⟨buffer, encoded⟩ : ∃ buffer, response.ipmbToi2cConstruct = some buffer := by
    unfold IpmbResponse.ipmbToi2cConstruct
    dsimp only
    rw [if_neg]
    · exact ⟨_, rfl⟩
    · change ¬1 + response.data.length + 4 + 3 + 1 > 265
      omega
  unfold Bridge.sendResponse
  rw [encoded, IpmbResponse.buffer, ← IpmbResponse.buffer_eq encoded]

theorem sendResponse_sent (bridge : Bridge count) (index : Fin count) {response : IpmbResponse}
    (admitted : response.data.length ≤ 256) :
    (bridge.sendResponse index response).sent =
      bridge.sent ++ [⟨index, none, response.buffer⟩] := by
  rw [sendResponse_eq bridge index admitted]
  rfl

/-- The response carries the fields of a received request in their swapped roles. -/
structure EchoedBy (frame buffer : List UInt8) : Prop where
  address : destination buffer = byteAt frame 3
  netFn : (ipmbNetFnGet (byteAt buffer 2)).toNat = (ipmbNetFnGet (byteAt frame 1)).toNat + 1
  rqLun : ipmbLunFromNetFnLunGet (byteAt buffer 2) = ipmbLunFromSeqLunGet (byteAt frame 4)
  seq : ipmbSeqGet (byteAt buffer 5) = ipmbSeqGet (byteAt frame 4)
  rsLun : ipmbLunFromSeqLunGet (byteAt buffer 5) = ipmbLunFromNetFnLunGet (byteAt frame 1)
  cmd : byteAt buffer 6 = byteAt frame 5
  checksums : ChecksumsValid (buffer.drop 1)

/-- A response is built for a received request up to the responder's unit, which has two bits. -/
structure IpmbResponse.Returns (response : IpmbResponse) (frame : List UInt8) : Prop where
  address : response.address = byteAt frame 3
  netFn : response.netFn = ipmbRespNetFn (ipmbNetFnGet (byteAt frame 1))
  rqLun : response.rqLun = ipmbLunFromSeqLunGet (byteAt frame 4)
  seq : response.seq = ipmbSeqGet (byteAt frame 4)
  rsLun : response.rsLun.toNat < 4
  cmd : response.cmd = byteAt frame 5

/-- Such a response echoes the request when its unit and its second checksum are right. -/
theorem IpmbResponse.Returns.echoedBy_iff {response : IpmbResponse} {frame : List UInt8}
    (returns : response.Returns frame) (isRequest : ipmbIsResponse frame = false)
    (lengthByte : UInt8) :
    EchoedBy frame (lengthByte :: response.frame) ↔
      response.rsLun = ipmbLunFromNetFnLunGet (byteAt frame 1) ∧ ChecksumsValid response.frame := by
  have even : (ipmbNetFnGet (byteAt frame 1)).toNat % 2 = 0 := by
    have odd := mt (ipmbIsResponse_iff frame).mpr (by rw [isRequest]; exact Bool.false_ne_true)
    omega
  have netFn : (ipmbNetFnGet (byteAt frame 1)).toNat < 64 := by
    change (ipmbSeqGet (byteAt frame 1)).toNat < 64
    have bound := (byteAt frame 1).toNat_lt
    rw [ipmbSeqGet_toNat]
    omega
  have seq : response.seq.toNat < 64 := by
    have bound := (byteAt frame 4).toNat_lt
    rw [returns.seq, ipmbSeqGet_toNat]
    omega
  have rqLun : response.rqLun.toNat < 4 := by
    rw [returns.rqLun, ipmbLunFromSeqLunGet_toNat]
    exact Nat.mod_lt _ (by decide)
  have respNetFn : response.netFn.toNat = (ipmbNetFnGet (byteAt frame 1)).toNat + 1 := by
    rw [returns.netFn]
    exact ipmbRespNetFn_toNat even
  have unit : ipmbLunFromSeqLunGet (ipmbSeqLunSet response.seq response.rsLun) = response.rsLun :=
    ipmbLunFromSeqLunGet_seqLunSet returns.rsLun _
  constructor
  · intro echoed
    exact ⟨unit.symm.trans echoed.rsLun, echoed.checksums⟩
  · rintro ⟨rsLun, checksums⟩
    exact {
      address := returns.address
      netFn := by
        rw [← respNetFn]
        exact congrArg UInt8.toNat (ipmbNetFnGet_netFnLunSet (by omega) _)
      rqLun := (ipmbLunFromNetFnLunGet_netFnLunSet rqLun _).trans returns.rqLun
      seq := (ipmbSeqGet_seqLunSet seq _).trans returns.seq
      rsLun := unit.trans rsLun
      cmd := returns.cmd
      checksums := checksums }

end Emission

section Replies

/-- The host answers a request with its response net function, its unit and its command. -/
def IpmbRequest.hostReply (request : IpmbRequest) (cc : UInt8) (payload : List UInt8) :
    ExecuteReply where
  netfn := ipmbRespNetFn request.netFn
  lun := request.rsLun
  cmd := request.cmd
  cc := cc
  payload := payload

/-- The frames that a bridge writes for a received frame: at once, in a later state on the host's
reply, or again after a failed write. -/
inductive Bridge.Emits (bridge : Bridge count) (index : Fin count) (bytes : List UInt8)
    (later : Bridge count) (cc : UInt8) (payload : List UInt8) : List UInt8 → Prop where
  | filtered {frame : Sent count}
      (written : frame ∈ (bridge.processI2cEvent index (some bytes)).sent.drop bridge.sent.length) :
      Emits bridge index bytes later cc payload frame.buffer
  | replied {execution : Execution count} {position : Nat} {frame : Sent count}
      (handed : execution ∈
        (bridge.processI2cEvent index (some bytes)).executions.drop bridge.executions.length)
      (pending : later.executions[position]? = some execution)
      (written : frame ∈ (later.executeReply position execution
        (some (execution.request.hostReply cc payload))).sent.drop later.sent.length) :
      Emits bridge index bytes later cc payload frame.buffer
  | repeated {failed : Bridge count} {outgoing : Outgoing count} {position : Nat} {ec : Bool}
      {frame : Sent count} (emitted : Emits bridge index bytes later cc payload outgoing.buffer)
      (pending : failed.outgoing[position]? = some outgoing)
      (written : frame ∈ (failed.outgoingDone position outgoing ec).sent.drop failed.sent.length) :
      Emits bridge index bytes later cc payload frame.buffer

/-- The response of each of the three paths. -/
def Bridge.responseTo (bridge : Bridge count) (index : Fin count) (frame : List UInt8)
    (later : Bridge count) (cc : UInt8) (payload : List UInt8) : IpmbResponse :=
  let blocked := bridge.isBlocked (ipmbNetFnGet (byteAt frame 1)) (byteAt frame 5)
  let oversize := ipmbMaxDataSize < payload.length
  { address := byteAt frame 3
    netFn := ipmbRespNetFn (ipmbNetFnGet (byteAt frame 1))
    rqLun := ipmbLunFromSeqLunGet (byteAt frame 4)
    rsSA := ((if blocked then bridge else later).channels index).ipmbBmcSlaveAddress
    seq := ipmbSeqGet (byteAt frame 4)
    rsLun := if blocked ∨ oversize then ipmbRsLun else ipmbLunFromNetFnLunGet (byteAt frame 1)
    cmd := byteAt frame 5
    completionCode := if blocked then ipmbIpmiInvalidCmd
      else if oversize then ipmbIpmiCmdRespNotProvided else cc
    data := if blocked ∨ oversize then [] else payload }

variable {bridge later : Bridge count} {index : Fin count} {frame : List UInt8} {r : Nat}
  {message : IpmbRequest} {cc : UInt8} {payload : List UInt8}

theorem responseTo_blocked (bridge later : Bridge count) (cc : UInt8) (payload : List UInt8)
    (blocked : bridge.isBlocked (ipmbNetFnGet (byteAt frame 1)) (byteAt frame 5) = true) :
    bridge.responseTo index frame later cc payload = {
      address := byteAt frame 3
      netFn := ipmbRespNetFn (ipmbNetFnGet (byteAt frame 1))
      rqLun := ipmbLunFromSeqLunGet (byteAt frame 4)
      rsSA := (bridge.channels index).ipmbBmcSlaveAddress
      seq := ipmbSeqGet (byteAt frame 4)
      rsLun := ipmbRsLun
      cmd := byteAt frame 5
      completionCode := ipmbIpmiInvalidCmd
      data := [] } := by
  unfold Bridge.responseTo
  simp only [blocked, true_or, if_true]

theorem responseTo_free
    (free : bridge.isBlocked (ipmbNetFnGet (byteAt frame 1)) (byteAt frame 5) = false) :
    bridge.responseTo index frame later cc payload = {
      address := byteAt frame 3
      netFn := ipmbRespNetFn (ipmbNetFnGet (byteAt frame 1))
      rqLun := ipmbLunFromSeqLunGet (byteAt frame 4)
      rsSA := (later.channels index).ipmbBmcSlaveAddress
      seq := ipmbSeqGet (byteAt frame 4)
      rsLun := if ipmbMaxDataSize < payload.length then ipmbRsLun
        else ipmbLunFromNetFnLunGet (byteAt frame 1)
      cmd := byteAt frame 5
      completionCode := if ipmbMaxDataSize < payload.length then ipmbIpmiCmdRespNotProvided else cc
      data := if ipmbMaxDataSize < payload.length then [] else payload } := by
  unfold Bridge.responseTo
  simp only [free, Bool.false_eq_true, false_or, if_false]

theorem responseTo_data_length :
    (bridge.responseTo index frame later cc payload).data.length ≤ 256 := by
  have most : ipmbMaxDataSize = 256 := rfl
  unfold Bridge.responseTo
  dsimp only
  split_ifs with short
  · exact Nat.zero_le _
  · rw [not_or] at short
    omega

theorem responseTo_returns : (bridge.responseTo index frame later cc payload).Returns frame where
  address := rfl
  netFn := rfl
  rqLun := rfl
  seq := rfl
  rsLun := by
    unfold Bridge.responseTo
    dsimp only
    split_ifs
    · decide
    · change (ipmbLunFromSeqLunGet (byteAt frame 1)).toNat < 4
      rw [ipmbLunFromSeqLunGet_toNat]
      exact Nat.mod_lt _ (by decide)
  cmd := rfl

theorem requestReceived_blocked (bridge later : Bridge count) (cc : UInt8) (payload : List UInt8)
    (blocked : bridge.isBlocked (ipmbNetFnGet (byteAt frame 1)) (byteAt frame 5) = true) :
    bridge.requestReceived index frame r =
      bridge.sendResponse index (bridge.responseTo index frame later cc payload) := by
  unfold Bridge.requestReceived
  dsimp only
  rw [if_pos blocked, responseTo_blocked bridge later cc payload blocked]

theorem requestReceived_free (bridge : Bridge count)
    (decoded : IpmbRequest.i2cToIpmbConstruct frame r = some message)
    (free : bridge.isBlocked (ipmbNetFnGet (byteAt frame 1)) (byteAt frame 5) = false) :
    bridge.requestReceived index frame r =
      { bridge with executions := bridge.executions ++ [⟨index, message⟩] } := by
  unfold Bridge.requestReceived
  dsimp only
  rw [if_neg (by rw [free]; exact Bool.false_ne_true), decoded]

/-- A decoded request has the fields of its frame. -/
theorem IpmbRequest.fields_of_decoded
    (decoded : IpmbRequest.i2cToIpmbConstruct frame r = some message) :
    message.netFn = ipmbNetFnGet (byteAt frame 1) ∧
      message.rsLun = ipmbLunFromNetFnLunGet (byteAt frame 1) ∧ message.rqSA = byteAt frame 3 ∧
      message.seq = ipmbSeqGet (byteAt frame 4) ∧
      message.rqLun = ipmbLunFromSeqLunGet (byteAt frame 4) ∧ message.cmd = byteAt frame 5 := by
  unfold IpmbRequest.i2cToIpmbConstruct at decoded
  dsimp only at decoded
  obtain ⟨data, _, rfl⟩ := Option.map_eq_some_iff.mp decoded
  exact ⟨rfl, rfl, rfl, rfl, rfl, rfl⟩

theorem ipmbRespNetFn_masked (netFn : UInt8) :
    ipmbRespNetFn netFn &&& ipmbNetFnResponseMask ≠ 0 := by
  have odd : (netFn.toNat ||| 1) % 2 = 1 := Nat.or_mod_two_eq_one.mpr (.inr rfl)
  intro zero
  have value : ((netFn.toNat ||| 1) &&& 1) = 0 := congrArg UInt8.toNat zero
  rw [Nat.and_one_is_mod, odd] at value
  cases value

/-- The reply of the host is written as the response to its request. -/
theorem executeReply_sent (position : Nat)
    (decoded : IpmbRequest.i2cToIpmbConstruct frame r = some message)
    (free : bridge.isBlocked (ipmbNetFnGet (byteAt frame 1)) (byteAt frame 5) = false) :
    (later.executeReply position ⟨index, message⟩ (some (message.hostReply cc payload))).sent =
      later.sent ++ [⟨index, none, (bridge.responseTo index frame later cc payload).buffer⟩] := by
  obtain ⟨netFn, rsLun, rqSA, seq, rqLun, cmd⟩ := IpmbRequest.fields_of_decoded decoded
  unfold Bridge.executeReply IpmbRequest.hostReply
  rw [responseTo_free free]
  dsimp only
  rw [netFn, rsLun, rqSA, seq, rqLun, cmd]
  by_cases oversize : ipmbMaxDataSize < payload.length
  · rw [if_pos oversize, if_pos oversize, if_pos oversize, if_pos oversize]
    exact sendResponse_sent _ index (Nat.zero_le _)
  · have short : payload.length ≤ 256 := Nat.le_of_not_lt oversize
    rw [if_neg oversize, if_neg oversize, if_neg oversize, if_neg oversize,
      if_neg (ipmbRespNetFn_masked _)]
    split_ifs
    · exact sendResponse_sent _ index short
    · exact sendResponse_sent _ index short

/-- A blocked request is answered at once, and any other one is handed to the host. -/
theorem processI2cEvent_answers (bridge later : Bridge count) (index : Fin count) (cc : UInt8)
    (payload : List UInt8) {bytes : List UInt8}
    (received : Bridge.receiveFrame bytes = some (frame, r))
    (isRequest : ipmbIsResponse frame = false)
    (decoded : IpmbRequest.i2cToIpmbConstruct frame r = some message) :
    (bridge.processI2cEvent index (some bytes)).sent = bridge.sent ++
        (if bridge.isBlocked (ipmbNetFnGet (byteAt frame 1)) (byteAt frame 5) then
          [⟨index, none, (bridge.responseTo index frame later cc payload).buffer⟩] else []) ∧
      (bridge.processI2cEvent index (some bytes)).executions = bridge.executions ++
        if bridge.isBlocked (ipmbNetFnGet (byteAt frame 1)) (byteAt frame 5) then []
        else [⟨index, message⟩] := by
  obtain ⟨signals, handled⟩ := processI2cEvent_request received bridge index isRequest
  cases status : bridge.isBlocked (ipmbNetFnGet (byteAt frame 1)) (byteAt frame 5) with
  | true =>
      have answered : { bridge with signals := signals }.responseTo index frame later cc payload =
          bridge.responseTo index frame later cc payload := by
        rw [responseTo_blocked { bridge with signals := signals } later cc payload status,
          responseTo_blocked bridge later cc payload status]
      rw [handled,
        requestReceived_blocked { bridge with signals := signals } later cc payload status, answered,
        sendResponse_eq _ index responseTo_data_length, if_pos rfl, if_pos rfl, List.append_nil]
      exact ⟨rfl, rfl⟩
  | false =>
      rw [handled, requestReceived_free { bridge with signals := signals } decoded status,
        if_neg Bool.false_ne_true, if_neg Bool.false_ne_true, List.append_nil]
      exact ⟨rfl, rfl⟩

/-- A frame is written again as it was. -/
theorem outgoingDone_written {failed : Bridge count} {position : Nat} {outgoing : Outgoing count}
    {ec : Bool} {written : Sent count}
    (member : written ∈ (failed.outgoingDone position outgoing ec).sent.drop failed.sent.length) :
    written.buffer = outgoing.buffer := by
  unfold Bridge.outgoingDone at member
  dsimp only at member
  split_ifs at member
  · change written ∈ (failed.sent ++ [_]).drop failed.sent.length at member
    rw [List.drop_left, List.mem_singleton] at member
    rw [member]
  · rw [List.drop_length] at member
    cases member

section Received

variable {bytes : List UInt8} (received : Bridge.receiveFrame bytes = some (frame, r))
  (isRequest : ipmbIsResponse frame = false)
  (decoded : IpmbRequest.i2cToIpmbConstruct frame r = some message)

include received isRequest decoded

/-- The bridge emits one frame for a request, however often it is written. -/
theorem emits_eq {buffer : List UInt8}
    (emitted : bridge.Emits index bytes later cc payload buffer) :
    buffer = (bridge.responseTo index frame later cc payload).buffer := by
  obtain ⟨sent, handed⟩ :=
    processI2cEvent_answers bridge later index cc payload received isRequest decoded
  induction emitted with
  | filtered written =>
      rw [sent, List.drop_left] at written
      split_ifs at written
      · rw [List.mem_singleton.mp written]
      · cases written
  | replied member waiting written =>
      rw [handed, List.drop_left] at member
      split_ifs at member with blocked
      · cases member
      · cases List.mem_singleton.mp member
        rw [executeReply_sent _ decoded (Bool.not_eq_true _ ▸ blocked), List.drop_left] at written
        rw [List.mem_singleton.mp written]
  | repeated emitted waiting written again =>
      exact (outgoingDone_written written).trans again

theorem emits_response
    (pending : bridge.isBlocked (ipmbNetFnGet (byteAt frame 1)) (byteAt frame 5) = false →
      ⟨index, message⟩ ∈ later.executions) :
    bridge.Emits index bytes later cc payload
      (bridge.responseTo index frame later cc payload).buffer := by
  obtain ⟨sent, handed⟩ :=
    processI2cEvent_answers bridge later index cc payload received isRequest decoded
  cases status : bridge.isBlocked (ipmbNetFnGet (byteAt frame 1)) (byteAt frame 5) with
  | true =>
      have written : (⟨index, none, (bridge.responseTo index frame later cc payload).buffer⟩ :
          Sent count) ∈ (bridge.processI2cEvent index (some bytes)).sent.drop
            bridge.sent.length := by
        rw [sent, List.drop_left, if_pos status]
        exact List.mem_singleton_self _
      exact .filtered written
  | false =>
      obtain ⟨position, waiting⟩ := List.mem_iff_getElem?.mp (pending status)
      have member : (⟨index, message⟩ : Execution count) ∈
          (bridge.processI2cEvent index (some bytes)).executions.drop
            bridge.executions.length := by
        rw [handed, List.drop_left, if_neg (by rw [status]; exact Bool.false_ne_true)]
        exact List.mem_singleton_self _
      have written : (⟨index, none, (bridge.responseTo index frame later cc payload).buffer⟩ :
          Sent count) ∈ (later.executeReply position ⟨index, message⟩
            (some (message.hostReply cc payload))).sent.drop later.sent.length := by
        rw [executeReply_sent position decoded status, List.drop_left]
        exact List.mem_singleton_self _
      exact .replied member waiting written

/-- All the frames that the bridge emits for a request echo it exactly when its response does. -/
theorem emits_echo_iff
    (pending : bridge.isBlocked (ipmbNetFnGet (byteAt frame 1)) (byteAt frame 5) = false →
      ⟨index, message⟩ ∈ later.executions) :
    (∀ buffer, bridge.Emits index bytes later cc payload buffer → EchoedBy frame buffer) ↔
      EchoedBy frame (bridge.responseTo index frame later cc payload).buffer := by
  constructor
  · intro echoed
    exact echoed _ (emits_response received isRequest decoded pending)
  · intro echoed buffer emits
    rw [emits_eq received isRequest decoded emits]
    exact echoed

end Received

/-- Every frame that the bridge emits for a request echoes it exactly when a blocked or oversize
request names the responder's unit zero and the bytes that the second checksum leaves out of a longer
response cancel out. -/
theorem replies_echo_iff {bytes : List UInt8} (cc : UInt8) (payload : List UInt8)
    (received : Bridge.receiveFrame bytes = some (frame, r))
    (isRequest : ipmbIsResponse frame = false)
    (decoded : IpmbRequest.i2cToIpmbConstruct frame r = some message)
    (pending : bridge.isBlocked message.netFn message.cmd = false →
      ⟨index, message⟩ ∈ later.executions) :
    (∀ buffer, bridge.Emits index bytes later cc payload buffer → EchoedBy frame buffer) ↔
      (bridge.isBlocked message.netFn message.cmd = true ∨ ipmbMaxDataSize < payload.length →
        message.rsLun = 0) ∧
      (bridge.isBlocked message.netFn message.cmd = false →
        251 < payload.length → payload.length ≤ ipmbMaxDataSize →
        (IpmbResponse.uncovered {
          address := message.rqSA
          netFn := ipmbRespNetFn message.netFn
          rqLun := message.rqLun
          rsSA := (later.channels index).ipmbBmcSlaveAddress
          seq := message.seq
          rsLun := message.rsLun
          cmd := message.cmd
          completionCode := cc
          data := payload }).sum = 0) := by
  obtain ⟨netFn, rsLun, rqSA, seq, rqLun, cmd⟩ := IpmbRequest.fields_of_decoded decoded
  rw [netFn, cmd] at pending
  rw [netFn, rsLun, rqSA, seq, rqLun, cmd]
  rw [emits_echo_iff received isRequest decoded pending, IpmbResponse.buffer,
    responseTo_returns.echoedBy_iff isRequest]
  cases status : bridge.isBlocked (ipmbNetFnGet (byteAt frame 1)) (byteAt frame 5) with
  | true =>
      rw [responseTo_blocked bridge later cc payload status,
        and_iff_left (IpmbResponse.frame_valid (Nat.zero_le _))]
      simp only [true_or, forall_const, Bool.true_eq_false, false_imp_iff, and_true]
      exact eq_comm
  | false =>
      rw [responseTo_free status]
      simp only [Bool.false_eq_true, false_or, forall_const]
      by_cases oversize : ipmbMaxDataSize < payload.length
      · have vacuous : ¬payload.length ≤ ipmbMaxDataSize := Nat.not_le_of_lt oversize
        rw [if_pos oversize, if_pos oversize, if_pos oversize,
          and_iff_left (IpmbResponse.frame_valid (Nat.zero_le _))]
        simp only [oversize, vacuous, forall_const, false_imp_iff, implies_true, and_true]
        exact eq_comm
      · rw [if_neg oversize, if_neg oversize, if_neg oversize, IpmbResponse.frame_valid_iff]
        simp only [oversize, false_imp_iff, true_and]
        constructor
        · intro cancels _ _
          exact cancels
        · intro cancels
          by_cases long : 251 < payload.length
          · exact cancels long (Nat.le_of_not_lt oversize)
          · rw [IpmbResponse.uncovered_eq_nil (Nat.le_of_not_lt long), List.sum_nil]

/-- A requester at `0x82` sends a command that the host does not know to the given unit. -/
abbrev unknownCommand (rsLun : UInt8) : List UInt8 :=
  let netFnLun := ipmbNetFnLunSet 0x06 rsLun
  [0x07, 0x20, netFnLun, ipmbChecksumCompute [0x20, netFnLun] 2, 0x82, 0x08, 0x99, 0xdd]

/-- The received command is decoded with its unit. -/
abbrev unknownRequest (rsLun : UInt8) : IpmbRequest where
  address := 0
  netFn := 0x06
  rsLun := rsLun
  rqSA := 0x82
  seq := 2
  rqLun := 0
  cmd := 0x99
  data := []
  timer := false

/-- The handler's view of the command. -/
abbrev unknownFrame (rsLun : UInt8) : List UInt8 × Nat :=
  (Bridge.receiveFrame (unknownCommand rsLun)).getD ([], 0)

/-- The host's reply to a request for unit one echoes it. -/
theorem replies_echo_served :
    ∃ buffer, loneBridge.Emits 0 (unknownCommand 1)
        (loneBridge.processI2cEvent 0 (some (unknownCommand 1))) 0xc1 [] buffer ∧
      EchoedBy (unknownFrame 1).1 buffer := by
  have received : Bridge.receiveFrame (unknownCommand 1) =
      some ((unknownFrame 1).1, (unknownFrame 1).2) := by decide +kernel
  have decoded : IpmbRequest.i2cToIpmbConstruct (unknownFrame 1).1 (unknownFrame 1).2 =
      some (unknownRequest 1) := by decide +kernel
  have pending : (⟨0, unknownRequest 1⟩ : Execution 1) ∈
      (loneBridge.processI2cEvent 0 (some (unknownCommand 1))).executions := by decide +kernel
  have free : loneBridge.isBlocked 0x06 0x99 = false := by decide
  have isRequest : ipmbIsResponse (unknownFrame 1).1 = false := by decide +kernel
  have emitted : loneBridge.Emits 0 (unknownCommand 1)
      (loneBridge.processI2cEvent 0 (some (unknownCommand 1))) 0xc1 [] _ :=
    emits_response received isRequest decoded fun _ => pending
  refine ⟨_, emitted,
    (replies_echo_iff 0xc1 [] received isRequest decoded fun _ => pending).mpr ?_ _ emitted⟩
  constructor
  · rintro (blocked | oversize)
    · cases free.symm.trans blocked
    · cases oversize
  · intro _ long
    cases long

/-- The same command arrives twice, and the host answers it as unknown in between. -/
abbrev filterCommand : List (Event 1) :=
  [.i2cEvent (Fin.last 0) (some (unknownCommand 1)),
    .executeReply 0 (some ((unknownRequest 1).hostReply 0xc1 []))]

/-- The bridge that blocks the command. -/
def filteredBridge : Bridge 1 :=
  (run Bridge.step loneBridge filterCommand).get (by decide +kernel)

/-- The second answer comes from unit zero although the request names unit one. -/
theorem requestReceived_forgets_unit :
    run Bridge.step loneBridge filterCommand = some filteredBridge ∧
      Bridge.receiveFrame (unknownCommand 1) = some (unknownFrame 1) ∧
      ipmbIsResponse (unknownFrame 1).1 = false ∧
      ∃ buffer, filteredBridge.Emits 0 (unknownCommand 1) filteredBridge 0xc1 [] buffer ∧
        ¬EchoedBy (unknownFrame 1).1 buffer := by
  have written : (⟨0, none, [0x08, 0x82, 0x1c, 0x62, 0x20, 0x08, 0x99, 0xc1, 0x7e]⟩ : Sent 1) ∈
      (filteredBridge.processI2cEvent 0 (some (unknownCommand 1))).sent.drop
        filteredBridge.sent.length := by decide +kernel
  refine ⟨(Option.some_get _).symm, by decide +kernel, by decide +kernel, _, .filtered written, ?_⟩
  intro echoed
  exact absurd echoed.rsLun (by decide +kernel)

end Replies

end Chassis.Ipmb
