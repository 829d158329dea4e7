import Chassis.Proof.Bridge.Codec
import Chassis.Proof.Bridge.Sequence
import Mathlib.Data.List.GetD

namespace Chassis.Ipmb
open Automaton

variable {count : Nat}

section Fields

theorem ipmbSeqGet_toNat (seqNumLun : UInt8) :
    (ipmbSeqGet seqNumLun).toNat = seqNumLun.toNat / 4 := by
  simp only [ipmbSeqGet, UInt8.toNat_shiftRight, UInt8.reduceToNat, Nat.reduceMod,
    Nat.shiftRight_eq_div_pow, Nat.reducePow]

theorem ipmbLunFromSeqLunGet_toNat (seqNumLun : UInt8) :
    (ipmbLunFromSeqLunGet seqNumLun).toNat = seqNumLun.toNat % 4 := by
  simp only [ipmbLunFromSeqLunGet, ipmbLunMask, UInt8.toNat_and, UInt8.reduceToNat]
  exact Nat.and_two_pow_sub_one_eq_mod _ 2

/-- A byte that packs a number and a unit is decoded to both. -/
theorem seqLun_decoded {seqLun seq lun : UInt8} (packed : seqLun.toNat = 4 * seq.toNat + lun.toNat)
    (bounded : lun.toNat < 4) :
    ipmbSeqGet seqLun = seq ∧ ipmbLunFromSeqLunGet seqLun = lun := by
  constructor
  · apply UInt8.toNat.inj
    rw [ipmbSeqGet_toNat]
    omega
  · apply UInt8.toNat.inj
    rw [ipmbLunFromSeqLunGet_toNat]
    omega

/-- The net function of a response is one more than the even one of its request. -/
theorem ipmbRespNetFn_toNat {netFn : UInt8} (even : netFn.toNat % 2 = 0) :
    (ipmbRespNetFn netFn).toNat = netFn.toNat + 1 := by
  have low : (netFn.toNat / 2 * 2 ^ 1) ||| 1 = netFn.toNat / 2 * 2 ^ 1 + 1 := by
    rw [← Nat.shiftLeft_eq, Nat.shiftLeft_add_eq_or_of_lt (by decide)]
  rw [show netFn.toNat / 2 * 2 ^ 1 = netFn.toNat by omega] at low
  simp only [ipmbRespNetFn, UInt8.toNat_or, UInt8.reduceToNat]
  exact low

theorem ipmbIsResponse_iff (frame : List UInt8) :
    ipmbIsResponse frame = true ↔ (ipmbNetFnGet (byteAt frame 1)).toNat % 2 = 1 := by
  unfold ipmbIsResponse
  rw [bne_iff_ne, ne_eq, ← UInt8.toNat_inj, UInt8.toNat_and]
  change ¬(ipmbNetFnGet (byteAt frame 1)).toNat &&& 1 = 0 ↔ _
  rw [Nat.and_one_is_mod]
  omega

end Fields

section Reception

theorem byteAt_append {frame : List UInt8} {index : Nat} (inside : index < frame.length)
    (padding : List UInt8) : byteAt (frame ++ padding) index = byteAt frame index :=
  List.getD_append _ _ _ _ inside

/-- The handler sees a frame of the driver followed by the rest of its buffer. -/
theorem receiveFrame_of_frame {frame : List UInt8} (valid : ChecksumsValid frame)
    (long : ipmbMinFrameLength ≤ frame.length) (short : frame.length ≤ 255) (lengthByte : UInt8) :
    ∃ padding, Bridge.receiveFrame (lengthByte :: frame) = some (frame ++ padding, frame.length) := by
  have whole : (lengthByte :: frame).take ipmbMaxFrameLength = lengthByte :: frame := by
    apply List.take_of_length_le
    change frame.length + 1 ≤ 265
    omega
  have least : ipmbMinFrameLength = 7 := rfl
  have most : ipmbMaxFrameLength = 265 := rfl
  have fits : ¬(frame.length < ipmbMinFrameLength ∨ frame.length > ipmbMaxFrameLength) := by omega
  have accepted := isFrameValid_of_checksums valid (show 3 ≤ frame.length by omega) short
    (List.replicate (ipmbMaxFrameLength - (frame.length + 1)) 0)
  refine ⟨List.replicate (ipmbMaxFrameLength - (frame.length + 1)) 0, ?_⟩
  unfold Bridge.receiveFrame
  rw [whole]
  exact (if_neg fits).trans (if_neg (Bool.not_eq_false _ ▸ accepted))

/-- A frame that holds both headers and a checksum is decoded as a request. -/
theorem IpmbRequest.i2cToIpmbConstruct_of_long {frame : List UInt8} {r : Nat}
    (long : ipmbMinFrameLength ≤ r) (inside : r ≤ frame.length) (small : r < 2 ^ 32) :
    ∃ message, IpmbRequest.i2cToIpmbConstruct frame r = some message := by
  have least : ipmbMinFrameLength = 7 := rfl
  have size : sizeSub r
      (ipmbConnectionHeaderLength + ipmbRequestDataHeaderLength + ipmbChecksumSize) = r - 7 := by
    change sizeSub r 7 = r - 7
    exact sizeSub_of_le long (by omega)
  have copied : copyData frame 6 (r - 7) = some ((frame.drop 6).take (r - 7)) := by
    unfold copyData
    rw [if_pos (by omega)]
  unfold IpmbRequest.i2cToIpmbConstruct
  rw [size]
  dsimp only
  rw [copied]
  exact ⟨_, rfl⟩

/-- The announcement of a frame that can be decoded only adds a signal. -/
theorem announce_eq (bridge : Bridge count) (index : Fin count) {frame : List UInt8} {r : Nat}
    {message : IpmbRequest} (decoded : IpmbRequest.i2cToIpmbConstruct frame r = some message) :
    ∃ signals, bridge.announce index frame r = { bridge with signals := signals } := by
  unfold Bridge.announce
  rw [decoded]
  split_ifs
  · exact ⟨_, rfl⟩
  · exact ⟨bridge.signals, rfl⟩

end Reception

section Echo

/-- The addressed device answers a request with the given completion code and data. -/
structure IpmbRequest.Echoes (request : IpmbRequest) (completionCode : UInt8)
    (data frame : List UInt8) : Prop where
  rqSA : byteAt frame 0 = request.rqSA
  netFnLun : (byteAt frame 1).toNat = 4 * (request.netFn.toNat + 1) + request.rqLun.toNat
  rsSA : byteAt frame 3 = request.address
  seqLun : (byteAt frame 4).toNat = 4 * request.seq.toNat + request.rsLun.toNat
  cmd : byteAt frame 5 = request.cmd
  completionCode : byteAt frame 6 = completionCode
  data : (frame.drop 7).dropLast = data
  checksums : ChecksumsValid frame
  long : 8 ≤ frame.length
  short : frame.length ≤ 255

/-- The response that a request gets when the addressed device answers it. -/
def IpmbRequest.echo (request : IpmbRequest) (completionCode : UInt8) (data : List UInt8) :
    IpmbResponse where
  address := 0
  netFn := ipmbRespNetFn request.netFn
  rqLun := request.rqLun
  rsSA := request.address
  seq := request.seq
  rsLun := request.rsLun
  cmd := request.cmd
  completionCode := completionCode
  data := data

variable {request : IpmbRequest} {completionCode : UInt8} {data frame : List UInt8}

/-- The decoder swaps the roles of the two units back. -/
theorem IpmbRequest.Echoes.decoded (echoes : request.Echoes completionCode data frame)
    (even : request.netFn.toNat % 2 = 0) (rqLun : request.rqLun.toNat < 4)
    (rsLun : request.rsLun.toNat < 4) (padding : List UInt8) :
    IpmbResponse.i2cToIpmbConstruct (frame ++ padding) frame.length =
      some (request.echo completionCode data) := by
  have long := echoes.long
  have short := echoes.short
  have size : sizeSub frame.length
      (ipmbConnectionHeaderLength + ipmbResponseDataHeaderLength + ipmbChecksumSize) =
      frame.length - 8 := by
    change sizeSub frame.length 8 = frame.length - 8
    exact sizeSub_of_le long (by omega)
  have copied : copyData (frame ++ padding) 7 (frame.length - 8) = some data := by
    unfold copyData
    rw [if_pos (by rw [List.length_append]; omega), List.drop_append_of_le_length (by omega),
      List.take_append_of_le_length (by rw [List.length_drop]; omega), ← echoes.data,
      List.dropLast_eq_take, List.length_drop]
    rfl
  have packed : (byteAt frame 1).toNat =
      4 * (ipmbRespNetFn request.netFn).toNat + request.rqLun.toNat := by
    rw [ipmbRespNetFn_toNat even]
    exact echoes.netFnLun
  have netFnLun := seqLun_decoded packed rqLun
  have seqLun := seqLun_decoded echoes.seqLun rsLun
  unfold IpmbResponse.i2cToIpmbConstruct
  rw [size]
  dsimp only
  rw [copied, Option.map_some, byteAt_append (by omega), byteAt_append (by omega),
    byteAt_append (by omega), byteAt_append (by omega), byteAt_append (by omega), echoes.rsSA,
    echoes.cmd, echoes.completionCode, seqLun.1, seqLun.2]
  rw [show ipmbNetFnGet (byteAt frame 1) = _ from netFnLun.1,
    show ipmbLunFromNetFnLunGet (byteAt frame 1) = _ from netFnLun.2]
  rfl

theorem matchesRequest_echo (request : IpmbRequest) (completionCode : UInt8)
    (data : List UInt8) :
    Bridge.matchesRequest request (request.echo completionCode data) = true := by
  unfold Bridge.matchesRequest IpmbRequest.echo
  simp only [BEq.rfl, Bool.and_self]

/-- A matching response changes nothing but the call that holds its slot. -/
theorem responseMatch_matched {bridge : Bridge count} {index : Fin count} {call : Nat}
    {response : IpmbResponse}
    (held : (bridge.channels index).outstandingRequests (slotOf response.seq) = some call)
    (agrees : Bridge.matchesRequest (bridge.heap call) response = true) :
    (bridge.responseMatch index response).heap = Function.update bridge.heap call
        { bridge.heap call with state := .matched, matchedResponse := some response } ∧
      (bridge.responseMatch index response).channels = bridge.channels ∧
      (bridge.responseMatch index response).fault = bridge.fault := by
  unfold Bridge.responseMatch
  rw [held]
  dsimp only
  rw [if_pos agrees]
  unfold Bridge.cancelTimer
  split
  · split
    · exact ⟨rfl, rfl, rfl⟩
    · exact ⟨rfl, rfl, rfl⟩
  · exact ⟨rfl, rfl, rfl⟩

/-- In every reachable bridge a conforming answer to an outstanding request is kept for its call with
its completion code and data, and nothing else in the tables changes. -/
theorem echo_matched (channels : Fin count → IpmbChannel) {bridge : Bridge count}
    (reachable : Reachable Bridge.step (.initial channels) bridge) {index : Fin count}
    {slot : Fin ipmbMaxOutstandingRequestsCount} {call : Nat}
    (held : (bridge.channels index).outstandingRequests slot = some call)
    (even : (bridge.heap call).netFn.toNat % 2 = 0) (rqLun : (bridge.heap call).rqLun.toNat < 4)
    (lengthByte : UInt8)
    (echoes : (bridge.heap call).Echoes completionCode data frame) :
    (bridge.processI2cEvent index (some (lengthByte :: frame))).heap =
        Function.update bridge.heap call { bridge.heap call with
          state := .matched
          matchedResponse := some ((bridge.heap call).echo completionCode data) } ∧
      (bridge.processI2cEvent index (some (lengthByte :: frame))).channels = bridge.channels ∧
      (bridge.processI2cEvent index (some (lengthByte :: frame))).fault = bridge.fault := by
  have least : ipmbMinFrameLength = 7 := rfl
  have long := echoes.long
  have short := echoes.short
  obtain ⟨_, rsLun⟩ := reachable_numbered reachable index slot call held
  have rsLun : (bridge.heap call).rsLun.toNat < 4 := by
    rw [show (bridge.heap call).rsLun = ipmbRsLun from rsLun]
    decide
  obtain ⟨padding, received⟩ :=
    receiveFrame_of_frame echoes.checksums (by omega) short lengthByte
  have decoded := echoes.decoded even rqLun rsLun padding
  have isResponse : ipmbIsResponse (frame ++ padding) = true := by
    rw [ipmbIsResponse_iff, byteAt_append (by omega)]
    change (ipmbSeqGet (byteAt frame 1)).toNat % 2 = 1
    rw [ipmbSeqGet_toNat, echoes.netFnLun]
    omega
  obtain ⟨message, announced⟩ := IpmbRequest.i2cToIpmbConstruct_of_long
    (show ipmbMinFrameLength ≤ frame.length by omega)
    (show frame.length ≤ (frame ++ padding).length by rw [List.length_append]; omega) (by omega)
  obtain ⟨signals, announced⟩ := announce_eq bridge index announced
  have handled : bridge.processI2cEvent index (some (lengthByte :: frame)) =
      { bridge with signals := signals }.responseMatch index
        ((bridge.heap call).echo completionCode data) := by
    unfold Bridge.processI2cEvent
    rw [Option.bind_some, received]
    dsimp only
    rw [if_pos isResponse, decoded, announced]
  have place : slotOf (bridge.heap call).seq = slot := by
    obtain ⟨_, _, _, place, _⟩ := (reachable_sound reachable).owned index slot call held
    exact place
  rw [handled]
  exact responseMatch_matched (place.symm ▸ held) (matchesRequest_echo _ _ _)

/-- The device `0x82` answers a Get Device ID request of a waiting call with one byte of data. -/
abbrev deviceIdEcho : List UInt8 := [0x20, 0x1c, 0xc4, 0x82, 0x04, 0x01, 0x00, 0x20, 0x59]

/-- The waiting call keeps the answer of its device. -/
theorem echo_matched_waiting :
    ((waitingBridge.processI2cEvent 0 (some (9 :: deviceIdEcho))).heap 0).matchedResponse =
      some ((waitingBridge.heap 0).echo 0 [0x20]) := by
  have reachable : Reachable Bridge.step loneBridge waitingBridge :=
    reach_of_run waitingBridge_run fun _ _ _ => trivial
  have owner : (waitingBridge.channels 0).outstandingRequests 1 = some 0 := by decide +kernel
  have echoes : (waitingBridge.heap 0).Echoes 0 [0x20] deviceIdEcho :=
    { rqSA := by decide +kernel
      netFnLun := by decide +kernel
      rsSA := by decide +kernel
      seqLun := by decide +kernel
      cmd := by decide +kernel
      completionCode := by decide +kernel
      data := by decide +kernel
      checksums := by constructor <;> decide +kernel
      long := by decide
      short := by decide }
  have kept := echo_matched _ reachable owner (by decide +kernel) (by decide +kernel) 9 echoes
  rw [kept.1, Function.update_self]

end Echo

end Chassis.Ipmb
