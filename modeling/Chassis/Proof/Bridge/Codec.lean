import Chassis.Proof.Bridge.Frames
import Mathlib.Algebra.BigOperators.Group.List.Basic

namespace Chassis.Ipmb

section Checksums

/-- Each checksum of a frame makes the bytes that it closes sum to zero. -/
def ChecksumsValid (frame : List UInt8) : Prop :=
  (frame.take ipmbConnectionHeaderLength).sum = 0 ∧
    (frame.drop ipmbConnectionHeaderLength).sum = 0

theorem checksumOf_eq (data : List UInt8) (length : UInt8) :
    checksumOf data length = (data.take length.toNat).sum := List.sum_eq_foldl.symm

/-- The computed byte closes the bytes that it was computed over and leaves the others. -/
theorem sum_ipmbChecksumCompute (bytes : List UInt8) (length : UInt8) :
    (bytes ++ [ipmbChecksumCompute bytes length]).sum = (bytes.drop length.toNat).sum := by
  have parts := List.sum_take_add_sum_drop bytes length.toNat
  rw [List.sum_append, List.sum_singleton, ipmbChecksumCompute, checksumOf_eq,
    ← UInt8.neg_eq_not_add, ← parts]
  exact add_neg_cancel_comm _ _

theorem sum_ipmbChecksumCompute_whole {bytes : List UInt8} {length : UInt8}
    (whole : length.toNat = bytes.length) :
    (bytes ++ [ipmbChecksumCompute bytes length]).sum = 0 := by
  rw [sum_ipmbChecksumCompute, whole, List.drop_length, List.sum_nil]

theorem isFrameValid_iff (frame : List UInt8) (length : UInt8) :
    isFrameValid frame length = true ↔ (frame.take ipmbConnectionHeaderLength).sum = 0 ∧
      ((frame.drop ipmbConnectionHeaderLength).take
        (length - UInt8.ofNat ipmbConnectionHeaderLength).toNat).sum = 0 := by
  have header : (UInt8.ofNat ipmbConnectionHeaderLength).toNat = ipmbConnectionHeaderLength := by
    decide
  unfold isFrameValid ipmbConnectionHeaderChecksumValidate ipmbDataChecksumValidate
    ipmbChecksumValidate
  simp only [checksumOf_eq, header, beq_eq_false_iff_ne, ne_eq, ite_not]
  split_ifs with connection
  · simp only [connection, true_and, beq_iff_eq]
  · simp only [connection, false_and]

/-- A frame whose length has eight bits passes the test with its own length. -/
theorem isFrameValid_of_checksums {frame : List UInt8} (valid : ChecksumsValid frame)
    (long : ipmbConnectionHeaderLength ≤ frame.length) (short : frame.length ≤ 255)
    (padding : List UInt8) :
    isFrameValid (frame ++ padding) (UInt8.ofNat frame.length) = true := by
  have rest : (UInt8.ofNat frame.length - UInt8.ofNat ipmbConnectionHeaderLength).toNat =
      (frame.drop ipmbConnectionHeaderLength).length := by
    have header : (UInt8.ofNat ipmbConnectionHeaderLength).toNat = ipmbConnectionHeaderLength := by
      decide
    have whole : (UInt8.ofNat frame.length).toNat = frame.length :=
      Nat.mod_eq_of_lt (by omega)
    rw [UInt8.toNat_sub_of_le _ _ (UInt8.le_iff_toNat_le.mpr (by omega)), header, whole,
      List.length_drop]
  rw [isFrameValid_iff, rest, List.take_append_of_le_length long,
    List.drop_append_of_le_length long, List.take_left]
  exact valid

end Checksums

section Fields

/-- The unit of a request survives its encoding. -/
theorem ipmbLunFromSeqLunGet_seqLunSet {lun : UInt8} (bounded : lun.toNat < 4) (seq : UInt8) :
    ipmbLunFromSeqLunGet (ipmbSeqLunSet seq lun) = lun := by
  have high : seq.toNat * 4 % 256 % 2 ^ 2 = 0 := by omega
  apply UInt8.toNat.inj
  simp only [ipmbLunFromSeqLunGet, ipmbSeqLunSet, ipmbLunMask, UInt8.toNat_or,
    UInt8.toNat_shiftLeft, UInt8.toNat_and, UInt8.reduceToNat, Nat.shiftLeft_eq, Nat.reduceMod,
    Nat.reducePow]
  rw [Nat.and_or_distrib_right, Nat.and_two_pow_sub_one_eq_mod _ 2,
    Nat.and_two_pow_sub_one_eq_mod _ 2, Nat.and_two_pow_sub_one_eq_mod _ 2, high, Nat.zero_or]
  omega

/-- Both bytes pack their fields in the same way. -/
theorem ipmbNetFnGet_netFnLunSet {netFn : UInt8} (bounded : netFn.toNat < 64) (lun : UInt8) :
    ipmbNetFnGet (ipmbNetFnLunSet netFn lun) = netFn := ipmbSeqGet_seqLunSet bounded lun

theorem ipmbLunFromNetFnLunGet_netFnLunSet {lun : UInt8} (bounded : lun.toNat < 4)
    (netFn : UInt8) : ipmbLunFromNetFnLunGet (ipmbNetFnLunSet netFn lun) = lun :=
  ipmbLunFromSeqLunGet_seqLunSet bounded netFn

/-- A subtraction that does not wrap around is the usual one. -/
theorem sizeSub_of_le {left right : Nat} (le : right ≤ left) (small : left < 2 ^ 64) :
    sizeSub left right = left - right := by
  unfold sizeSub
  rw [show left + 2 ^ 64 - right = left - right + 2 ^ 64 by omega, Nat.add_mod_right]
  exact Nat.mod_eq_of_lt (by omega)

end Fields

section Decoding

variable (first netFnLun checksum source seqLun cmd : UInt8) (data rest : List UInt8)

/-- The decoder of requests reads six bytes before the data. -/
theorem IpmbRequest.i2cToIpmbConstruct_frame (small : data.length < 2 ^ 32) (last : UInt8) :
    IpmbRequest.i2cToIpmbConstruct
      ([first, netFnLun, checksum, source, seqLun, cmd] ++ (data ++ last :: rest))
      (data.length + 7) = some {
        address := 0
        netFn := ipmbNetFnGet netFnLun
        rsLun := ipmbLunFromNetFnLunGet netFnLun
        rqSA := source
        seq := ipmbSeqGet seqLun
        rqLun := ipmbLunFromSeqLunGet seqLun
        cmd := cmd
        data := data
        timer := false } := by
  have size : sizeSub (data.length + 7)
      (ipmbConnectionHeaderLength + ipmbRequestDataHeaderLength + ipmbChecksumSize) =
      data.length := by
    change sizeSub (data.length + 7) 7 = data.length
    rw [sizeSub_of_le (Nat.le_add_left 7 _) (by omega), Nat.add_sub_cancel]
  unfold IpmbRequest.i2cToIpmbConstruct
  rw [size]
  dsimp only
  have copied : copyData ([first, netFnLun, checksum, source, seqLun, cmd] ++ (data ++ last :: rest))
      6 data.length = some data := by
    unfold copyData
    rw [if_pos (by simp only [List.length_append, List.length_cons]; omega)]
    exact congrArg some List.take_left
  rw [copied]
  rfl

/-- The decoder of responses reads seven bytes before the data. -/
theorem IpmbResponse.i2cToIpmbConstruct_frame (completionCode : UInt8)
    (small : data.length < 2 ^ 32) (last : UInt8) :
    IpmbResponse.i2cToIpmbConstruct
      ([first, netFnLun, checksum, source, seqLun, cmd, completionCode] ++ (data ++ last :: rest))
      (data.length + 8) = some {
        address := 0
        netFn := ipmbNetFnGet netFnLun
        rqLun := ipmbLunFromNetFnLunGet netFnLun
        rsSA := source
        seq := ipmbSeqGet seqLun
        rsLun := ipmbLunFromSeqLunGet seqLun
        cmd := cmd
        completionCode := completionCode
        data := data } := by
  have size : sizeSub (data.length + 8)
      (ipmbConnectionHeaderLength + ipmbResponseDataHeaderLength + ipmbChecksumSize) =
      data.length := by
    change sizeSub (data.length + 8) 8 = data.length
    rw [sizeSub_of_le (Nat.le_add_left 8 _) (by omega), Nat.add_sub_cancel]
  unfold IpmbResponse.i2cToIpmbConstruct
  rw [size]
  dsimp only
  have copied : copyData
      ([first, netFnLun, checksum, source, seqLun, cmd, completionCode] ++ (data ++ last :: rest))
      7 data.length = some data := by
    unfold copyData
    rw [if_pos (by simp only [List.length_append, List.length_cons]; omega)]
    exact congrArg some List.take_left
  rw [copied]
  rfl

end Decoding

section Encoding

/-- The frame of a request follows its length byte. -/
def IpmbRequest.frame (request : IpmbRequest) : List UInt8 :=
  let connection := [request.address, ipmbNetFnLunSet request.netFn request.rsLun]
  let header := [request.rqSA, ipmbSeqLunSet request.seq request.rqLun, request.cmd]
  connection ++ ipmbChecksumCompute connection 2 :: header ++ (request.data ++
    [ipmbChecksumCompute (header ++ request.data) (UInt8.ofNat (3 + request.data.length))])

/-- The frame of a response follows its length byte. -/
def IpmbResponse.frame (response : IpmbResponse) : List UInt8 :=
  let connection := [response.address, ipmbNetFnLunSet response.netFn response.rqLun]
  let header := [response.rsSA, ipmbSeqLunSet response.seq response.rsLun, response.cmd,
    response.completionCode]
  connection ++ ipmbChecksumCompute connection 2 :: header ++ (response.data ++
    [ipmbChecksumCompute (header ++ response.data) (UInt8.ofNat (4 + response.data.length))])

theorem IpmbRequest.frame_length (request : IpmbRequest) :
    request.frame.length = request.data.length + 7 := by
  simp only [IpmbRequest.frame, List.length_append, List.length_cons, List.length_nil]
  omega

theorem IpmbResponse.frame_length (response : IpmbResponse) :
    response.frame.length = response.data.length + 8 := by
  simp only [IpmbResponse.frame, List.length_append, List.length_cons, List.length_nil]
  omega

theorem IpmbRequest.buffer_eq {request : IpmbRequest} {buffer : List UInt8}
    (encoded : request.ipmbToi2cConstruct = some buffer) :
    buffer = UInt8.ofNat (request.data.length + 7) :: request.frame := by
  have length : 1 + request.data.length + ipmbRequestDataHeaderLength +
      ipmbConnectionHeaderLength + ipmbChecksumSize - 1 = request.data.length + 7 := by
    change 1 + request.data.length + 3 + 3 + 1 - 1 = request.data.length + 7
    omega
  unfold IpmbRequest.ipmbToi2cConstruct at encoded
  dsimp only at encoded
  split_ifs at encoded
  rw [length] at encoded
  exact (Option.some.inj encoded).symm

theorem IpmbResponse.buffer_eq {response : IpmbResponse} {buffer : List UInt8}
    (encoded : response.ipmbToi2cConstruct = some buffer) :
    buffer = UInt8.ofNat (response.data.length + 8) :: response.frame := by
  have length : 1 + response.data.length + ipmbResponseDataHeaderLength +
      ipmbConnectionHeaderLength + ipmbChecksumSize - 1 = response.data.length + 8 := by
    change 1 + response.data.length + 4 + 3 + 1 - 1 = response.data.length + 8
    omega
  unfold IpmbResponse.ipmbToi2cConstruct at encoded
  dsimp only at encoded
  split_ifs at encoded
  rw [length] at encoded
  exact (Option.some.inj encoded).symm

/-- The second checksum of a request covers at most 255 bytes. -/
theorem IpmbRequest.frame_valid {request : IpmbRequest} (short : request.data.length ≤ 252) :
    ChecksumsValid request.frame := by
  have connection : ([request.address, ipmbNetFnLunSet request.netFn request.rsLun] ++
      [ipmbChecksumCompute [request.address, ipmbNetFnLunSet request.netFn request.rsLun] 2]).sum =
      0 := sum_ipmbChecksumCompute_whole rfl
  have whole : (UInt8.ofNat (3 + request.data.length)).toNat =
      ([request.rqSA, ipmbSeqLunSet request.seq request.rqLun, request.cmd] ++
        request.data).length := by
    rw [UInt8.toNat_ofNat_of_lt' (by change _ < 256; omega)]
    simp only [List.length_append, List.length_cons, List.length_nil]
  exact ⟨connection, sum_ipmbChecksumCompute_whole whole⟩

/-- The bytes of a response that its second checksum does not cover. -/
def IpmbResponse.uncovered (response : IpmbResponse) : List UInt8 :=
  ([response.rsSA, ipmbSeqLunSet response.seq response.rsLun, response.cmd,
    response.completionCode] ++ response.data).drop ((4 + response.data.length) % 256)

theorem IpmbResponse.uncovered_eq_nil {response : IpmbResponse}
    (short : response.data.length ≤ 251) : response.uncovered = [] := by
  unfold IpmbResponse.uncovered
  rw [Nat.mod_eq_of_lt (by omega), List.drop_eq_nil_of_le]
  simp only [List.length_append, List.length_cons, List.length_nil]
  omega

/-- The second checksum of a response is valid when the bytes that it does not cover cancel out. -/
theorem IpmbResponse.frame_valid_iff (response : IpmbResponse) :
    ChecksumsValid response.frame ↔ response.uncovered.sum = 0 := by
  have connection : ([response.address, ipmbNetFnLunSet response.netFn response.rqLun] ++
      [ipmbChecksumCompute [response.address,
        ipmbNetFnLunSet response.netFn response.rqLun] 2]).sum = 0 :=
    sum_ipmbChecksumCompute_whole rfl
  have body := sum_ipmbChecksumCompute ([response.rsSA, ipmbSeqLunSet response.seq response.rsLun,
    response.cmd, response.completionCode] ++ response.data)
    (UInt8.ofNat (4 + response.data.length))
  rw [UInt8.toNat_ofNat'] at body
  exact ⟨fun valid => body.symm.trans valid.2, fun rest => ⟨connection, body.trans rest⟩⟩

theorem IpmbResponse.frame_valid {response : IpmbResponse} (short : response.data.length ≤ 251) :
    ChecksumsValid response.frame := by
  rw [IpmbResponse.frame_valid_iff, IpmbResponse.uncovered_eq_nil short, List.sum_nil]

end Encoding

section RoundTrip

/-- The net function and the number have six bits, and both units have two. -/
def IpmbRequest.InRange (request : IpmbRequest) : Prop :=
  request.netFn.toNat < 64 ∧ request.seq.toNat < 64 ∧ request.rsLun.toNat < 4 ∧
    request.rqLun.toNat < 4

def IpmbResponse.InRange (response : IpmbResponse) : Prop :=
  response.netFn.toNat < 64 ∧ response.seq.toNat < 64 ∧ response.rqLun.toNat < 4 ∧
    response.rsLun.toNat < 4

/-- The length byte is right, the frame is accepted with that length, and it is decoded to the same
fields. -/
structure IpmbRequest.RoundTrips (request : IpmbRequest) (buffer : List UInt8) : Prop where
  length : (byteAt buffer 0).toNat = (buffer.drop 1).length
  valid : isFrameValid (buffer.drop 1) (UInt8.ofNat (buffer.drop 1).length) = true
  decoded : ∃ received,
    IpmbRequest.i2cToIpmbConstruct (buffer.drop 1) (buffer.drop 1).length = some received ∧
      received.netFn = request.netFn ∧ received.rsLun = request.rsLun ∧
      received.rqSA = request.rqSA ∧ received.seq = request.seq ∧
      received.rqLun = request.rqLun ∧ received.cmd = request.cmd ∧ received.data = request.data

structure IpmbResponse.RoundTrips (response : IpmbResponse) (buffer : List UInt8) : Prop where
  length : (byteAt buffer 0).toNat = (buffer.drop 1).length
  valid : isFrameValid (buffer.drop 1) (UInt8.ofNat (buffer.drop 1).length) = true
  decoded : ∃ received,
    IpmbResponse.i2cToIpmbConstruct (buffer.drop 1) (buffer.drop 1).length = some received ∧
      received.netFn = response.netFn ∧ received.rqLun = response.rqLun ∧
      received.rsSA = response.rsSA ∧ received.seq = response.seq ∧
      received.rsLun = response.rsLun ∧ received.cmd = response.cmd ∧
      received.completionCode = response.completionCode ∧ received.data = response.data

theorem IpmbRequest.roundTrips_iff {request : IpmbRequest} {buffer : List UInt8}
    (inRange : request.InRange) (encoded : request.ipmbToi2cConstruct = some buffer) :
    request.RoundTrips buffer ↔ request.data.length ≤ 248 := by
  obtain ⟨netFn, seq, rsLun, rqLun⟩ := inRange
  have length := request.frame_length
  rw [IpmbRequest.buffer_eq encoded]
  constructor
  · intro trips
    have wrapped : (request.data.length + 7) % 256 = request.frame.length := trips.length
    omega
  · intro short
    refine ⟨?_, ?_, ?_⟩
    · change (request.data.length + 7) % 256 = request.frame.length
      omega
    · have valid := isFrameValid_of_checksums (request.frame_valid (by omega))
        (show 3 ≤ request.frame.length by omega) (by omega) []
      rwa [List.append_nil] at valid
    · rw [List.drop_one, List.tail_cons, length]
      exact ⟨_, IpmbRequest.i2cToIpmbConstruct_frame _ _ _ _ _ _ request.data [] (by omega) _,
        ipmbNetFnGet_netFnLunSet netFn _, ipmbLunFromNetFnLunGet_netFnLunSet rsLun _, rfl,
        ipmbSeqGet_seqLunSet seq _, ipmbLunFromSeqLunGet_seqLunSet rqLun _, rfl, rfl⟩

theorem IpmbResponse.roundTrips_iff {response : IpmbResponse} {buffer : List UInt8}
    (inRange : response.InRange) (encoded : response.ipmbToi2cConstruct = some buffer) :
    response.RoundTrips buffer ↔ response.data.length ≤ 247 := by
  obtain ⟨netFn, seq, rqLun, rsLun⟩ := inRange
  have length := response.frame_length
  rw [IpmbResponse.buffer_eq encoded]
  constructor
  · intro trips
    have wrapped : (response.data.length + 8) % 256 = response.frame.length := trips.length
    omega
  · intro short
    refine ⟨?_, ?_, ?_⟩
    · change (response.data.length + 8) % 256 = response.frame.length
      omega
    · have valid := isFrameValid_of_checksums (response.frame_valid (by omega))
        (show 3 ≤ response.frame.length by omega) (by omega) []
      rwa [List.append_nil] at valid
    · rw [List.drop_one, List.tail_cons, length]
      exact ⟨_, IpmbResponse.i2cToIpmbConstruct_frame _ _ _ _ _ _ response.data [] _ (by omega) _,
        ipmbNetFnGet_netFnLunSet netFn _, ipmbLunFromNetFnLunGet_netFnLunSet rqLun _, rfl,
        ipmbSeqGet_seqLunSet seq _, ipmbLunFromSeqLunGet_seqLunSet rsLun _, rfl, rfl, rfl⟩

/-- A frame that can be encoded survives the wire exactly when its length fits in the length byte. -/
theorem frame_roundTrips_iff (request : IpmbRequest) (response : IpmbResponse) :
    (∀ buffer, request.InRange → request.ipmbToi2cConstruct = some buffer →
        (request.RoundTrips buffer ↔ request.data.length ≤ 248)) ∧
      ∀ buffer, response.InRange → response.ipmbToi2cConstruct = some buffer →
        (response.RoundTrips buffer ↔ response.data.length ≤ 247) :=
  ⟨fun _ inRange encoded => IpmbRequest.roundTrips_iff inRange encoded,
    fun _ inRange encoded => IpmbResponse.roundTrips_iff inRange encoded⟩

/-- A Get Device ID request with the given data is sent to `0x82` with number one. -/
abbrev deviceIdMessage (data : List UInt8) : IpmbRequest where
  address := 0x82
  netFn := 0x06
  rsLun := 0
  rqSA := 0x20
  seq := 1
  rqLun := 0
  cmd := 0x01
  data := data

theorem deviceIdMessage_inRange (data : List UInt8) : (deviceIdMessage data).InRange := by
  change (0x06 : UInt8).toNat < 64 ∧ (1 : UInt8).toNat < 64 ∧ (0 : UInt8).toNat < 4 ∧
    (0 : UInt8).toNat < 4
  decide

theorem deviceIdMessage_encoded {data : List UInt8} (admitted : data.length ≤ 257) :
    ∃ buffer, (deviceIdMessage data).ipmbToi2cConstruct = some buffer := by
  apply Option.ne_none_iff_exists'.mp
  intro refused
  have long : 257 < data.length := (ipmbToi2cConstruct_eq_none _).mp refused
  omega

/-- The response to a Get Device ID request carries no data. -/
abbrev deviceIdReply : IpmbResponse where
  address := 0x20
  netFn := 0x07
  rqLun := 0
  rsSA := 0x82
  seq := 1
  rsLun := 0
  cmd := 0x01
  completionCode := 0
  data := []

/-- The longest request that survives the wire has 248 bytes of data, and a response survives it. -/
theorem frame_roundTrips_longest :
    (∃ buffer, (deviceIdMessage (List.replicate 248 0)).ipmbToi2cConstruct = some buffer ∧
        (deviceIdMessage (List.replicate 248 0)).RoundTrips buffer) ∧
      ∃ buffer, deviceIdReply.ipmbToi2cConstruct = some buffer ∧ deviceIdReply.RoundTrips buffer := by
  have trips := frame_roundTrips_iff (deviceIdMessage (List.replicate 248 0)) deviceIdReply
  have length : (List.replicate 248 (0 : UInt8)).length = 248 := List.length_replicate
  obtain ⟨buffer, encoded⟩ :=
    deviceIdMessage_encoded (show (List.replicate 248 (0 : UInt8)).length ≤ 257 by rw [length]; decide)
  have inRange := deviceIdMessage_inRange (List.replicate 248 0)
  exact ⟨⟨buffer, encoded, (trips.1 _ inRange encoded).mpr length.le⟩,
    _, rfl, (trips.2 _ (by unfold IpmbResponse.InRange; decide) rfl).mpr (by decide)⟩

/-- One more byte is still encoded, and its length byte says that nothing follows. -/
theorem ipmbToi2cConstruct_wraps_length :
    ∃ buffer, (deviceIdMessage (List.replicate 249 0)).ipmbToi2cConstruct = some buffer ∧
      (deviceIdMessage (List.replicate 249 0)).InRange ∧ byteAt buffer 0 = 0 ∧
      (buffer.drop 1).length = 256 ∧
      ¬(deviceIdMessage (List.replicate 249 0)).RoundTrips buffer := by
  have length : (List.replicate 249 (0 : UInt8)).length = 249 := List.length_replicate
  obtain ⟨buffer, encoded⟩ :=
    deviceIdMessage_encoded (show (List.replicate 249 (0 : UInt8)).length ≤ 257 by rw [length]; decide)
  have lengthByte : byteAt buffer 0 = 0 := by
    rw [IpmbRequest.buffer_eq encoded]
    change UInt8.ofNat ((List.replicate 249 (0 : UInt8)).length + 7) = 0
    rw [length]
    decide
  have follows : (buffer.drop 1).length = 256 := by
    rw [IpmbRequest.buffer_eq encoded, List.drop_one, List.tail_cons, IpmbRequest.frame_length]
    exact congrArg (· + 7) length
  refine ⟨buffer, encoded, deviceIdMessage_inRange _, lengthByte, follows, ?_⟩
  intro trips
  have wrapped := trips.length
  rw [lengthByte, follows] at wrapped
  exact absurd wrapped (by decide)

end RoundTrip

end Chassis.Ipmb
