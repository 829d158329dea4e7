import Chassis.Proof.Bridge.Answer

namespace Chassis.Ipmb

/-- The bytes of a read behind its length byte. -/
def receivedBytes (bytes : List UInt8) : List UInt8 :=
  (bytes.take ipmbMaxFrameLength).drop ipmbPktLenSize

/-- The data are exactly the bytes between a header of the given length and one checksum. -/
def Encloses (received : List UInt8) (headerLength : Nat) (data : List UInt8) : Prop :=
  ∃ header checksum, header.length = headerLength ∧ received = header ++ data ++ [checksum]

/-- Every decoder that an accepted frame reaches takes its data from the received bytes. The signal
decodes each frame as a request, and a response is decoded once more as a response. -/
def DecodesInside (bytes : List UInt8) : Prop :=
  ∀ frame r, Bridge.receiveFrame bytes = some (frame, r) →
    (∃ message, IpmbRequest.i2cToIpmbConstruct frame r = some message ∧
      Encloses (receivedBytes bytes) 6 message.data) ∧
    (ipmbIsResponse frame = true →
      ∃ message, IpmbResponse.i2cToIpmbConstruct frame r = some message ∧
        Encloses (receivedBytes bytes) 7 message.data)

/-- A valid frame of the minimum length has the network function of a response. -/
def ShortestResponse (bytes : List UInt8) : Prop :=
  (receivedBytes bytes).length = ipmbMinFrameLength ∧
    isFrameValid (receivedBytes bytes) (UInt8.ofNat ipmbMinFrameLength) = true ∧
    ipmbIsResponse (receivedBytes bytes) = true

section Decoding

variable {received padding : List UInt8}

/-- The data length of a decoder takes the bytes between its header and the checksum. -/
theorem encloses_data {offset : Nat} (long : offset < received.length) :
    Encloses received offset
      (((received ++ padding).drop offset).take (received.length - (offset + 1))) := by
  have inside : received.length - (offset + 1) ≤ (received.drop offset).length := by
    rw [List.length_drop]
    omega
  have last : (received.drop offset).drop (received.length - (offset + 1)) =
      [received[received.length - 1]] := by
    rw [List.drop_drop, show offset + (received.length - (offset + 1)) = received.length - 1 by omega,
      List.drop_eq_getElem_cons (by omega), List.drop_of_length_le (by omega)]
  refine ⟨received.take offset, received[received.length - 1], ?_, ?_⟩
  · exact List.length_take_of_le (by omega)
  · rw [List.drop_append_of_le_length (by omega), List.take_append_of_le_length inside, ← last,
      List.append_assoc, List.take_append_drop, List.take_append_drop]

/-- A copy that starts behind the header ends before the checksum. -/
theorem copyData_inside {offset : Nat} (long : offset < received.length) :
    copyData (received ++ padding) offset (received.length - (offset + 1)) =
      some (((received ++ padding).drop offset).take (received.length - (offset + 1))) := by
  unfold copyData
  rw [if_pos]
  rw [List.length_append]
  omega

theorem IpmbRequest.decodes_inside (long : 7 ≤ received.length) (short : received.length < 2 ^ 32) :
    ∃ message, IpmbRequest.i2cToIpmbConstruct (received ++ padding) received.length = some message ∧
      Encloses received 6 message.data := by
  have size : sizeSub received.length (ipmbConnectionHeaderLength + ipmbRequestDataHeaderLength +
      ipmbChecksumSize) = received.length - 7 := sizeSub_of_le long (by omega)
  unfold IpmbRequest.i2cToIpmbConstruct
  rw [size]
  dsimp only
  rw [copyData_inside long]
  exact ⟨_, rfl, encloses_data long⟩

theorem IpmbResponse.decodes_inside (long : 8 ≤ received.length)
    (short : received.length < 2 ^ 32) :
    ∃ message, IpmbResponse.i2cToIpmbConstruct (received ++ padding) received.length = some message ∧
      Encloses received 7 message.data := by
  have size : sizeSub received.length (ipmbConnectionHeaderLength + ipmbResponseDataHeaderLength +
      ipmbChecksumSize) = received.length - 8 := sizeSub_of_le long (by omega)
  unfold IpmbResponse.i2cToIpmbConstruct
  rw [size]
  dsimp only
  rw [copyData_inside long]
  exact ⟨_, rfl, encloses_data long⟩

/-- The header of a response and a checksum take eight bytes. -/
theorem encloses_long {headerLength : Nat} {data : List UInt8}
    (encloses : Encloses received headerLength data) : headerLength + 1 ≤ received.length := by
  obtain ⟨header, checksum, length, rfl⟩ := encloses
  simp only [List.length_append, List.length_singleton]
  omega

end Decoding

section Reception

/-- An accepted frame is valid and starts with the received bytes. -/
theorem receiveFrame_received {bytes frame : List UInt8} {r : Nat}
    (accepted : Bridge.receiveFrame bytes = some (frame, r)) :
    r = (receivedBytes bytes).length ∧ isFrameValid frame (UInt8.ofNat r) = true ∧
      ∃ padding, frame = receivedBytes bytes ++ padding := by
  have long := (receiveFrame_spec accepted).1
  have least : ipmbMinFrameLength = 7 := rfl
  unfold Bridge.receiveFrame at accepted
  dsimp only at accepted
  split_ifs at accepted with outside invalid
  cases accepted
  refine ⟨?_, Bool.of_not_eq_false invalid, _, List.drop_append_of_le_length ?_⟩
  · exact List.length_drop.symm
  · change 1 ≤ (bytes.take ipmbMaxFrameLength).length
    omega

/-- The test of seven bytes reads nothing behind them. -/
theorem isFrameValid_append {received : List UInt8} (length : received.length = ipmbMinFrameLength)
    (padding : List UInt8) :
    isFrameValid (received ++ padding) (UInt8.ofNat ipmbMinFrameLength) =
      isFrameValid received (UInt8.ofNat ipmbMinFrameLength) := by
  have seven : received.length = 7 := length
  have four : (UInt8.ofNat ipmbMinFrameLength - UInt8.ofNat ipmbConnectionHeaderLength).toNat = 4 := by
    decide
  have header : ipmbConnectionHeaderLength ≤ received.length := by
    rw [seven]
    decide
  have rest : 4 ≤ (received.drop ipmbConnectionHeaderLength).length := by
    rw [List.length_drop, seven]
    decide
  rw [Bool.eq_iff_iff, isFrameValid_iff, isFrameValid_iff, four,
    List.take_append_of_le_length header, List.drop_append_of_le_length header,
    List.take_append_of_le_length rest]

theorem ipmbIsResponse_append {received : List UInt8} (long : 1 < received.length)
    (padding : List UInt8) : ipmbIsResponse (received ++ padding) = ipmbIsResponse received := by
  unfold ipmbIsResponse
  rw [byteAt_append long]

/-- A response frame of the minimum length is accepted. -/
theorem receiveFrame_shortest {bytes : List UInt8} (shortest : ShortestResponse bytes) :
    ∃ frame, Bridge.receiveFrame bytes = some (frame, ipmbMinFrameLength) ∧
      ipmbIsResponse frame = true := by
  obtain ⟨length, valid, isResponse⟩ := shortest
  have seven : (receivedBytes bytes).length = 7 := length
  have eight : (bytes.take ipmbMaxFrameLength).length = 8 := by
    have dropped : (receivedBytes bytes).length = (bytes.take ipmbMaxFrameLength).length - 1 :=
      List.length_drop
    omega
  refine ⟨receivedBytes bytes ++ List.replicate (ipmbMaxFrameLength - 8) 0, ?_, ?_⟩
  · have buffer : ((bytes.take ipmbMaxFrameLength) ++
        List.replicate (ipmbMaxFrameLength - 8) 0).drop ipmbPktLenSize =
          receivedBytes bytes ++ List.replicate (ipmbMaxFrameLength - 8) 0 :=
      List.drop_append_of_le_length (by rw [eight]; decide)
    unfold Bridge.receiveFrame
    dsimp only
    rw [eight, buffer, if_neg (by decide)]
    exact if_neg (by rw [← Bool.not_eq_true, not_not, ← valid]; exact isFrameValid_append length _)
  · rw [ipmbIsResponse_append (by omega)]
    exact isResponse

/-- The shortest response leaves no room for a header and a checksum. -/
theorem decodes_outside {bytes : List UInt8} (shortest : ShortestResponse bytes) :
    ¬DecodesInside bytes := by
  intro inside
  obtain ⟨frame, accepted, isResponse⟩ := receiveFrame_shortest shortest
  obtain ⟨message, _, encloses⟩ := (inside frame ipmbMinFrameLength accepted).2 isResponse
  have eight := encloses_long encloses
  rw [shortest.1] at eight
  exact absurd eight (by decide)

/-- Every other accepted response is decoded from its own bytes. -/
theorem response_decodes {bytes frame : List UInt8} {r : Nat}
    (accepted : Bridge.receiveFrame bytes = some (frame, r)) (longer : ¬ShortestResponse bytes)
    (isResponse : ipmbIsResponse frame = true) :
    ∃ message, IpmbResponse.i2cToIpmbConstruct frame r = some message ∧
      Encloses (receivedBytes bytes) 7 message.data := by
  obtain ⟨long, short, _⟩ := receiveFrame_spec accepted
  obtain ⟨rfl, valid, padding, rfl⟩ := receiveFrame_received accepted
  have least : ipmbMinFrameLength = 7 := rfl
  apply IpmbResponse.decodes_inside _ (by omega)
  by_contra small
  have seven : (receivedBytes bytes).length = ipmbMinFrameLength := by omega
  apply longer
  refine ⟨seven, ?_, ?_⟩
  · rw [← isFrameValid_append seven padding, ← seven]
    exact valid
  · rw [ipmbIsResponse_append (by omega)] at isResponse
    exact isResponse

end Reception

/-- The decoders stay inside the received bytes unless the shortest accepted frame is a response,
whose header needs one byte more. -/
theorem receive_inside_iff (bytes : List UInt8) :
    DecodesInside bytes ↔ ¬ShortestResponse bytes := by
  constructor
  · intro inside shortest
    exact decodes_outside shortest inside
  · intro longer frame r accepted
    obtain ⟨long, short, _⟩ := receiveFrame_spec accepted
    refine ⟨?_, response_decodes accepted longer⟩
    obtain ⟨rfl, _, padding, rfl⟩ := receiveFrame_received accepted
    have least : ipmbMinFrameLength = 7 := rfl
    exact IpmbRequest.decodes_inside (by omega) (by omega)

/-- The length byte and a response without a completion code. -/
def codelessResponse : List UInt8 := [7, 0x20, 0x1c, 0xc4, 0x82, 0x04, 0x01, 0x79]

/-- The data length of this response wraps around. -/
theorem receive_outside : ¬∀ bytes : List UInt8,
    bytes.length ≤ ipmbMaxFrameLength → DecodesInside bytes := by
  intro always
  have shortest : ShortestResponse codelessResponse := ⟨by decide, by decide, by decide⟩
  exact decodes_outside shortest (always codelessResponse (by decide))

end Chassis.Ipmb
