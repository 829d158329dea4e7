import Chassis.Construction.Lanplus.Setup
import Chassis.Proof.Network.Plain

namespace Chassis.Netipmid
open Data Effect LittleEndian Ipmi20Parser

section Send

/-- Before a session is active the client sends plain packets. -/
theorem buildV2xMsg_plain (crypto : Crypto) (oem : Option Lanplus.Oem) (iv : Block) {client : Lanplus.IpmiSession}
    (inactive : client.sessionState ≠ .active) {payload : Lanplus.Payload}
    (fits : payload.wire.length < 2 ^ 16) :
    Lanplus.buildV2xMsg crypto oem iv client payload =
      .ok (plainPacket payload.payloadType sessionZero 0 payload.wire,
        { client with outSeq := Lanplus.nextOutSeq client.outSeq }) := by
  simp only [Lanplus.buildV2xMsg, inactive, false_and, if_false, ok_bind, pure_eq_ok,
    Nat.mod_eq_of_lt fits, List.take_length, UInt8.or_zero]
  rfl

theorem sendPayload_plain (crypto : Crypto) (oem : Option Lanplus.Oem) (iv : Block) {client : Lanplus.IpmiSession}
    (inactive : client.sessionState ≠ .active) {payload : Lanplus.Payload}
    (sendable : payload.sendable client.sessionState = true) (fits : payload.wire.length < 2 ^ 16) :
    Lanplus.ipmiLanplusSendPayload crypto oem iv client payload =
      .ok (plainPacket payload.payloadType sessionZero 0 payload.wire,
        { client with
          outSeq := Lanplus.nextOutSeq client.outSeq
          sessionState := payload.sentState client.sessionState }) := by
  simp only [Lanplus.ipmiLanplusSendPayload, sendable, Bool.true_eq_false, if_false,
    buildV2xMsg_plain crypto oem iv inactive fits, ok_bind, pure_eq_ok]

end Send

section Receive

variable (payloadType : UInt8) (sessId sessSeqNum : UInt32) (payload tail : List UInt8)

/-- The buffer of the client after a plain packet. -/
def plainBuffer : List UInt8 := plainPacket payloadType sessId sessSeqNum payload ++ tail

/-- What stands behind sixteen bytes is read from its place. -/
theorem getD_behind {header : List UInt8} (sixteen : header.length = 16) (index : Nat)
    (inside : index < payload.length) :
    (header ++ payload ++ tail).getD (16 + index) 0 = payload.getD index 0 := by
  rw [List.append_assoc, List.getD_append_right _ _ _ _ (by omega), sixteen, Nat.add_sub_cancel_left,
    getD_append_left _ inside]

theorem field_behind {header : List UInt8} (sixteen : header.length = 16) (offset length : Nat)
    (inside : offset + length ≤ payload.length) :
    ((header ++ payload ++ tail).drop (16 + offset)).take length = field payload offset length := by
  have shorter : length ≤ payload.length - offset := by omega
  rw [List.append_assoc, ← List.drop_drop, List.drop_left' sixteen,
    List.drop_append_of_le_length (by omega),
    List.take_append_of_le_length (by rw [List.length_drop]; exact shorter), field]

theorem plainBuffer_getD (index : Nat) (inside : index < payload.length) :
    (plainBuffer payloadType sessId sessSeqNum payload tail).getD (16 + index) 0 =
      payload.getD index 0 :=
  getD_behind payload tail (length_sessionHeader ..) index inside

theorem plainBuffer_field (offset length : Nat) (inside : offset + length ≤ payload.length) :
    ((plainBuffer payloadType sessId sessSeqNum payload tail).drop (16 + offset)).take length =
      field payload offset length :=
  field_behind payload tail (length_sessionHeader ..) offset length inside

/-- What the client reads from the header of a session. -/
def sessionData (payloadType : UInt8) (sessId : UInt32) (payloadLength : Nat) :
    Lanplus.SessionData where
  authtype := Lanplus.ipmiSessionAuthtypeRmcpPlus
  id := sessId
  bEncrypted := payloadType &&& 0x80 ≠ 0
  bAuthenticated := payloadType &&& 0x40 ≠ 0
  payloadtype := payloadType &&& 0x3F
  msglen := payloadLength

theorem readSessionData_sessionHeader {payloadLength : Nat} (fits : payloadLength < 2 ^ 16)
    (rest : List UInt8) (previousId : UInt32) :
    Lanplus.readSessionData
        (sessionHeader payloadType sessId sessSeqNum payloadLength ++ rest) previousId =
      (sessionData payloadType sessId payloadLength, 16) := by
  have format : (sessionHeader payloadType sessId sessSeqNum payloadLength ++ rest).getD 4 0 =
      Lanplus.ipmiSessionAuthtypeRmcpPlus := by simp [sessionHeader]; rfl
  have id := sessionHeader_id payloadType sessId sessSeqNum payloadLength rest
  have length := sessionHeader_length payloadType sessId sessSeqNum payloadLength rest fits
  rw [field] at id length
  simp only [Lanplus.readSessionData, format, if_true, sessionHeader_type, id, length, sessionData]

/-- Packets of version 2.0 that fit into the buffer are looked at as a whole. -/
theorem pollSingle_sessionHeader (crypto : Crypto) (client : Lanplus.IpmiSession)
    (entries : List Lanplus.RqEntry) (previousId : UInt32) (stale : List UInt8)
    {payloadLength : Nat} (fits : payloadLength < 2 ^ 16) {rest : List UInt8}
    (short : rest.length < 1008) :
    let packet := sessionHeader payloadType sessId sessSeqNum payloadLength ++ rest
    let data := packet ++ 0 :: stale.drop (packet.length + 1)
    let header := sessionData payloadType sessId payloadLength
    Lanplus.ipmiLanPollSingle crypto client entries previousId stale packet =
      if client.sessionState = .active ∧ sessId ≠ client.consoleId then .ok (.oneMore, entries)
      else
        (Lanplus.lanplusHasValidAuthCode crypto client header data packet.length).bind fun valid =>
          if valid = false then .ok (.nothing, entries)
          else
            (Lanplus.decryptInPlace crypto client header data 16).bind fun body =>
              Lanplus.dispatchPayload client entries header body.1 16 body.2 := by
  intro packet data header
  have length : packet.length = 16 + rest.length := by simp [packet]
  have whole : packet.take Lanplus.ipmiBufSize = packet := by
    apply List.take_of_length_le
    rw [length, Lanplus.ipmiBufSize]
    omega
  have some : packet ≠ [] := by
    intro none
    rw [none, List.length_nil] at length
    omega
  have room : packet.length ≠ Lanplus.ipmiBufSize := by
    rw [length, Lanplus.ipmiBufSize]
    omega
  have received : Lanplus.receiveBuffer packet stale = data := rfl
  have rmcpClass : data.getD 3 0 = Lanplus.rmcpClassIpmi := by
    simp [data, packet, sessionHeader]
    rfl
  have other : Lanplus.rmcpClassIpmi ≠ Lanplus.rmcpClassAsf := by decide
  have read : Lanplus.readSessionData data previousId = (header, 16) := by
    rw [show data = sessionHeader payloadType sessId sessSeqNum payloadLength ++
      (rest ++ 0 :: stale.drop (packet.length + 1)) from List.append_assoc _ _ _]
    exact readSessionData_sessionHeader payloadType sessId sessSeqNum fits _ previousId
  have format : header.authtype = Lanplus.ipmiSessionAuthtypeRmcpPlus := rfl
  have id : header.id = sessId := rfl
  simp only [Lanplus.ipmiLanPollSingle, whole, some, if_false, room, received, rmcpClass, other,
    ne_eq, not_true_eq_false, read, format, id, true_and]
  rfl

/-- Before a session is active a plain packet is taken as it stands. -/
theorem pollSingle_plain (crypto : Crypto) {client : Lanplus.IpmiSession}
    (inactive : client.sessionState ≠ .active) (entries : List Lanplus.RqEntry) (previousId : UInt32)
    (stale : List UInt8) (short : payload.length < 1008) :
    ∃ tail, Lanplus.ipmiLanPollSingle crypto client entries previousId stale
        (plainPacket payloadType sessId sessSeqNum payload) =
      Lanplus.dispatchPayload client entries (sessionData payloadType sessId payload.length)
        (plainBuffer payloadType sessId sessSeqNum payload tail) 16 payload.length := by
  have polled := pollSingle_sessionHeader payloadType sessId sessSeqNum crypto client entries previousId
    stale (by omega : payload.length < 2 ^ 16) short
  exists 0 :: stale.drop ((plainPacket payloadType sessId sessSeqNum payload).length + 1)
  rw [plainPacket, polled]
  simp only [inactive, false_and, if_false, Lanplus.lanplusHasValidAuthCode, ne_eq, not_false_eq_true,
    true_or, or_true, if_true, Except.bind, Bool.true_eq_false, Lanplus.decryptInPlace]
  rfl

end Receive

section Answers

variable {payloadType : UInt8} {sessId sessSeqNum : UInt32} {payload tail : List UInt8}

/-- An answer to the first request is read from its own bytes. -/
theorem readOpenSessionResponse_plain (long : 36 ≤ payload.length) :
    Lanplus.readOpenSessionResponse (plainBuffer payloadType sessId sessSeqNum payload tail) 16 =
      Lanplus.readOpenSessionResponse payload 0 := by
  have byte := plainBuffer_getD payloadType sessId sessSeqNum payload tail
  have bytes := plainBuffer_field payloadType sessId sessSeqNum payload tail
  simp only [Lanplus.readOpenSessionResponse, byte 1 (by omega), byte 2 (by omega),
    byte 16 (by omega), byte 24 (by omega), byte 32 (by omega), bytes 4 4 (by omega),
    bytes 8 4 (by omega), field, Nat.zero_add]
  rw [show (plainBuffer payloadType sessId sessSeqNum payload tail).getD 16 0 = payload.getD 0 0
    from byte 0 (by omega)]

theorem readRakp2Message_plain (long : 72 ≤ payload.length) :
    Lanplus.readRakp2Message (plainBuffer payloadType sessId sessSeqNum payload tail) 16
        Lanplus.ipmiAuthRakpHmacSha256 =
      Lanplus.readRakp2Message payload 0 Lanplus.ipmiAuthRakpHmacSha256 := by
  have byte := plainBuffer_getD payloadType sessId sessSeqNum payload tail
  have bytes := plainBuffer_field payloadType sessId sessSeqNum payload tail
  have other : Lanplus.ipmiAuthRakpHmacSha256 ≠ Lanplus.ipmiAuthRakpNone := by decide
  have digest : Lanplus.digestOf Lanplus.ipmiAuthRakpHmacSha256 = .ok .sha256 := by decide
  simp only [Lanplus.readRakp2Message, if_neg other, digest, Except.map, Digest.length, ok_bind,
    byte 1 (by omega), bytes 4 4 (by omega), bytes 8 16 (by omega), bytes 24 16 (by omega),
    bytes 40 32 (by omega), field, Nat.zero_add]
  rw [show (plainBuffer payloadType sessId sessSeqNum payload tail).getD 16 0 = payload.getD 0 0
    from byte 0 (by omega)]

theorem readRakp4Message_plain (long : 24 ≤ payload.length) :
    Lanplus.readRakp4Message (plainBuffer payloadType sessId sessSeqNum payload tail) 16
        Lanplus.ipmiAuthRakpHmacSha256 =
      Lanplus.readRakp4Message payload 0 Lanplus.ipmiAuthRakpHmacSha256 := by
  have byte := plainBuffer_getD payloadType sessId sessSeqNum payload tail
  have bytes := plainBuffer_field payloadType sessId sessSeqNum payload tail
  have other : Lanplus.ipmiAuthRakpHmacSha256 ≠ Lanplus.ipmiAuthRakpNone := by decide
  have length : Lanplus.rakp4Length Lanplus.ipmiAuthRakpHmacSha256 = .ok 16 := by decide
  simp only [Lanplus.readRakp4Message, if_neg other, length, ok_bind, byte 1 (by omega),
    bytes 4 4 (by omega), bytes 8 16 (by omega), field, Nat.zero_add]
  rw [show (plainBuffer payloadType sessId sessSeqNum payload tail).getD 16 0 = payload.getD 0 0
    from byte 0 (by omega)]

variable (sessId sessSeqNum) (crypto : Crypto) {client : Lanplus.IpmiSession} (entries : List Lanplus.RqEntry)
  (previousId : UInt32) (stale : List UInt8) (short : payload.length < 1008)

include short

theorem pollSingle_openSession (waits : client.sessionState = .openSessionSent) :
    ∃ tail, Lanplus.ipmiLanPollSingle crypto client entries previousId stale
        (plainPacket payloadTypeOpenSessionResponse sessId sessSeqNum payload) =
      .ok (.response (.openSession (Lanplus.readOpenSessionResponse
        (plainBuffer payloadTypeOpenSessionResponse sessId sessSeqNum payload tail) 16)), entries) := by
  have polled := pollSingle_plain payloadTypeOpenSessionResponse sessId sessSeqNum payload crypto
    (by rw [waits]; decide) entries previousId stale short
  obtain ⟨tail, polled⟩ := polled
  have type : payloadTypeOpenSessionResponse &&& 0x3F = Lanplus.ipmiPayloadTypeRmcpOpenResponse := by
    decide
  have other : Lanplus.ipmiPayloadTypeRmcpOpenResponse ≠ Lanplus.ipmiPayloadTypeIpmi := by decide
  exists tail
  simp only [polled, Lanplus.dispatchPayload, sessionData, type, if_neg other, if_true, waits, ne_eq,
    not_true_eq_false, if_false]

theorem pollSingle_rakp2 (waits : client.sessionState = .rakp1Sent) :
    ∃ tail, Lanplus.ipmiLanPollSingle crypto client entries previousId stale
        (plainPacket payloadTypeRakp2 sessId sessSeqNum payload) =
      (Lanplus.readRakp2Message (plainBuffer payloadTypeRakp2 sessId sessSeqNum payload tail) 16
        client.authAlg).bind fun message => .ok (.response (.rakp2 message), entries) := by
  have polled := pollSingle_plain payloadTypeRakp2 sessId sessSeqNum payload crypto
    (by rw [waits]; decide) entries previousId stale short
  obtain ⟨tail, polled⟩ := polled
  have type : payloadTypeRakp2 &&& 0x3F = Lanplus.ipmiPayloadTypeRakp2 := by decide
  have other : Lanplus.ipmiPayloadTypeRakp2 ≠ Lanplus.ipmiPayloadTypeIpmi ∧
      Lanplus.ipmiPayloadTypeRakp2 ≠ Lanplus.ipmiPayloadTypeRmcpOpenResponse := by decide
  exists tail
  simp only [polled, Lanplus.dispatchPayload, sessionData, type, if_neg other.1, if_neg other.2,
    if_true, waits, ne_eq, not_true_eq_false, if_false]
  rfl

theorem pollSingle_rakp4 (waits : client.sessionState = .rakp3Sent) :
    ∃ tail, Lanplus.ipmiLanPollSingle crypto client entries previousId stale
        (plainPacket payloadTypeRakp4 sessId sessSeqNum payload) =
      (Lanplus.readRakp4Message (plainBuffer payloadTypeRakp4 sessId sessSeqNum payload tail) 16
        client.authAlg).bind fun message => .ok (.response (.rakp4 message), entries) := by
  have polled := pollSingle_plain payloadTypeRakp4 sessId sessSeqNum payload crypto
    (by rw [waits]; decide) entries previousId stale short
  obtain ⟨tail, polled⟩ := polled
  have type : payloadTypeRakp4 &&& 0x3F = Lanplus.ipmiPayloadTypeRakp4 := by decide
  have other : Lanplus.ipmiPayloadTypeRakp4 ≠ Lanplus.ipmiPayloadTypeIpmi ∧
      Lanplus.ipmiPayloadTypeRakp4 ≠ Lanplus.ipmiPayloadTypeRmcpOpenResponse ∧
      Lanplus.ipmiPayloadTypeRakp4 ≠ Lanplus.ipmiPayloadTypeRakp2 := by decide
  exists tail
  simp only [polled, Lanplus.dispatchPayload, sessionData, type, if_neg other.1, if_neg other.2.1,
    if_neg other.2.2, if_true, waits, ne_eq, not_true_eq_false, if_false]
  rfl

end Answers

end Chassis.Netipmid
