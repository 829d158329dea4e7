import Chassis.Construction.Network.Message
import Chassis.Effect.Thrown
import Chassis.Proof.Network.Cipher

namespace Chassis.Netipmid
open Data Effect LittleEndian Ipmi20Parser

/-- A field between two parts of a packet is read from its place. -/
theorem field_append {first middle : List UInt8} (rest : List UInt8) {offset length : Nat}
    (before : first.length = offset) (count : middle.length = length) :
    field (first ++ (middle ++ rest)) offset length = middle := by
  rw [field, ← before, List.drop_left, ← count, List.take_left]

theorem getD_append_left {first : List UInt8} (rest : List UInt8) {index : Nat}
    (inside : index < first.length) : (first ++ rest).getD index 0 = first.getD index 0 :=
  List.getD_append _ _ _ _ inside

theorem length_generateHMAC (crypto : Crypto) (algo : IntegrityAlgo) (input : List UInt8) :
    (algo.generateHMAC crypto input).length = 16 := by
  simp [IntegrityAlgo.generateHMAC, crypto.hmac_length, Digest.length, sha256128AuthcodeLength]

/-- What stands before the code of a packet ends with a pad, its length and the next header. -/
structure Trailed (trailed : List UInt8) (payloadLen : Nat) : Prop where
  length : trailed.length = sessionHeaderLength + payloadLen + paddingLen payloadLen + sessionTrailerLength
  pad : (trailed.getD (sessionHeaderLength + payloadLen + paddingLen payloadLen) 0).toNat =
    paddingLen payloadLen

/-- The code of a sealed packet covers everything from its session header on. -/
def Sealed (crypto : Crypto) (algo : IntegrityAlgo) (packet : List UInt8) (payloadLen : Nat) : Prop :=
  ∃ trailed, Trailed trailed payloadLen ∧
    packet = trailed ++ algo.generateHMAC crypto (trailed.drop rmcpSessionHeaderSize)

theorem verifyPacketIntegrity_append (crypto : Crypto) {trailed code : List UInt8} {payloadLen : Nat}
    {session : Session} {algo : IntegrityAlgo} (enabled : session.integrityAlgoInterface = some algo)
    (shape : Trailed trailed payloadLen) (whole : code.length = sha256128AuthcodeLength) :
    verifyPacketIntegrity crypto (trailed ++ code) payloadLen session =
      .ok (algo.generateHMAC crypto (trailed.drop rmcpSessionHeaderSize) == code) := by
  have length := shape.length
  have inside : sessionHeaderLength + payloadLen + paddingLen payloadLen < trailed.length := by
    simp only [sessionTrailerLength] at length
    omega
  have header : rmcpSessionHeaderSize ≤ trailed.length := by
    simp only [sessionHeaderLength, rmcpSessionHeaderSize] at length ⊢
    omega
  have covered : field (trailed ++ code) rmcpSessionHeaderSize
      (trailed.length + sha256128AuthcodeLength - sha256128AuthcodeLength - rmcpSessionHeaderSize) =
      trailed.drop rmcpSessionHeaderSize := by
    rw [field, List.drop_append_of_le_length header, List.take_append_of_le_length]
    · apply List.take_of_length_le
      rw [List.length_drop]
      omega
    · rw [List.length_drop]
      omega
  have ends : (trailed ++ code).drop (sessionHeaderLength + payloadLen + paddingLen payloadLen +
      sessionTrailerLength) = code := by
    rw [← length, List.drop_left]
  have long : ¬ trailed.length + sha256128AuthcodeLength < sessionHeaderLength + payloadLen +
      paddingLen payloadLen + sessionTrailerLength := by
    omega
  have count : trailed.length + sha256128AuthcodeLength - (sessionHeaderLength + payloadLen +
      paddingLen payloadLen) - sessionTrailerLength = sha256128AuthcodeLength := by
    omega
  simp only [verifyPacketIntegrity, List.length_append, whole, long, if_false,
    getD_append_left code inside, shape.pad, ne_eq, not_true_eq_false, Session.getIntegrityAlgo,
    enabled, ok_bind, count, ends, covered]

/-- Without room for the code behind the pad that the payload wants, a packet is not verified. -/
theorem verifyPacketIntegrity_short (crypto : Crypto) (packet : List UInt8) (payloadLen : Nat)
    {session : Session} {algo : IntegrityAlgo} (enabled : session.integrityAlgoInterface = some algo)
    (short : packet.length < sessionHeaderLength + payloadLen + paddingLen payloadLen +
      sessionTrailerLength + sha256128AuthcodeLength) :
    verifyPacketIntegrity crypto packet payloadLen session = .ok false := by
  unfold verifyPacketIntegrity
  dsimp only
  rw [Session.getIntegrityAlgo, enabled, ok_bind]
  split_ifs with truncated wrong exact
  · rfl
  · rfl
  · rfl
  · omega

/-- A packet is verified exactly when it is sealed under the key of the session. -/
theorem verifyPacketIntegrity_iff (crypto : Crypto) (packet : List UInt8) (payloadLen : Nat)
    (session : Session) :
    verifyPacketIntegrity crypto packet payloadLen session = .ok true ↔
      ∃ algo, session.integrityAlgoInterface = some algo ∧
        Sealed crypto algo packet payloadLen := by
  constructor
  · intro verified
    let position := sessionHeaderLength + payloadLen + paddingLen payloadLen
    have long : ¬ packet.length < position + sessionTrailerLength := by
      intro short
      rw [verifyPacketIntegrity, if_pos short] at verified
      cases verified
    have pad : (packet.getD position 0).toNat = paddingLen payloadLen := by
      by_contra wrong
      rw [verifyPacketIntegrity, if_neg long, if_pos wrong] at verified
      cases verified
    rw [verifyPacketIntegrity, if_neg long, if_neg (not_not_intro pad)] at verified
    cases enabled : session.integrityAlgoInterface with
    | none =>
        rw [Session.getIntegrityAlgo, enabled] at verified
        cases verified
    | some algo =>
        rw [Session.getIntegrityAlgo, enabled, ok_bind] at verified
        have count : packet.length - position - sessionTrailerLength =
            sha256128AuthcodeLength := by
          by_contra wrong
          rw [if_pos wrong] at verified
          cases verified
        have parts := List.take_append_drop (position + sessionTrailerLength) packet
        have front : (packet.take (position + sessionTrailerLength)).length =
            position + sessionTrailerLength := by
          rw [List.length_take]
          omega
        have shape : Trailed (packet.take (position + sessionTrailerLength)) payloadLen := by
          constructor
          · exact front
          · rw [← parts, getD_append_left] at pad
            · exact pad
            · rw [front, sessionTrailerLength]
              omega
        have whole : (packet.drop (position + sessionTrailerLength)).length =
            sha256128AuthcodeLength := by
          rw [List.length_drop]
          omega
        have same := verifyPacketIntegrity_append crypto enabled shape whole
        rw [parts] at same
        rw [verifyPacketIntegrity, if_neg long, if_neg (not_not_intro pad), Session.getIntegrityAlgo,
          enabled, ok_bind, verified, Except.ok.injEq, eq_comm, beq_iff_eq] at same
        exact ⟨algo, rfl, _, shape, by rw [same, parts]⟩
  · rintro ⟨algo, enabled, trailed, shape, rfl⟩
    rw [verifyPacketIntegrity_append crypto enabled shape (length_generateHMAC crypto algo _)]
    simp

end Chassis.Netipmid
