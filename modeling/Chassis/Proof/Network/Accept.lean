import Chassis.Proof.Network.Parser

namespace Chassis.Netipmid
open Data Effect LittleEndian Ipmi20Parser

variable {crypto : Crypto} {manager : Manager} {inPacket : List UInt8} {message : Message}

/-- What an accepted packet of the second version says about its session and itself. -/
structure Accepted (crypto : Crypto) (manager : Manager) (inPacket : List UInt8) (message : Message)
    (session : Session) : Prop where
  found : manager.find message.bmcSessionID = some session
  sessionID : message.bmcSessionID = readWord (field inPacket 6 4)
  payloadType : message.payloadType = inPacket.getD 5 0 &&& 0x3F
  sequence : message.sessionSeqNum = readWord (field inPacket 10 4)
  guarded : message.bmcSessionID ≠ sessionZero →
    (session.integrityAlgoInterface.isSome → message.isPacketAuthenticated) ∧
      (session.cryptAlgoInterface.isSome → message.isPacketEncrypted)
  verified : message.isPacketAuthenticated → ∃ algo, session.integrityAlgoInterface = some algo ∧
    Sealed crypto algo inPacket (decode (field inPacket 14 2))
  decrypted : message.isPacketEncrypted → ∃ algo, session.cryptAlgoInterface = some algo ∧
    algo.decryptPayload crypto inPacket sessionHeaderLength (decode (field inPacket 14 2)) =
      .ok message.payload
  plain : message.isPacketEncrypted = false →
    message.payload = field inPacket sessionHeaderLength (decode (field inPacket 14 2))

theorem checkIntegrity_ok {payloadLen : Nat} {session : Session} {authenticated : Bool}
    (checked : checkIntegrity crypto inPacket payloadLen session authenticated = .ok ()) :
    authenticated → ∃ algo, session.integrityAlgoInterface = some algo ∧
      Sealed crypto algo inPacket payloadLen := by
  rintro rfl
  rw [checkIntegrity, bind_eq_ok] at checked
  obtain ⟨verified, same, passed⟩ := checked
  cases verified with
  | true => exact (verifyPacketIntegrity_iff crypto inPacket payloadLen session).mp same
  | false => cases passed

theorem plainPayload_ok {payloadLen : Nat} {session : Session} {encrypted : Bool}
    {payload : List UInt8}
    (read : plainPayload crypto inPacket payloadLen session encrypted = .ok payload) :
    (encrypted → ∃ algo, session.cryptAlgoInterface = some algo ∧
      algo.decryptPayload crypto inPacket sessionHeaderLength payloadLen = .ok payload) ∧
    (encrypted = false → payload = field inPacket sessionHeaderLength payloadLen) := by
  cases encrypted with
  | false =>
      cases read
      simp
  | true =>
      rw [plainPayload, bind_eq_ok] at read
      obtain ⟨algo, known, same⟩ := read
      unfold Session.getCryptAlgo at known
      split at known
      next own enabled =>
        cases known
        simpa [enabled] using same
      · cases known

theorem ipmi20_unflatten_ok
    (accepted : Ipmi20Parser.unflatten crypto manager inPacket = .ok message) :
    ∃ session, Accepted crypto manager inPacket message session := by
  unfold Ipmi20Parser.unflatten at accepted
  split at accepted
  · cases accepted
  rw [bind_eq_ok] at accepted
  obtain ⟨session, got, accepted⟩ := accepted
  dsimp only at accepted
  split at accepted
  · cases accepted
  split at accepted
  · cases accepted
  next unmatched =>
    rw [bind_eq_ok] at accepted
    obtain ⟨_, checked, accepted⟩ := accepted
    rw [bind_eq_ok] at accepted
    obtain ⟨payload, read, same⟩ := accepted
    cases same
    have found : manager.find (readWord (field inPacket 6 4)) = some session := by
      unfold Manager.getSession at got
      split at got
      next own stood => rw [stood, Except.ok.inj got]
      · cases got
    refine ⟨session, found, rfl, rfl, rfl, ?_, checkIntegrity_ok checked, (plainPayload_ok read).1,
      (plainPayload_ok read).2⟩
    intro ordinary
    simp only [ne_eq, ordinary, not_false_eq_true, true_and, Bool.or_eq_true, Bool.and_eq_true,
      Bool.not_eq_true', not_or, not_and, Bool.not_eq_false] at unmatched
    exact unmatched

/-- A message of a session comes in a packet of the second version. -/
theorem unflatten_ok {header : SessionHeader}
    (accepted : Parser.unflatten crypto manager inPacket = .ok (message, header))
    (ordinary : message.bmcSessionID ≠ sessionZero) :
    header = .ipmi20 ∧ ∃ session, Accepted crypto manager inPacket message session := by
  unfold Parser.unflatten at accepted
  dsimp only at accepted
  split at accepted
  · cases accepted
  split at accepted
  · cases accepted
  split at accepted
  · cases accepted
  rw [bind_eq_ok] at accepted
  obtain ⟨formatType, _, accepted⟩ := accepted
  split at accepted
  · rw [bind_eq_ok] at accepted
    obtain ⟨inner, parsed, same⟩ := accepted
    cases same
    unfold Ipmi15Parser.unflatten at parsed
    split at parsed
    · cases parsed
    split at parsed
    · cases parsed
    dsimp only at parsed
    split at parsed
    · cases parsed
    · cases parsed
      exact absurd rfl ordinary
  split at accepted
  · rw [bind_eq_ok] at accepted
    obtain ⟨inner, parsed, same⟩ := accepted
    cases same
    exact ⟨rfl, ipmi20_unflatten_ok parsed⟩
  · cases accepted

end Chassis.Netipmid
