import Chassis.Proof.Network.Run

namespace Chassis.Netipmid
open Data Effect LittleEndian Manager Ipmi20Parser

section Packet

/-- A packet that is neither encrypted nor sealed. -/
def plainPacket (payloadType : UInt8) (sessId sessSeqNum : UInt32) (payload : List UInt8) :
    List UInt8 :=
  sessionHeader payloadType sessId sessSeqNum payload.length ++ payload

def plainMessage (payloadType : UInt8) (sessId sessSeqNum : UInt32) (payload : List UInt8) :
    Message where
  isPacketEncrypted := false
  isPacketAuthenticated := false
  payloadType := payloadType
  bmcSessionID := sessId
  sessionSeqNum := sessSeqNum
  payload := payload

theorem type_plain {payloadType : UInt8} (typed : payloadType < 0x40) :
    payloadType &&& payloadEncryptMask = 0 ∧ payloadType &&& payloadAuthMask = 0 ∧
      payloadType &&& 0x3F = payloadType := by
  have checked := forall_byte (fun byte => !(byte < 0x40) ||
    ((byte &&& payloadEncryptMask == 0) && (byte &&& payloadAuthMask == 0) &&
      (byte &&& 0x3F == byte))) (by decide +kernel) payloadType
  simpa [typed, and_assoc] using checked

/-- Where no keys have been agreed on, whatever is sent is taken as it stands. -/
theorem unflatten_plain (crypto : Crypto) {manager : Manager} {session : Session}
    {sessId : UInt32} (found : manager.find sessId = some session)
    (unlocked : sessId ≠ sessionZero →
      session.integrityAlgoInterface = none ∧ session.cryptAlgoInterface = none)
    {payloadType : UInt8} (typed : payloadType < 0x40) (sessSeqNum : UInt32) {payload : List UInt8}
    (some : payload ≠ []) (fits : payload.length < 2 ^ 16) :
    Parser.unflatten crypto manager (plainPacket payloadType sessId sessSeqNum payload) =
      .ok (plainMessage payloadType sessId sessSeqNum payload, .ipmi20) := by
  obtain ⟨encrypted, authenticated, kept⟩ := type_plain typed
  have open_ : ¬ (sessId ≠ sessionZero ∧
      (session.integrityAlgoInterface.isSome || session.cryptAlgoInterface.isSome) = true) := by
    intro locked
    obtain ⟨integrity, crypt⟩ := unlocked locked.1
    simp [integrity, crypt] at locked
  have parsed := unflatten_sessionHeader crypto found payloadType sessSeqNum some fits []
  rw [List.append_nil] at parsed
  rw [plainPacket, parser_sessionHeader, parsed]
  simp only [encrypted, authenticated, kept, ne_eq, not_true_eq_false, decide_false, Bool.not_false,
    Bool.and_true, if_neg open_, checkIntegrity, plainPayload, ok_bind, pure_eq_ok,
    field, sessionHeaderLength, List.drop_left' (length_sessionHeader ..), List.take_length]
  rfl

/-- Only an answer in a session has a number. -/
theorem flatten_plain (crypto : Crypto) (iv : Block) (session : Session) {outMessage : Message}
    (plain : outMessage.isPacketEncrypted = false ∧ outMessage.isPacketAuthenticated = false) :
    Parser.flatten crypto iv outMessage .ipmi20 session =
      (.ok (plainPacket outMessage.payloadType outMessage.rcSessionID
        (addSequenceNumber outMessage session).1 outMessage.payload),
        (addSequenceNumber outMessage session).2) := by
  simp only [Parser.flatten, flatten, plain.1, plain.2, cipherPayload, Bool.false_eq_true, if_false,
    ok_bind, pure_eq_ok, UInt8.or_zero]
  rfl

end Packet

section Incoming

variable {daemon : Daemon} {moment : Moment} {elsewhere : Elsewhere} {manager : Manager}
  {session : Session} {sessId : UInt32}

/-- A plain packet is heard in its session before its command is run. -/
theorem processIncoming_plain (found : manager.find sessId = some session)
    (unlocked : sessId ≠ sessionZero →
      session.integrityAlgoInterface = none ∧ session.cryptAlgoInterface = none)
    {payloadType : UInt8} (typed : payloadType < 0x40) (sessSeqNum : UInt32) {payload : List UInt8}
    (some : payload ≠ []) (fits : payload.length < 2 ^ 16) :
    let heard := { session with lastTime := moment.now }
    let message := { plainMessage payloadType sessId sessSeqNum payload with
      rcSessionID := session.remoteConsoleSessionID }
    Handler.processIncoming daemon moment elsewhere manager
        (plainPacket payloadType sessId sessSeqNum payload) =
      (Handler.executeCommand daemon moment elsewhere (manager.update sessId fun _ => heard) heard
        message).map fun done => Handler.react daemon moment done.1 heard message .ipmi20 done.2 := by
  intro heard message
  rw [Handler.processIncoming, unflatten_plain daemon.crypto found unlocked typed sessSeqNum some fits]
  simp only [Handler.updSessionData, plainMessage, Manager.getSession, found, ok_bind, pure_eq_ok]
  rfl

theorem update_same (sound : manager.Sound) (found : manager.find sessId = some session) :
    (manager.update sessId fun _ => session) = manager := by
  have same : manager.update sessId id = manager := by simp [Manager.update]
  exact (sound.update_found found id).symm.trans same

/-- The answer to a message has its flags and goes back where it came from. -/
theorem createResponse_ok {inMessage : Message} {outPayload reply : List UInt8}
    (other : inMessage.payloadType ≠ payloadTypeSol)
    (responded : inMessage.responsePayload outPayload = .ok reply) :
    inMessage.createResponse outPayload = .ok (some {
      isPacketEncrypted := inMessage.isPacketEncrypted
      isPacketAuthenticated := inMessage.isPacketAuthenticated
      payloadType := responseType inMessage.payloadType
      rcSessionID := inMessage.rcSessionID
      bmcSessionID := inMessage.bmcSessionID
      payload := reply }) := by
  rw [Message.createResponse, if_neg other, responded]
  rfl

/-- A plain message gets a plain answer. -/
theorem send_plain {inMessage outMessage : Message} {outPayload : List UInt8}
    (created : inMessage.createResponse outPayload = .ok (some outMessage))
    (plain : outMessage.isPacketEncrypted = false ∧ outMessage.isPacketAuthenticated = false)
    {own : Session} (found : manager.find inMessage.bmcSessionID = some own) (session : Session) :
    Handler.send daemon moment manager session inMessage .ipmi20 outPayload =
      (manager.update inMessage.bmcSessionID fun _ => (addSequenceNumber outMessage own).2,
        .ok (some (plainPacket outMessage.payloadType outMessage.rcSessionID
          (addSequenceNumber outMessage own).1 outMessage.payload))) := by
  simp only [Handler.send, created, found, Option.getD_some,
    flatten_plain daemon.crypto moment.iv own plain]

/-- The commands of the setup are run on the whole payload. -/
theorem executeCommand_setup {message : Message} {functor : Functor}
    (registered : commandTable.lookup (message.payloadType.toUInt32 <<< 16) = some ⟨functor, true⟩)
    (apart : message.payloadType ≠ payloadTypeIpmi) (outside : message.bmcSessionID = sessionZero)
    (session : Session) :
    Handler.executeCommand daemon moment elsewhere manager session message =
      (functor.run daemon moment elsewhere manager sessionZero message.payload).map fun done =>
        (done.1, done.2.map Output.payload) := by
  have read : message.getCommand = .ok (message.payloadType.toUInt32 <<< 16) := if_neg apart
  simp only [Handler.executeCommand, read, if_neg apart, Table.executeCommand, registered, outside,
    if_true, NetIpmidEntry.executeCommand, Bool.true_eq_false, false_and, if_false]

/-- What a command outside of sessions returns is sent, and leaves the sessions as they are. -/
theorem react_setup (sound : manager.Sound) (stands : (manager.find sessionZero).isSome)
    {message : Message} (plain : message.isPacketEncrypted = false ∧
      message.isPacketAuthenticated = false)
    (apart : message.payloadType ≠ payloadTypeIpmi ∧ message.payloadType ≠ payloadTypeSol)
    (outside : message.bmcSessionID = sessionZero ∧ message.rcSessionID = sessionZero)
    (session : Session) (answered : Result (List UInt8)) :
    Handler.react daemon moment manager session message .ipmi20 (answered.map Output.payload) =
      (manager, answered.map fun outPayload =>
        .packet (plainPacket (responseType message.payloadType) sessionZero 0 outPayload)) := by
  cases answered with
  | error failure => rfl
  | ok outPayload =>
      obtain ⟨own, found⟩ := Option.isSome_iff_exists.mp stands
      have responded : message.responsePayload outPayload = .ok outPayload := if_neg apart.1
      have sent : Handler.send daemon moment manager session message .ipmi20 outPayload = _ :=
        send_plain (createResponse_ok apart.2 responded) plain (outside.1 ▸ found) session
      simp only [outside.1, outside.2, addSequenceNumber, if_true, update_same sound found] at sent
      simp only [Except.map, Handler.react, sent]
      rfl

/-- The messages that set up a session are sent outside of sessions, and so are the answers. -/
theorem processIncoming_setup (kept : manager.Kept daemon)
    (found : manager.find sessionZero = some session) {payloadType : UInt8} {functor : Functor}
    (registered : commandTable.lookup (payloadType.toUInt32 <<< 16) = some ⟨functor, true⟩)
    (typed : payloadType < 0x40)
    (apart : payloadType ≠ payloadTypeIpmi ∧ payloadType ≠ payloadTypeSol) {payload : List UInt8}
    (some : payload ≠ []) (fits : payload.length < 2 ^ 16) :
    Handler.processIncoming daemon moment elsewhere manager
        (plainPacket payloadType sessionZero 0 payload) =
      (functor.run daemon moment elsewhere
        (manager.update sessionZero fun _ => { session with lastTime := moment.now })
        sessionZero payload).map fun done => (done.1, done.2.map fun outPayload =>
          .packet (plainPacket (responseType payloadType) sessionZero 0 outPayload)) := by
  have console : session.remoteConsoleSessionID = sessionZero := by
    obtain ⟨lastTime, zero⟩ := kept.zero
    rw [found, Option.some.injEq] at zero
    rw [zero]
    rfl
  have noted : (manager.update sessionZero fun _ =>
      { session with lastTime := moment.now }).Kept daemon := by
    have step : Step daemon (.noting moment.now) manager _ := .touched found (Or.inr rfl)
    exact step.kept kept
  have stands : (manager.update sessionZero fun _ => { session with lastTime := moment.now }).find
      sessionZero = .some { session with lastTime := moment.now } :=
    find_updated found _
  rw [processIncoming_plain found (absurd rfl) typed 0 some fits]
  generalize same : ({ plainMessage payloadType sessionZero 0 payload with
    rcSessionID := session.remoteConsoleSessionID } : Message) = message
  have type : message.payloadType = payloadType := by rw [← same]; rfl
  have body : message.payload = payload := by rw [← same]; rfl
  have plain : message.isPacketEncrypted = false ∧ message.isPacketAuthenticated = false := by
    rw [← same]
    exact ⟨rfl, rfl⟩
  have outside : message.bmcSessionID = sessionZero ∧ message.rcSessionID = sessionZero := by
    rw [← same]
    exact ⟨rfl, console⟩
  rw [← type] at registered apart
  have read : message.getCommand = .ok (message.payloadType.toUInt32 <<< 16) := if_neg apart.1
  rw [executeCommand_setup registered apart.1 outside.1, Option.map_map, body]
  cases ran : functor.run daemon moment elsewhere
      (manager.update sessionZero fun _ => { session with lastTime := moment.now }) sessionZero
      payload with
  | none => rfl
  | some done =>
      have executed : NetIpmidEntry.executeCommand daemon moment elsewhere ⟨functor, true⟩
          (manager.update sessionZero fun _ => { session with lastTime := moment.now })
          message.bmcSessionID message.payload = .some (done.1, done.2) := by
        simp only [NetIpmidEntry.executeCommand, Bool.true_eq_false, false_and, if_false, outside.1,
          body, ran]
      have after : done.1.Kept daemon :=
        (executeCommand_steps noted (by rw [outside.1]; exact stands) rfl read registered
          (fun _ => rfl) executed).kept noted
      obtain ⟨lastTime, zero⟩ := after.zero
      have reacted : Handler.react daemon moment done.1 { session with lastTime := moment.now } message
          .ipmi20 (done.2.map Output.payload) = _ :=
        react_setup after.sound (by rw [zero]; rfl) plain apart outside _ done.2
      simp only [Option.map_some, Function.comp_apply, reacted, type]

end Incoming

end Chassis.Netipmid
