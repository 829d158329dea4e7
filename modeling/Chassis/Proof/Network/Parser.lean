import Chassis.Data.Byte
import Chassis.Proof.Network.Integrity

namespace Chassis.Netipmid
open Data Effect LittleEndian Ipmi20Parser

section Shape

variable (payloadType : UInt8) (sessId sessSeqNum : UInt32) (payloadLength : Nat)
  (rest : List UInt8)

@[simp] theorem length_sessionHeader :
    (sessionHeader payloadType sessId sessSeqNum payloadLength).length = 16 := by
  simp [sessionHeader]

theorem sessionHeader_type :
    (sessionHeader payloadType sessId sessSeqNum payloadLength ++ rest).getD 5 0 = payloadType := by
  simp [sessionHeader]

theorem sessionHeader_id :
    readWord (field (sessionHeader payloadType sessId sessSeqNum payloadLength ++ rest) 6 4) =
      sessId := by
  rw [sessionHeader]
  simp only [List.append_assoc]
  rw [field_append _ (by simp) (by simp), readWord_word]

theorem sessionHeader_sequence :
    readWord (field (sessionHeader payloadType sessId sessSeqNum payloadLength ++ rest) 10 4) =
      sessSeqNum := by
  rw [sessionHeader, List.append_assoc, List.append_assoc, field_append _ (by simp) (by simp),
    readWord_word]

theorem sessionHeader_length (fits : payloadLength < 2 ^ 16) :
    decode (field (sessionHeader payloadType sessId sessSeqNum payloadLength ++ rest) 14 2) =
      payloadLength := by
  rw [sessionHeader, List.append_assoc, field_append _ (by simp) (by simp),
    decode_encode_of_lt (by simpa using fits)]

end Shape

/-- The parts of a packet with a session header are read from their places. -/
theorem unflatten_sessionHeader (crypto : Crypto) {manager : Manager} {session : Session}
    {sessId : UInt32} (found : manager.find sessId = some session) (payloadType : UInt8)
    (sessSeqNum : UInt32) {body : List UInt8} (some : body ≠ []) (fits : body.length < 2 ^ 16)
    (rest : List UInt8) :
    unflatten crypto manager
        (sessionHeader payloadType sessId sessSeqNum body.length ++ (body ++ rest)) =
      let packet := sessionHeader payloadType sessId sessSeqNum body.length ++ (body ++ rest)
      let isPacketEncrypted : Bool := payloadType &&& payloadEncryptMask ≠ 0
      let isPacketAuthenticated : Bool := payloadType &&& payloadAuthMask ≠ 0
      if sessId ≠ sessionZero ∧
          ((session.integrityAlgoInterface.isSome && !isPacketAuthenticated) ||
            (session.cryptAlgoInterface.isSome && !isPacketEncrypted)) then
        raise "unencrypted or unauthenticated message"
      else do
        checkIntegrity crypto packet body.length session isPacketAuthenticated
        let payload ← plainPayload crypto packet body.length session isPacketEncrypted
        return {
          isPacketEncrypted := isPacketEncrypted
          isPacketAuthenticated := isPacketAuthenticated
          payloadType := payloadType &&& 0x3F
          bmcSessionID := sessId
          sessionSeqNum := sessSeqNum
          payload := payload } := by
  have positive : body.length ≠ 0 := by simpa using some
  have long : ¬ 16 + (body.length + rest.length) < sessionHeaderLength := by
    simp only [sessionHeaderLength]
    omega
  have inside : ¬ (body.length = 0 ∨
      16 + (body.length + rest.length) < sessionHeaderLength + body.length) := by
    simp only [sessionHeaderLength]
    omega
  simp only [unflatten, List.length_append, length_sessionHeader, long, if_false,
    sessionHeader_type, sessionHeader_id, sessionHeader_sequence, sessionHeader_length _ _ _ _ _ fits,
    Manager.getSession, found, ok_bind, inside]

/-- Only the body of a packet is decrypted. -/
theorem decryptPayload_append (crypto : Crypto) (algo : CryptAlgo) {header body : List UInt8}
    (rest : List UInt8) {sessHeaderLen : Nat} (before : header.length = sessHeaderLen)
    (initialized : 16 ≤ body.length) :
    algo.decryptPayload crypto (header ++ (body ++ rest)) sessHeaderLen body.length =
      stripConfPad (crypto.decrypt algo.k2 (Block.ofBytes body) (body.drop 16)) := by
  have enough : ¬ (header.length + (body.length + rest.length) < sessHeaderLen + body.length ∨
      body.length < aescbc128ConfHeader) := by
    simp only [aescbc128ConfHeader]
    omega
  rw [CryptAlgo.decryptPayload, List.length_append, List.length_append, if_neg enough]
  simp only [← before, List.drop_left, List.take_left, aescbc128ConfHeader]

/-- A padded payload of whole blocks comes out of its cipher. -/
theorem decryptPayload_encrypt (crypto : Crypto) (algo : CryptAlgo) {header : List UInt8}
    (payload rest : List UInt8) (iv : Block) {count sessHeaderLen : Nat}
    (before : header.length = sessHeaderLen) (whole : (payload.length + count + 1) % 16 = 0) :
    algo.decryptPayload crypto
        (header ++ ((List.ofFn iv ++ crypto.encrypt algo.k2 iv (padded payload count)) ++ rest))
        sessHeaderLen
        (List.ofFn iv ++ crypto.encrypt algo.k2 iv (padded payload count)).length =
      stripConfPad (padded payload count) := by
  have first : (List.ofFn iv).length = 16 := List.length_ofFn
  have long : 16 ≤ (List.ofFn iv ++ crypto.encrypt algo.k2 iv (padded payload count)).length := by
    rw [List.length_append, first]
    omega
  rw [decryptPayload_append crypto algo rest before long, Block.ofBytes_ofFn, List.drop_left' first,
    crypto.decrypt_encrypt _ _ (by rw [length_padded]; exact whole)]

/-- A session header of version 2.0 selects its parser. -/
theorem parser_sessionHeader (crypto : Crypto) (manager : Manager) (payloadType : UInt8)
    (sessId sessSeqNum : UInt32) (payloadLength : Nat) (rest : List UInt8) :
    Parser.unflatten crypto manager
        (sessionHeader payloadType sessId sessSeqNum payloadLength ++ rest) =
      (do
        let message ← unflatten crypto manager
          (sessionHeader payloadType sessId sessSeqNum payloadLength ++ rest)
        return (message, .ipmi20)) := by
  have long : ¬ 16 + rest.length < 4 := by omega
  have first : (sessionHeader payloadType sessId sessSeqNum payloadLength ++ rest).getD 0 0 =
      rmcpVersion := by simp [sessionHeader]
  have second : (sessionHeader payloadType sessId sessSeqNum payloadLength ++ rest).getD 2 0 =
      rmcpSeq := by simp [sessionHeader]
  have third : (sessionHeader payloadType sessId sessSeqNum payloadLength ++ rest).getD 3 0 =
      classOfMsgIpmi := by simp [sessionHeader]
  have format : readByte (sessionHeader payloadType sessId sessSeqNum payloadLength ++ rest) 4 =
      .ok SessionHeader.ipmi20.formatType := by
    simp [readByte, sessionHeader]
  have known : ¬ (classOfMsgIpmi < classOfMsgAsf ∧ classOfMsgOem < classOfMsgIpmi) := by decide
  have other : classOfMsgIpmi ≠ classOfMsgAsf := by decide
  have newer : SessionHeader.ipmi20.formatType ≠ SessionHeader.ipmi15.formatType := by decide
  simp only [Parser.unflatten, List.length_append, length_sessionHeader, long, first, second, third,
    known, ne_eq, not_true_eq_false, or_self, if_false, other, format, ok_bind, newer, if_true]

/-- Both flags of a type are read back with it. -/
theorem type_flags {payloadType : UInt8} (typed : payloadType < 0x40) :
    (payloadType ||| 0x80 ||| 0x40) &&& payloadEncryptMask ≠ 0 ∧
      (payloadType ||| 0x80 ||| 0x40) &&& payloadAuthMask ≠ 0 ∧
      (payloadType ||| 0x80 ||| 0x40) &&& 0x3F = payloadType := by
  have checked := forall_byte (fun byte => !(byte < 0x40) ||
    (((byte ||| 0x80 ||| 0x40) &&& payloadEncryptMask != 0) &&
      ((byte ||| 0x80 ||| 0x40) &&& payloadAuthMask != 0) &&
      ((byte ||| 0x80 ||| 0x40) &&& 0x3F == byte))) (by decide +kernel) payloadType
  simpa [typed, and_assoc] using checked

/-- A payload that was encrypted and sealed under the keys of its session arrives. -/
theorem unflatten_sealed (crypto : Crypto) {manager : Manager} {session : Session}
    {integrityAlgo : IntegrityAlgo} {cryptAlgo : CryptAlgo} {sessId : UInt32}
    (found : manager.find sessId = some session)
    (codes : session.integrityAlgoInterface = some integrityAlgo)
    (cipher : session.cryptAlgoInterface = some cryptAlgo) {payloadType : UInt8}
    (typed : payloadType < 0x40) (sessSeqNum : UInt32) (payload tail : List UInt8) (iv : Block)
    {count : Nat} (known : count ≤ 15) (whole : (payload.length + count + 1) % 16 = 0)
    (fits : payload.length + count + 17 < 2 ^ 16)
    (shape : ∀ body, body = List.ofFn iv ++ crypto.encrypt cryptAlgo.k2 iv (padded payload count) →
      Trailed (sessionHeader (payloadType ||| 0x80 ||| 0x40) sessId sessSeqNum body.length ++
        (body ++ tail)) body.length) :
    let body := List.ofFn iv ++ crypto.encrypt cryptAlgo.k2 iv (padded payload count)
    let trailed := sessionHeader (payloadType ||| 0x80 ||| 0x40) sessId sessSeqNum body.length ++
      (body ++ tail)
    Parser.unflatten crypto manager
        (trailed ++ integrityAlgo.generateHMAC crypto (trailed.drop rmcpSessionHeaderSize)) =
      .ok ({
        isPacketEncrypted := true
        isPacketAuthenticated := true
        payloadType := payloadType
        bmcSessionID := sessId
        sessionSeqNum := sessSeqNum
        payload := payload }, .ipmi20) := by
  intro body trailed
  have encrypted := (type_flags typed).1
  have authenticated := (type_flags typed).2.1
  have kept := (type_flags typed).2.2
  have length : body.length = payload.length + count + 17 := by
    simp only [body, List.length_append, List.length_ofFn, Crypto.length_encrypt, length_padded]
    omega
  have some : body ≠ [] := by
    intro none
    rw [none, List.length_nil] at length
    omega
  have verified : verifyPacketIntegrity crypto
      (trailed ++ integrityAlgo.generateHMAC crypto (trailed.drop rmcpSessionHeaderSize))
      body.length session = .ok true := by
    rw [verifyPacketIntegrity_iff]
    exact ⟨integrityAlgo, codes, trailed, shape body rfl, rfl⟩
  have plain : cryptAlgo.decryptPayload crypto
      (sessionHeader (payloadType ||| 0x80 ||| 0x40) sessId sessSeqNum body.length ++ (body ++
        (tail ++ integrityAlgo.generateHMAC crypto (trailed.drop rmcpSessionHeaderSize))))
      16 body.length = .ok payload := by
    rw [decryptPayload_encrypt crypto cryptAlgo payload _ iv (length_sessionHeader ..) whole,
      stripConfPad_padded payload known]
  have packet : trailed ++ integrityAlgo.generateHMAC crypto (trailed.drop rmcpSessionHeaderSize) =
      sessionHeader (payloadType ||| 0x80 ||| 0x40) sessId sessSeqNum body.length ++ (body ++
        (tail ++ integrityAlgo.generateHMAC crypto (trailed.drop rmcpSessionHeaderSize))) := by
    simp only [trailed, List.append_assoc]
  rw [packet] at verified ⊢
  rw [parser_sessionHeader, unflatten_sessionHeader crypto found _ _ some (by omega)]
  simp only [codes, cipher, encrypted, authenticated, kept, Option.isSome_some, ne_eq,
    not_false_eq_true, decide_true, Bool.not_true, Bool.and_false, Bool.or_self, Bool.false_eq_true,
    and_false, if_false, checkIntegrity, verified, ok_bind, if_true, plainPayload,
    Session.getCryptAlgo, sessionHeaderLength, plain, pure_eq_ok]

end Chassis.Netipmid
