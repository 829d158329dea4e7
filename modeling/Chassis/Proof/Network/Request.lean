import Chassis.Construction.Lanplus.Message
import Chassis.Proof.Network.Parser

namespace Chassis.Netipmid
open Data Effect LittleEndian Ipmi20Parser

/-- Both ends of an active session have agreed on the keys of one cipher suite. -/
structure Agreed (client : Lanplus.IpmiSession) (session : Session) : Prop where
  active : client.sessionState = .active
  integrity : client.integrityAlg = Lanplus.ipmiIntegrityHmacSha256128
  confidentiality : client.cryptAlg = Lanplus.ipmiCryptAesCbc128
  codes : session.integrityAlgoInterface = some ⟨client.k1⟩
  cipher : session.cryptAlgoInterface = some ⟨client.k2⟩

theorem payloadType_lt (payload : Lanplus.Payload) : payload.payloadType < 0x40 := by
  cases payload <;> simp only [Lanplus.Payload.payloadType] <;> decide

/-- The client fills the last block of the cipher with as few bytes as it needs. -/
def clientPad (length : Nat) : Nat :=
  if (length + 1) % 16 = 0 then 0 else 16 - (length + 1) % 16

theorem clientPad_le (length : Nat) : clientPad length ≤ 15 := by
  unfold clientPad
  split <;> omega

theorem clientPad_whole (length : Nat) : (length + clientPad length + 1) % 16 = 0 := by
  unfold clientPad
  split <;> omega

/-- What the client sends in place of the payload. -/
def clientBody (crypto : Crypto) (key : List UInt8) (iv : Block) (payload : List UInt8) :
    List UInt8 :=
  List.ofFn iv ++ crypto.encrypt key iv (padded payload (clientPad payload.length))

theorem length_clientBody (crypto : Crypto) (key : List UInt8) (iv : Block) (payload : List UInt8) :
    (clientBody crypto key iv payload).length =
      16 + (payload.length + clientPad payload.length + 1) := by
  have whole := clientPad_whole payload.length
  rw [clientBody, List.length_append, List.length_ofFn, Crypto.length_encrypt, length_padded]
  omega

theorem lanplusEncryptPayload_eq (crypto : Crypto) (key : List UInt8) (iv : Block)
    {payload : List UInt8} (short : payload.length ≤ 0xFFFF) :
    Lanplus.lanplusEncryptPayload crypto Lanplus.ipmiCryptAesCbc128 key iv payload =
      .ok (clientBody crypto key iv payload) := by
  have algorithm : Lanplus.ipmiCryptAesCbc128 ≠ Lanplus.ipmiCryptNone := by decide
  have fits : ¬ payload.length > 0xFFFF := by omega
  simp only [Lanplus.lanplusEncryptPayload, if_neg algorithm, ne_eq, not_true_eq_false, false_or,
    fits, if_false, Lanplus.ipmiCryptAesCbc128BlockSize]
  rfl

/-- The body of a packet takes whole blocks, so both ends fill its end with two bytes. -/
theorem paddingLen_whole {length : Nat} (whole : length % 16 = 0) : paddingLen length = 2 := by
  unfold paddingLen
  omega

theorem integrityPadSize_whole {length : Nat} (whole : length % 16 = 0) (oem : Option Lanplus.Oem) :
    Lanplus.integrityPadSize oem length = if oem = some .icts then 0 else 2 := by
  have counted : (12 + length + 1 + 1) % 4 = 2 := by omega
  have uncounted : (12 + length) % 4 = 0 := by omega
  unfold Lanplus.integrityPadSize
  split <;> simp [counted, uncounted]

/-- What stands between the body of a packet and its code. -/
def clientTail (oem : Option Lanplus.Oem) : List UInt8 :=
  if oem = some .icts then [0, 7] else [0xFF, 0xFF, 2, 7]

/-- The whole packet before its code. -/
def clientTrailed (oem : Option Lanplus.Oem) (payloadType : UInt8) (session : Lanplus.IpmiSession)
    (body : List UInt8) : List UInt8 :=
  sessionHeader (payloadType ||| 0x80 ||| 0x40) session.bmcId session.outSeq body.length ++
    (body ++ clientTail oem)

theorem clientTrailed_trailed {oem : Option Lanplus.Oem} (other : oem ≠ some .icts)
    (payloadType : UInt8) (session : Lanplus.IpmiSession) {body : List UInt8}
    (whole : body.length % 16 = 0) :
    Trailed (clientTrailed oem payloadType session body) body.length := by
  have pad := paddingLen_whole whole
  constructor
  · rw [clientTrailed, clientTail, if_neg other, pad]
    simp [sessionHeaderLength, sessionTrailerLength]
    omega
  · have front : (sessionHeader (payloadType ||| 0x80 ||| 0x40) session.bmcId session.outSeq
        body.length ++ body).length = sessionHeaderLength + body.length := by
      simp [sessionHeaderLength]
    rw [clientTrailed, clientTail, if_neg other, pad, ← List.append_assoc, List.getD_append_right _ _ _ _ (by omega), front]
    simp

/-- The client seals the packets of an active session. -/
theorem buildV2xMsg_eq (crypto : Crypto) (oem : Option Lanplus.Oem) (iv : Block) {client : Lanplus.IpmiSession}
    {session : Session} (agreed : Agreed client session) {payload : Lanplus.Payload}
    (short : payload.wire.length ≤ 65503) :
    Lanplus.buildV2xMsg crypto oem iv client payload =
      let trailed := clientTrailed oem payload.payloadType client
        (clientBody crypto client.k2 iv payload.wire)
      .ok (trailed ++ (IntegrityAlgo.mk client.k1).generateHMAC crypto
          (trailed.drop rmcpSessionHeaderSize),
        { client with outSeq := Lanplus.nextOutSeq client.outSeq }) := by
  have length := length_clientBody crypto client.k2 iv payload.wire
  have whole := clientPad_whole payload.wire.length
  have bound := clientPad_le payload.wire.length
  have fits : (clientBody crypto client.k2 iv payload.wire).length % 2 ^ 16 =
      (clientBody crypto client.k2 iv payload.wire).length := by
    omega
  have filled : (clientBody crypto client.k2 iv payload.wire).length % 16 = 0 := by omega
  have pad := integrityPadSize_whole filled oem
  have encrypted : Lanplus.ipmiCryptAesCbc128 ≠ Lanplus.ipmiCryptNone := by decide
  have authenticated : Lanplus.ipmiIntegrityHmacSha256128 ≠ Lanplus.ipmiIntegrityNone := by decide
  have digest : Lanplus.digestOf Lanplus.ipmiIntegrityHmacSha256128 = .ok .sha256 := by decide
  have code : Lanplus.authcodeLength Lanplus.ipmiIntegrityHmacSha256128 = .ok 16 := by decide
  simp only [Lanplus.buildV2xMsg, agreed.active, agreed.integrity, agreed.confidentiality, true_and,
    encrypted, authenticated, ne_eq, not_false_eq_true, if_true,
    lanplusEncryptPayload_eq crypto client.k2 iv (by omega : payload.wire.length ≤ 0xFFFF), ok_bind,
    fits, List.take_length, Lanplus.sessionTrailer, pad, Lanplus.lanplusHMAC, digest, code,
    pure_eq_ok]
  have packet : [Lanplus.rmcpVersion1, 0x00, 0xFF, Lanplus.rmcpClassIpmi,
      Lanplus.ipmiSessionAuthtypeRmcpPlus, payload.payloadType ||| 0x80 ||| 0x40] ++
        word client.bmcId ++ word client.outSeq ++
        encode 2 (clientBody crypto client.k2 iv payload.wire).length ++
        clientBody crypto client.k2 iv payload.wire ++
        List.replicate (if oem = some .icts then 0 else 2) 0xFF ++
        [UInt8.ofNat (if oem = some .icts then 0 else 2), 0x07] =
      clientTrailed oem payload.payloadType client (clientBody crypto client.k2 iv payload.wire) := by
    rw [clientTrailed, clientTail, sessionHeader]
    simp only [List.append_assoc]
    split <;> rfl
  rw [packet]
  rfl

theorem unflatten_request (crypto : Crypto) {oem : Option Lanplus.Oem} (other : oem ≠ some .icts)
    (iv : Block) {manager : Manager} {session : Session} {client : Lanplus.IpmiSession}
    (agreed : Agreed client session)
    (found : manager.find client.bmcId = some session) (payload : Lanplus.Payload)
    (short : payload.wire.length ≤ 65503) :
    let trailed := clientTrailed oem payload.payloadType client
      (clientBody crypto client.k2 iv payload.wire)
    Parser.unflatten crypto manager (trailed ++ (IntegrityAlgo.mk client.k1).generateHMAC crypto
        (trailed.drop rmcpSessionHeaderSize)) = .ok ({
      isPacketEncrypted := true
      isPacketAuthenticated := true
      payloadType := payload.payloadType
      bmcSessionID := client.bmcId
      sessionSeqNum := client.outSeq
      payload := payload.wire }, .ipmi20) := by
  have bound := clientPad_le payload.wire.length
  have typed := payloadType_lt payload
  apply unflatten_sealed crypto found agreed.codes agreed.cipher typed client.outSeq payload.wire
    (clientTail oem) iv bound (clientPad_whole _) (by omega)
  intro body same
  subst same
  have length := length_clientBody crypto client.k2 iv payload.wire
  have whole := clientPad_whole payload.wire.length
  have filled : (clientBody crypto client.k2 iv payload.wire).length % 16 = 0 := by omega
  exact clientTrailed_trailed other payload.payloadType client filled

/-- The packets for one make of controllers are too short for their pad. -/
theorem unflatten_icts (crypto : Crypto) (iv : Block) {manager : Manager} {session : Session}
    {client : Lanplus.IpmiSession} (agreed : Agreed client session)
    (found : manager.find client.bmcId = some session) (payload : Lanplus.Payload)
    (short : payload.wire.length ≤ 65503) :
    let trailed := clientTrailed (some .icts) payload.payloadType client
      (clientBody crypto client.k2 iv payload.wire)
    Parser.unflatten crypto manager (trailed ++ (IntegrityAlgo.mk client.k1).generateHMAC crypto
        (trailed.drop rmcpSessionHeaderSize)) = raise "Packet Integrity check failed" := by
  intro trailed
  have typed := payloadType_lt payload
  have bound := clientPad_le payload.wire.length
  have length := length_clientBody crypto client.k2 iv payload.wire
  have whole := clientPad_whole payload.wire.length
  have filled : (clientBody crypto client.k2 iv payload.wire).length % 16 = 0 := by omega
  have pad := paddingLen_whole filled
  have some : clientBody crypto client.k2 iv payload.wire ≠ [] := by
    intro none
    rw [none, List.length_nil] at length
    omega
  have cut : (trailed ++ (IntegrityAlgo.mk client.k1).generateHMAC crypto
      (trailed.drop rmcpSessionHeaderSize)).length <
        sessionHeaderLength + (clientBody crypto client.k2 iv payload.wire).length +
          paddingLen (clientBody crypto client.k2 iv payload.wire).length + sessionTrailerLength +
            sha256128AuthcodeLength := by
    rw [List.length_append, length_generateHMAC, pad]
    simp [trailed, clientTrailed, clientTail, sessionHeaderLength, sessionTrailerLength,
      sha256128AuthcodeLength]
    omega
  have refused := verifyPacketIntegrity_short crypto _ _ agreed.codes cut
  have packet : trailed ++ (IntegrityAlgo.mk client.k1).generateHMAC crypto
      (trailed.drop rmcpSessionHeaderSize) =
      sessionHeader (payload.payloadType ||| 0x80 ||| 0x40) client.bmcId client.outSeq
        (clientBody crypto client.k2 iv payload.wire).length ++
          (clientBody crypto client.k2 iv payload.wire ++ ([0, 7] ++
            (IntegrityAlgo.mk client.k1).generateHMAC crypto
              (trailed.drop rmcpSessionHeaderSize))) := by
    simp only [trailed, clientTrailed, clientTail, if_true, List.append_assoc]
  rw [packet] at refused ⊢
  rw [parser_sessionHeader, unflatten_sessionHeader crypto found _ _ some (by omega)]
  simp only [agreed.codes, agreed.cipher, (type_flags typed).1, (type_flags typed).2.1,
    Option.isSome_some, ne_eq, not_false_eq_true, decide_true, Bool.not_true, Bool.and_false,
    Bool.or_self, Bool.false_eq_true, and_false, if_false, checkIntegrity, refused, ok_bind]
  rfl

/-- Every request of an active session arrives as it was sent, unless it was built for one make of
controllers, whose requests are all refused. -/
theorem request_received (crypto : Crypto) (oem : Option Lanplus.Oem) (iv : Block)
    {manager : Manager} {session : Session} {client : Lanplus.IpmiSession}
    (agreed : Agreed client session) (found : manager.find client.bmcId = some session)
    (payload : Lanplus.Payload) (short : payload.wire.length ≤ 65503) :
    ∃ packet, Lanplus.buildV2xMsg crypto oem iv client payload =
        .ok (packet, { client with outSeq := Lanplus.nextOutSeq client.outSeq }) ∧
      Parser.unflatten crypto manager packet =
        if oem = some .icts then raise "Packet Integrity check failed"
        else .ok ({
          isPacketEncrypted := true
          isPacketAuthenticated := true
          payloadType := payload.payloadType
          bmcSessionID := client.bmcId
          sessionSeqNum := client.outSeq
          payload := payload.wire }, .ipmi20) := by
  refine ⟨_, buildV2xMsg_eq crypto oem iv agreed short, ?_⟩
  split
  next make =>
    subst make
    exact unflatten_icts crypto iv agreed found payload short
  next other => exact unflatten_request crypto other iv agreed found payload short

section Sample

/-- A user named "root" with the password "secret". -/
def rootName : List UInt8 := [0x72, 0x6F, 0x6F, 0x74]

def rootKey : List UInt8 := [0x73, 0x65, 0x63, 0x72, 0x65, 0x74] ++ List.replicate 14 0

def consoleRandom : List UInt8 := (List.range 16).map fun index => 0x10 + UInt8.ofNat index

def bmcRandom : Block := fun index => 0x20 + UInt8.ofNat index.val

def consoleIv : Block := fun index => 0x40 + UInt8.ofNat index.val

def rootRole : List UInt8 := [0x14, 4] ++ rootName

def rootCode2 : List UInt8 :=
  [0x81, 0x44, 0xCB, 0x42, 0x9D, 0x79, 0xE9, 0x91, 0xB4, 0xF3, 0x25, 0xE4, 0xED, 0xA6, 0x85, 0x16,
   0xAD, 0xC5, 0x56, 0x6D, 0x67, 0x32, 0xC7, 0xA0, 0x78, 0xE1, 0x62, 0x4E, 0x1E, 0x3F, 0x66, 0x20]

def rootCode3 : List UInt8 :=
  [0x49, 0xAC, 0x75, 0x00, 0xEB, 0xF3, 0x4F, 0xCD, 0xA6, 0xDE, 0x13, 0xC2, 0x49, 0x20, 0xCB, 0x77,
   0x4E, 0x7C, 0x0C, 0xD4, 0xCB, 0x8A, 0xFF, 0x7D, 0x15, 0xCB, 0xF8, 0xAD, 0x54, 0xF5, 0xF4, 0x48]

def rootSik : List UInt8 :=
  [0xA2, 0x79, 0x1E, 0xD1, 0x73, 0xBE, 0x85, 0xAD, 0x25, 0x28, 0x8F, 0x0C, 0x52, 0x38, 0x0A, 0x4D,
   0x56, 0x03, 0x9B, 0x4A, 0xD3, 0xE9, 0xBB, 0x7A, 0x09, 0xFC, 0x87, 0x29, 0x6A, 0x46, 0x8B, 0xCB]

def rootIcv : List UInt8 :=
  [0xD7, 0xDB, 0xED, 0xAB, 0xF6, 0x36, 0xA0, 0x1A, 0xF3, 0xFE, 0x21, 0x15, 0x35, 0xAA, 0xF3, 0x2F,
   0xC3, 0x5E, 0x49, 0x1F, 0xE1, 0xE8, 0x4D, 0x3D, 0x46, 0x8B, 0x1C, 0xB2, 0x52, 0xB9, 0x69, 0x35]

def rootK1 : List UInt8 :=
  [0xEC, 0xC0, 0x1A, 0xB0, 0x80, 0x90, 0x11, 0xD7, 0xDA, 0x34, 0x4B, 0x3A, 0xE1, 0x7C, 0xEE, 0xD5,
   0x62, 0xA0, 0x31, 0x0F, 0x0B, 0x3D, 0xEB, 0x6D, 0xC3, 0x03, 0x62, 0x90, 0xFE, 0xE4, 0x09, 0x3D]

def rootK2 : List UInt8 :=
  [0x7E, 0xEC, 0x4A, 0x5F, 0x14, 0x8A, 0x84, 0x20, 0x4C, 0xF1, 0x5A, 0xF9, 0x4D, 0xF3, 0xED, 0x92,
   0x22, 0x7B, 0x94, 0xEB, 0xB6, 0x61, 0xE8, 0x49, 0xF1, 0x5D, 0xF2, 0xD5, 0x35, 0x16, 0xDC, 0x74]

def rootCode : List UInt8 :=
  [0x8A, 0xC8, 0x0F, 0xB4, 0x79, 0x25, 0x1F, 0x0F, 0xB6, 0x78, 0x1E, 0xBF, 0x0C, 0x17, 0xA8, 0x18,
   0x0B, 0x66, 0x3C, 0x0C, 0x89, 0x18, 0xD9, 0xD0, 0xB8, 0x5A, 0xD0, 0xFF, 0x2E, 0x70, 0x0E, 0x73]

/-- A request for the level of an administrator. -/
def levelRequest : Lanplus.Payload := .ipmi 1 ⟨6, 0, 0x3B, [4]⟩

def levelBlock : Block := Block.ofBytes
  [0x60, 0x59, 0x8A, 0xC2, 0x40, 0x7E, 0x42, 0x7B, 0x49, 0x4B, 0x49, 0x4F, 0x49, 0x4B, 0x49, 0x48]

def levelCipher : Block := Block.ofBytes
  [0x4B, 0xCA, 0x89, 0x78, 0xEE, 0x36, 0x71, 0x46, 0x9C, 0xD3, 0x7B, 0xBE, 0xB8, 0x5C, 0x78, 0x08]

def bmcIv : Block := fun index => 0x50 + UInt8.ofNat index.val

def replyBlock : Block := Block.ofBytes
  [0xD1, 0x4D, 0x31, 0x73, 0x50, 0x6E, 0x56, 0x53, 0xC5, 0x58, 0x58, 0x58, 0x58, 0x58, 0x58, 0x59]

def replyCipher : Block := Block.ofBytes
  [0x76, 0x4A, 0x2E, 0xF0, 0xF6, 0x4F, 0xC5, 0xFB, 0x84, 0xE1, 0xED, 0xF7, 0x14, 0xEC, 0xFB, 0x77]

def replyCode : List UInt8 :=
  [0xBF, 0x8D, 0xFE, 0x6A, 0x88, 0x75, 0x48, 0xF5, 0x71, 0xB0, 0xFF, 0xB5, 0x6C, 0xCC, 0x13, 0x8E,
   0x8C, 0xF4, 0xD8, 0x2A, 0xD5, 0x36, 0x23, 0x53, 0xF6, 0x98, 0x4E, 0xBE, 0x92, 0x3E, 0xA2, 0xC3]

def replyTrailed : List UInt8 :=
  sessionHeader 0xC0 0xA0A2A3A4 1 32 ++ (List.ofFn bmcIv ++ List.ofFn replyCipher ++ [0xFF, 0xFF, 2, 7])

/-- The client of the session of that user. -/
def rootClient : Lanplus.IpmiSession where
  sessionState := .active
  outSeq := 10
  authcode := rootKey
  authAlg := Lanplus.ipmiAuthRakpHmacSha256
  integrityAlg := Lanplus.ipmiIntegrityHmacSha256128
  cryptAlg := Lanplus.ipmiCryptAesCbc128
  maxPrivLevel := 4
  consoleId := 0xA0A2A3A4
  bmcId := 1
  consoleRand := consoleRandom
  bmcRand := List.ofFn bmcRandom
  requestedRole := 0x14
  sik := rootSik
  k1 := rootK1
  k2 := rootK2

/-- The request as it arrives. -/
def levelMessage : Message where
  isPacketEncrypted := true
  isPacketAuthenticated := true
  payloadType := payloadTypeIpmi
  bmcSessionID := 1
  sessionSeqNum := 10
  payload := levelRequest.wire

def levelTrailed : List UInt8 :=
  clientTrailed none levelRequest.payloadType rootClient (List.ofFn consoleIv ++ List.ofFn levelCipher)

def levelPacket : List UInt8 := levelTrailed ++ rootCode.take 16

/-- A request for what the host knows about itself. -/
def deviceRequest : Lanplus.Payload := .ipmi 1 ⟨6, 0, 0x01, []⟩

def deviceBlock : Block := Block.ofBytes
  [0x60, 0x59, 0x8A, 0xC2, 0x40, 0x44, 0x3C, 0x46, 0x4A, 0x4A, 0x4E, 0x4E, 0x4A, 0x4A, 0x46, 0x47]

def deviceCipher : Block := Block.ofBytes
  [0x47, 0xCF, 0x2B, 0x43, 0x8C, 0x0B, 0xD7, 0x7B, 0xBA, 0x83, 0x5C, 0xE4, 0xCB, 0x0E, 0x21, 0x19]

def deviceCode : List UInt8 :=
  [0x67, 0x26, 0x93, 0x28, 0x3D, 0xB8, 0x2F, 0x37, 0x57, 0xE0, 0x10, 0x9A, 0x15, 0xDC, 0xC0, 0xE0,
   0xB0, 0xD1, 0x05, 0xD0, 0xC8, 0xCF, 0x2E, 0x90, 0xC3, 0x81, 0xB9, 0xC1, 0xD2, 0xF6, 0xD5, 0xD4]

def deviceTrailed : List UInt8 :=
  clientTrailed none deviceRequest.payloadType rootClient
    (List.ofFn consoleIv ++ List.ofFn deviceCipher)

def devicePacket : List UInt8 := deviceTrailed ++ deviceCode.take 16

/-- What the library answers in the setup of that session and to either request. -/
def rootCrypto : Crypto := Crypto.recorded
  [ ((rootKey, word 0xA0A2A3A4 ++ word 1 ++ consoleRandom ++ List.ofFn bmcRandom ++
        List.replicate 16 0 ++ rootRole), rootCode2),
    ((rootKey, List.ofFn bmcRandom ++ word 0xA0A2A3A4 ++ rootRole), rootCode3),
    ((rootKey, consoleRandom ++ List.ofFn bmcRandom ++ rootRole), rootSik),
    ((rootSik, consoleRandom ++ word 1 ++ List.replicate 16 0), rootIcv),
    ((rootSik, const1), rootK1),
    ((rootSik, const2), rootK2),
    ((rootK1, levelTrailed.drop rmcpSessionHeaderSize), rootCode),
    ((rootK1, replyTrailed.drop rmcpSessionHeaderSize), replyCode),
    ((rootK1, deviceTrailed.drop rmcpSessionHeaderSize), deviceCode) ]
  [ (rootK2.take 16, levelBlock, levelCipher), (rootK2.take 16, replyBlock, replyCipher),
    (rootK2.take 16, deviceBlock, deviceCipher) ]

def rootSession : Session where
  bmcSessionID := 1
  remoteConsoleSessionID := 0xA0A2A3A4
  reqMaxPrivLevel := 0x14
  integrityAlgoInterface := some ⟨rootK1⟩
  cryptAlgoInterface := some ⟨rootK2⟩
  state := .active

def rootManager : Manager :=
  { managerInit 0 with sessionsMap := [(sessionZero, sessionZeroEntry), (1, rootSession)] }

theorem request_received_root : ∃ packet,
    Lanplus.buildV2xMsg rootCrypto none consoleIv rootClient levelRequest =
      .ok (packet, { rootClient with outSeq := 11 }) ∧
    Parser.unflatten rootCrypto rootManager packet = .ok (levelMessage, .ipmi20) :=
  request_received rootCrypto none consoleIv
    (show Agreed rootClient rootSession from ⟨rfl, rfl, rfl, rfl, rfl⟩) rfl levelRequest (by decide)

end Sample

end Chassis.Netipmid
