import Chassis.Proof.Network.Handshake

namespace Chassis.Netipmid
open Data Effect LittleEndian Manager Ipmi20Parser

section Seal

/-- The server always fills the last block of the cipher, with sixteen bytes where it is full. -/
def serverPad (length : Nat) : Nat := 16 - (length + 1) % 16

theorem serverPad_le (length : Nat) : serverPad length ≤ 16 := by
  unfold serverPad
  omega

theorem serverPad_whole (length : Nat) : (length + serverPad length + 1) % 16 = 0 := by
  unfold serverPad
  omega

/-- What the server sends in place of the payload. -/
def serverBody (crypto : Crypto) (key : List UInt8) (iv : Block) (payload : List UInt8) :
    List UInt8 :=
  List.ofFn iv ++ crypto.encrypt key iv (padded payload (serverPad payload.length))

theorem length_serverBody (crypto : Crypto) (key : List UInt8) (iv : Block) (payload : List UInt8) :
    (serverBody crypto key iv payload).length =
      16 + (payload.length + serverPad payload.length + 1) := by
  have whole := serverPad_whole payload.length
  rw [serverBody, List.length_append, List.length_ofFn, Crypto.length_encrypt, length_padded]
  omega

/-- The whole packet before its code. -/
def serverTrailed (payloadType : UInt8) (sessId sessSeqNum : UInt32) (body : List UInt8) :
    List UInt8 :=
  sessionHeader (payloadType ||| 0x80 ||| 0x40) sessId sessSeqNum body.length ++
    (body ++ [0xFF, 0xFF, 2, 7])

theorem length_serverTrailed (payloadType : UInt8) (sessId sessSeqNum : UInt32) (body : List UInt8) :
    (serverTrailed payloadType sessId sessSeqNum body).length = 20 + body.length := by
  simp [serverTrailed]
  omega

theorem addSequenceNumber_same (outMessage : Message) (session : Session) :
    (addSequenceNumber outMessage session).2.integrityAlgoInterface = session.integrityAlgoInterface ∧
      (addSequenceNumber outMessage session).2.cryptAlgoInterface = session.cryptAlgoInterface := by
  unfold addSequenceNumber
  split <;> exact ⟨rfl, rfl⟩

/-- An answer in a session is sealed under the keys of the session. -/
theorem flatten_sealed (crypto : Crypto) (iv : Block) {session : Session} {k1 k2 : List UInt8}
    (codes : session.integrityAlgoInterface = some ⟨k1⟩)
    (cipher : session.cryptAlgoInterface = some ⟨k2⟩) {outMessage : Message}
    (flags : outMessage.isPacketEncrypted = true ∧ outMessage.isPacketAuthenticated = true) :
    Parser.flatten crypto iv outMessage .ipmi20 session =
      (.ok (serverTrailed outMessage.payloadType outMessage.rcSessionID
          (addSequenceNumber outMessage session).1 (serverBody crypto k2 iv outMessage.payload) ++
        (IntegrityAlgo.mk k1).generateHMAC crypto
          ((serverTrailed outMessage.payloadType outMessage.rcSessionID
            (addSequenceNumber outMessage session).1
            (serverBody crypto k2 iv outMessage.payload)).drop rmcpSessionHeaderSize)),
        (addSequenceNumber outMessage session).2) := by
  obtain ⟨sameCodes, sameCipher⟩ := addSequenceNumber_same outMessage session
  have whole := serverPad_whole outMessage.payload.length
  have length := length_serverBody crypto k2 iv outMessage.payload
  have pad : paddingLen (serverBody crypto k2 iv outMessage.payload).length = 2 :=
    paddingLen_whole (by omega)
  have body : (CryptAlgo.mk k2).encryptPayload crypto iv outMessage.payload =
      serverBody crypto k2 iv outMessage.payload := rfl
  simp only [Parser.flatten, flatten, flags.1, flags.2, if_true, cipherPayload, Session.getCryptAlgo,
    sameCipher, cipher, ok_bind, pure_eq_ok, body, addIntegrityData, Session.getIntegrityAlgo, sameCodes,
    codes, pad]
  simp only [serverTrailed, List.append_assoc]
  rfl

end Seal

section Receive

variable (crypto : Crypto) {client : Lanplus.IpmiSession} {session : Session}

/-- A code at the end of a packet is found to be valid where it was made with the key of the client. -/
theorem hasValidAuthCode_sealed (agreed : Agreed client session) {header : Lanplus.SessionData}
    (format : header.authtype = Lanplus.ipmiSessionAuthtypeRmcpPlus)
    (authenticated : header.bAuthenticated = true) {trailed : List UInt8} (long : 4 ≤ trailed.length)
    (rest : List UInt8) :
    let code := (IntegrityAlgo.mk client.k1).generateHMAC crypto (trailed.drop rmcpSessionHeaderSize)
    Lanplus.lanplusHasValidAuthCode crypto client header (trailed ++ (code ++ rest))
      (trailed ++ code).length = .ok true := by
  intro code
  have count : code.length = 16 := length_generateHMAC ..
  have inside : ¬ trailed.length + 16 < 4 + 16 := by omega
  have other : Lanplus.ipmiIntegrityHmacSha256128 ≠ Lanplus.ipmiIntegrityNone := by decide
  have length : Lanplus.authcodeLength Lanplus.ipmiIntegrityHmacSha256128 = .ok 16 := by decide
  have digest : Lanplus.digestOf Lanplus.ipmiIntegrityHmacSha256128 = .ok .sha256 := by decide
  have ends : ((trailed ++ (code ++ rest)).drop (trailed.length + 16 - 16)).take 16 = code := by
    rw [Nat.add_sub_cancel, List.drop_left, ← count, List.take_left]
  have covered : ((trailed ++ (code ++ rest)).drop 4).take (trailed.length + 16 - 4 - 16) =
      trailed.drop 4 := by
    have size : trailed.length + 16 - 4 - 16 = (trailed.drop 4).length := by
      rw [List.length_drop]
      omega
    rw [List.drop_append_of_le_length long, size, List.take_left]
  have made : (crypto.hmac .sha256 client.k1 (trailed.drop 4)).take 16 = code := rfl
  simp only [Lanplus.lanplusHasValidAuthCode, format, agreed.active, authenticated, agreed.integrity,
    other, ne_eq, not_true_eq_false, Bool.true_eq_false, or_self, if_false, length, ok_bind,
    List.length_append, count, Lanplus.ipmiLanplusOffsetAuthtype, inside, ends, covered,
    Lanplus.lanplusHMAC, digest, pure_eq_ok, made, beq_self_eq_true]

/-- What the server has encrypted stands in the buffer of the client again. -/
theorem decryptInPlace_sealed (agreed : Agreed client session) {header : Lanplus.SessionData}
    (format : header.authtype = Lanplus.ipmiSessionAuthtypeRmcpPlus)
    (encrypted : header.bEncrypted = true) (iv : Block) {payload : List UInt8}
    (length : header.msglen = (serverBody crypto client.k2 iv payload).length)
    (short : payload.length < 2 ^ 16) (front rest : List UInt8) :
    ∃ tail, Lanplus.decryptInPlace crypto client header
        (front ++ (serverBody crypto client.k2 iv payload ++ rest)) front.length =
      .ok (front ++ payload ++ tail, payload.length) := by
  have size := length_serverBody crypto client.k2 iv payload
  have whole := serverPad_whole payload.length
  have bound := serverPad_le payload.length
  have ranged : Lanplus.bufferRange (front ++ (serverBody crypto client.k2 iv payload ++ rest))
      front.length (serverBody crypto client.k2 iv payload).length =
        .ok (serverBody crypto client.k2 iv payload) := by
    have inside : ¬ front.length + ((serverBody crypto client.k2 iv payload).length + rest.length) <
        front.length + (serverBody crypto client.k2 iv payload).length := by
      omega
    rw [Lanplus.bufferRange, List.length_append, List.length_append, if_neg inside, List.drop_left,
      List.take_left]
  have some : Lanplus.ipmiCryptAesCbc128 ≠ Lanplus.ipmiCryptNone := by decide
  have long : ¬ (serverBody crypto client.k2 iv payload).length < 16 := by omega
  have blocks : ((serverBody crypto client.k2 iv payload).drop 16).length % 16 = 0 := by
    rw [List.length_drop]
    omega
  have first : Block.ofBytes (serverBody crypto client.k2 iv payload) = iv := Block.ofBytes_ofFn iv _
  have plain : crypto.decrypt client.k2 iv ((serverBody crypto client.k2 iv payload).drop 16) =
      padded payload (serverPad payload.length) := by
    rw [serverBody, List.drop_left' List.length_ofFn, crypto.decrypt_encrypt]
    rw [length_padded]
    exact whole
  have decrypted : Lanplus.lanplusDecryptPayload crypto Lanplus.ipmiCryptAesCbc128 client.k2
      (serverBody crypto client.k2 iv payload) =
        .ok (padded payload (serverPad payload.length), payload.length) := by
    simp only [Lanplus.lanplusDecryptPayload, some, if_false, ne_eq, not_true_eq_false,
      Lanplus.ipmiCryptAesCbc128BlockSize, long, blocks, first, plain,
      Lanplus.stripPad_padded payload (by omega : serverPad payload.length < 256) short]
  exists countedPad (serverPad payload.length) ++ [UInt8.ofNat (serverPad payload.length)] ++
    (front ++ (serverBody crypto client.k2 iv payload ++ rest)).drop
      (front.length + (padded payload (serverPad payload.length)).length)
  simp only [Lanplus.decryptInPlace, agreed.active, format, encrypted, and_self, if_true, length, ranged,
    ok_bind, agreed.confidentiality, decrypted, pure_eq_ok, Lanplus.overwrite, List.take_left]
  simp only [padded, List.append_assoc]

/-- The packet of an answer in the session of a client. -/
def serverPacket (client : Lanplus.IpmiSession) (payloadType : UInt8) (sessSeqNum : UInt32)
    (iv : Block) (payload : List UInt8) : List UInt8 :=
  let trailed := serverTrailed payloadType client.consoleId sessSeqNum
    (serverBody crypto client.k2 iv payload)
  trailed ++ (IntegrityAlgo.mk client.k1).generateHMAC crypto (trailed.drop rmcpSessionHeaderSize)

/-- A sealed answer that fits into the buffer of the client is taken apart to what was sent. -/
theorem pollSingle_sealed (agreed : Agreed client session) (entries : List Lanplus.RqEntry)
    (previousId : UInt32) (stale : List UInt8) {payloadType : UInt8} (typed : payloadType < 0x40)
    (sessSeqNum : UInt32) (iv : Block) {payload : List UInt8} (short : payload.length ≤ 954) :
    ∃ front tail, front.length = 16 ∧
      Lanplus.ipmiLanPollSingle crypto client entries previousId stale
          (serverPacket crypto client payloadType sessSeqNum iv payload) =
        Lanplus.dispatchPayload client entries
          (sessionData (payloadType ||| 0x80 ||| 0x40) client.consoleId
            (serverBody crypto client.k2 iv payload).length)
          (front ++ payload ++ tail) 16 payload.length := by
  have size := length_serverBody crypto client.k2 iv payload
  have bound := serverPad_le payload.length
  obtain ⟨encrypted, authenticated, _⟩ := type_flags typed
  generalize part : serverBody crypto client.k2 iv payload = body at size ⊢
  generalize made : (IntegrityAlgo.mk client.k1).generateHMAC crypto
    ((serverTrailed payloadType client.consoleId sessSeqNum body).drop rmcpSessionHeaderSize) = code
  have count : code.length = 16 := by
    rw [← made]
    exact length_generateHMAC ..
  have fits : body.length < 2 ^ 16 := by omega
  have room : (body ++ ([0xFF, 0xFF, 2, 7] ++ code)).length < 1008 := by
    simp only [List.length_append, count, List.length_cons, List.length_nil]
    omega
  have packet : serverPacket crypto client payloadType sessSeqNum iv payload =
      sessionHeader (payloadType ||| 0x80 ||| 0x40) client.consoleId sessSeqNum body.length ++
        (body ++ ([0xFF, 0xFF, 2, 7] ++ code)) := by
    rw [serverPacket, part, made]
    simp only [serverTrailed, List.append_assoc]
  have polled := pollSingle_sessionHeader (payloadType ||| 0x80 ||| 0x40) client.consoleId sessSeqNum
    crypto client entries previousId stale fits room
  dsimp only at polled
  generalize 0 :: stale.drop _ = rest at polled
  have format : (sessionData (payloadType ||| 0x80 ||| 0x40) client.consoleId body.length).authtype =
    Lanplus.ipmiSessionAuthtypeRmcpPlus := rfl
  have trailed : serverTrailed payloadType client.consoleId sessSeqNum body =
      sessionHeader (payloadType ||| 0x80 ||| 0x40) client.consoleId sessSeqNum body.length ++
        (body ++ [0xFF, 0xFF, 2, 7]) := rfl
  have long : 4 ≤ (serverTrailed payloadType client.consoleId sessSeqNum body).length := by
    rw [length_serverTrailed]
    omega
  have sixteen : (sessionHeader (payloadType ||| 0x80 ||| 0x40) client.consoleId sessSeqNum
      body.length).length = 16 := length_sessionHeader ..
  generalize sessionHeader (payloadType ||| 0x80 ||| 0x40) client.consoleId sessSeqNum body.length =
    front at *
  have valid := hasValidAuthCode_sealed crypto agreed format (decide_eq_true authenticated) long rest
  obtain ⟨tail, decrypted⟩ := decryptInPlace_sealed crypto agreed format (decide_eq_true encrypted) iv
    (congrArg List.length part.symm) (by omega) front ([0xFF, 0xFF, 2, 7] ++ code ++ rest)
  refine ⟨front, tail, sixteen, ?_⟩
  rw [made, trailed] at valid
  simp only [part, sixteen, List.append_assoc] at valid decrypted polled
  simp only [packet, polled, ne_eq, not_true_eq_false, and_false, if_false, valid, Except.bind,
    Bool.true_eq_false, decrypted, List.append_assoc]

end Receive

section Command

variable {daemon : Daemon} {moment : Moment} {elsewhere : Elsewhere} {manager : Manager}
  {client : Lanplus.IpmiSession}

/-- What a request is looked up under: its function with the unit, and its command. -/
def commandOf (request : Lanplus.IpmiRq) : UInt32 :=
  (request.netfn <<< 2 ||| request.lun &&& 3).toUInt32 <<< 8 ||| request.cmd.toUInt32

/-- The message of a request. -/
def requestMessage (client : Lanplus.IpmiSession) (rqSeq : UInt8) (request : Lanplus.IpmiRq) :
    Message where
  isPacketEncrypted := true
  isPacketAuthenticated := true
  payloadType := payloadTypeIpmi
  rcSessionID := client.consoleId
  bmcSessionID := client.bmcId
  sessionSeqNum := client.outSeq
  payload := Lanplus.getIpmiPayloadWireRep rqSeq request

/-- A message that carries a request. -/
structure Message.Requests (message : Message) (rqSeq : UInt8) (request : Lanplus.IpmiRq) : Prop where
  type : message.payloadType = payloadTypeIpmi
  wire : message.payload = Lanplus.getIpmiPayloadWireRep rqSeq request

theorem requestMessage_requests (client : Lanplus.IpmiSession) (rqSeq : UInt8)
    (request : Lanplus.IpmiRq) : (requestMessage client rqSeq request).Requests rqSeq request :=
  ⟨rfl, rfl⟩

variable {message : Message} {rqSeq : UInt8} {request : Lanplus.IpmiRq}

theorem Message.Requests.getCommand (requests : message.Requests rqSeq request) :
    message.getCommand = .ok (commandOf request) := by
  simp [Message.getCommand, requests.type, requests.wire, Lanplus.getIpmiPayloadWireRep, readByte,
    commandOf, payloadTypeIpmi]

/-- The command of a request is run on its data. -/
theorem Message.Requests.executeCommand (requests : message.Requests rqSeq request) {session : Session}
    (enabled : session.sessionUserPrivAccess.ipmiEnabled = true) :
    Handler.executeCommand daemon moment elsewhere manager session message =
      Table.executeCommand daemon moment elsewhere manager message.bmcSessionID (commandOf request)
        request.data := by
  have size : message.payload.length = 7 + request.data.length := by
    simp [requests.wire, Lanplus.getIpmiPayloadWireRep]
    omega
  have long : ¬ 7 + request.data.length < lanRequestHeaderSize + lanTrailerSize := by
    simp only [lanRequestHeaderSize, lanTrailerSize]
    omega
  have data : (message.payload.drop lanRequestHeaderSize).take
      (7 + request.data.length - lanRequestHeaderSize - lanTrailerSize) = request.data := by
    have count : 7 + request.data.length - 6 - 1 = request.data.length := by omega
    simp [requests.wire, Lanplus.getIpmiPayloadWireRep, lanRequestHeaderSize, lanTrailerSize, count]
  simp only [Handler.executeCommand, requests.getCommand, requests.type, if_true, enabled, or_true, size,
    long, if_false, data]

/-- An answer has the code of its completion before the data. -/
def responseWire (rqSeq : UInt8) (request : Lanplus.IpmiRq) (ccode : UInt8) (data : List UInt8) :
    List UInt8 :=
  let header := [Lanplus.ipmiRemoteSwid, request.netfn <<< 2 ||| request.lun &&& 3 ||| 0x04]
  let body := [Lanplus.ipmiBmcSlaveAddr, rqSeq <<< 2, request.cmd] ++ ccode :: data
  header ++ [crc8bit header] ++ body ++ [crc8bit body]

theorem lanResponse_request (rqSeq : UInt8) (request : Lanplus.IpmiRq) (ccode : UInt8)
    (data : List UInt8) :
    lanResponse (Lanplus.getIpmiPayloadWireRep rqSeq request) (ccode :: data) =
      .ok (responseWire rqSeq request ccode data) := by
  simp only [lanResponse, Lanplus.getIpmiPayloadWireRep, readByte]
  rfl

theorem length_responseWire (rqSeq : UInt8) (request : Lanplus.IpmiRq) (ccode : UInt8)
    (data : List UInt8) : (responseWire rqSeq request ccode data).length = 8 + data.length := by
  simp [responseWire]
  omega

/-- What the client makes of an answer to its request. -/
def responseTo (rqSeq : UInt8) (request : Lanplus.IpmiRq) (ccode : UInt8) : Lanplus.IpmiResponse where
  rqAddr := Lanplus.ipmiRemoteSwid
  netfn := request.netfn ||| 1
  rqLun := request.lun
  rsAddr := Lanplus.ipmiBmcSlaveAddr
  rqSeq := rqSeq
  rsLun := 0
  cmd := request.cmd
  ccode := ccode

end Command

section Response

theorem or_and_distrib (first second mask : UInt8) :
    (first ||| second) &&& mask = first &&& mask ||| second &&& mask := by
  apply UInt8.toBitVec_inj.mp
  ext index
  simp [Bool.and_or_distrib_right]

/-- The function and the unit stand in one byte. -/
theorem function_shifted {netfn lun : UInt8} (six : netfn < 64) (two : lun < 4) :
    (netfn <<< 2 ||| lun &&& 3 ||| 0x04) >>> 2 = netfn ||| 1 ∧
      (netfn <<< 2 ||| lun &&& 3 ||| 0x04) &&& 0x3 = lun := by
  have function := forall_byte (fun byte => !(byte < 64) ||
    ((byte <<< 2) >>> 2 == byte && (byte <<< 2) &&& 3 == 0)) (by decide +kernel) netfn
  have unit := forall_byte (fun byte => !(byte < 4) ||
    ((byte &&& 3) >>> 2 == 0 && byte &&& 3 == byte)) (by decide +kernel) lun
  simp only [six, two, decide_true, Bool.not_true, Bool.false_or, Bool.and_eq_true, beq_iff_eq]
    at function unit
  constructor
  · rw [UInt8.shiftRight_or, UInt8.shiftRight_or, function.1, unit.1]
    simp
    rfl
  · have mark : (0x04 : UInt8) &&& 0x3 = 0 := by decide
    rw [or_and_distrib, or_and_distrib, function.2, unit.2, unit.2, mark]
    simp

theorem number_shifted {rqSeq : UInt8} (six : rqSeq < 64) :
    (rqSeq <<< 2) >>> 2 = rqSeq ∧ rqSeq <<< 2 &&& 0x3 = 0 := by
  have checked := forall_byte (fun byte => !(byte < 64) ||
    ((byte <<< 2) >>> 2 == byte && (byte <<< 2) &&& 3 == 0)) (by decide +kernel) rqSeq
  simpa [six] using checked

variable {rqSeq : UInt8} {request : Lanplus.IpmiRq}

/-- The answer to a request is read with its number, its command and its code. -/
theorem readIpmiResponse_wire (numbered : rqSeq < 64)
    (formed : request.netfn < 64 ∧ request.lun < 4) (ccode : UInt8) (data tail : List UInt8)
    {front : List UInt8} (sixteen : front.length = 16) :
    Lanplus.readIpmiResponse (front ++ responseWire rqSeq request ccode data ++ tail) 16 =
      responseTo rqSeq request ccode := by
  have length := length_responseWire rqSeq request ccode data
  have byte := fun index inside =>
    getD_behind (responseWire rqSeq request ccode data) tail sixteen index inside
  have first := byte 0 (by omega)
  obtain ⟨netfn, lun⟩ := function_shifted formed.1 formed.2
  obtain ⟨number, unit⟩ := number_shifted numbered
  rw [Nat.add_zero] at first
  simp only [Lanplus.readIpmiResponse, first, byte 1 (by omega), byte 3 (by omega),
    byte 4 (by omega), byte 5 (by omega), byte 6 (by omega)]
  simp [responseWire, responseTo, netfn, lun, number, unit]

/-- The first request that waits under a number with a command is answered. -/
theorem dispatchPayload_response {client : Lanplus.IpmiSession}
    {entries : List Lanplus.RqEntry} (waits : ⟨rqSeq, request.cmd⟩ ∈ entries)
    (numbered : rqSeq < 64) (formed : request.netfn < 64 ∧ request.lun < 4) (ccode : UInt8)
    (data tail : List UInt8) {front : List UInt8} (sixteen : front.length = 16)
    {header : Lanplus.SessionData} (type : header.payloadtype = Lanplus.ipmiPayloadTypeIpmi) :
    Lanplus.dispatchPayload client entries header
        (front ++ responseWire rqSeq request ccode data ++ tail) 16
        (responseWire rqSeq request ccode data).length =
      .ok (.response (.ipmi (responseTo rqSeq request ccode) data),
        Lanplus.ipmiReqRemoveEntry entries rqSeq request.cmd) := by
  have length := length_responseWire rqSeq request ccode data
  have read := readIpmiResponse_wire numbered formed ccode data tail sixteen
  have number : (responseTo rqSeq request ccode).rqSeq = rqSeq := rfl
  have command : (responseTo rqSeq request ccode).cmd = request.cmd := rfl
  have found : ∃ entry, Lanplus.ipmiReqLookupEntry entries rqSeq request.cmd = some entry := by
    apply Option.isSome_iff_exists.mp
    rw [Lanplus.ipmiReqLookupEntry, List.find?_isSome]
    exact ⟨_, waits, by simp⟩
  obtain ⟨entry, found⟩ := found
  have ranged : Lanplus.bufferRange (front ++ responseWire rqSeq request ccode data ++ tail) (16 + 7)
      (8 + data.length - 7 - 1) = .ok data := by
    have count : 8 + data.length - 7 - 1 = data.length := by omega
    have inside : ¬ 16 + (8 + data.length) + tail.length < 16 + 7 + data.length := by omega
    have read := field_behind (responseWire rqSeq request ccode data) tail sixteen 7 data.length
      (by omega)
    rw [Lanplus.bufferRange, count, List.length_append, List.length_append, sixteen, length,
      if_neg inside, read]
    simp [responseWire, field]
  simp only [Lanplus.dispatchPayload, type, if_true, read, number, command, found, length, ranged,
    ok_bind, pure_eq_ok]

end Response

section Answered

variable {daemon : Daemon} {moment : Moment} {elsewhere : Elsewhere} {manager after : Manager}
  {client : Lanplus.IpmiSession} {session : Session} {rqSeq : UInt8} {request : Lanplus.IpmiRq}

/-- Whatever a session has a command do, what was agreed on with the sessions stays. -/
theorem Manager.Steps.undisturbed {message : Message} {level : UInt8} (kept : manager.Kept daemon)
    (type : message.payloadType = payloadTypeIpmi)
    (steps : Steps daemon (message.Permits moment level) manager after) {sessionID : UInt32}
    (stands : after.find sessionID = some session) :
    ∃ before, manager.find sessionID = some before ∧ before.Undisturbed session := by
  rcases steps.deeds kept stands with ⟨before, found, deeds⟩ | ⟨_, _, ⟨_, opened, _⟩, _⟩
  · refine ⟨before, found, ?_⟩
    apply deeds.invariant before.Undisturbed (.refl before)
    · intro session now same
      exact same.trans ⟨⟨_, _, _, _, rfl⟩, Or.inl rfl⟩
    · intro session deed permitted same
      apply same.trans
      apply session.perform_undisturbed daemon
      · rintro own first rfl
        exact absurd (permitted.2.1.symm.trans type) (by decide)
      · rintro own third rfl
        exact absurd (permitted.2.1.symm.trans type) (by decide)
  · exact absurd (opened.1.symm.trans type) (by decide)

/-- An answer to a request of a session is sealed for the client of the session. -/
theorem send_sealed (data : List UInt8) (ccode : UInt8) (agreed : Agreed client session)
    (still : ∀ own, manager.find client.bmcId = some own → Agreed client own) :
    ∃ sequence, (Handler.send daemon moment manager session (requestMessage client rqSeq request)
        .ipmi20 (ccode :: data)).2 =
      .ok (some (serverPacket daemon.crypto client payloadTypeIpmi sequence moment.iv
        (responseWire rqSeq request ccode data))) := by
  have responded : (requestMessage client rqSeq request).responsePayload (ccode :: data) =
      .ok (responseWire rqSeq request ccode data) := lanResponse_request rqSeq request ccode data
  have other : (requestMessage client rqSeq request).payloadType ≠ payloadTypeSol :=
    show payloadTypeIpmi ≠ payloadTypeSol by decide
  have created := createResponse_ok other responded
  have answering : Agreed client ((manager.find client.bmcId).getD session) := by
    cases found : manager.find client.bmcId with
    | none => exact agreed
    | some own => exact still own found
  have named : (requestMessage client rqSeq request).bmcSessionID = client.bmcId := rfl
  generalize answer : ({
    isPacketEncrypted := (requestMessage client rqSeq request).isPacketEncrypted
    isPacketAuthenticated := (requestMessage client rqSeq request).isPacketAuthenticated
    payloadType := responseType (requestMessage client rqSeq request).payloadType
    rcSessionID := (requestMessage client rqSeq request).rcSessionID
    bmcSessionID := (requestMessage client rqSeq request).bmcSessionID
    payload := responseWire rqSeq request ccode data } : Message) = outMessage at created
  have flags : outMessage.isPacketEncrypted = true ∧ outMessage.isPacketAuthenticated = true := by
    rw [← answer]
    exact ⟨rfl, rfl⟩
  simp only [Handler.send, created, named,
    flatten_sealed daemon.crypto moment.iv answering.codes answering.cipher flags]
  rw [← answer]
  exact ⟨_, rfl⟩

/-- The answer to a request reaches the client that waits for it. -/
theorem pollSingle_response (crypto : Crypto) {entries : List Lanplus.RqEntry}
    (agreed : Agreed client session) (waits : ⟨rqSeq, request.cmd⟩ ∈ entries) (numbered : rqSeq < 64)
    (formed : request.netfn < 64 ∧ request.lun < 4) (ccode : UInt8) {data : List UInt8}
    (short : data.length ≤ 946) (sequence : UInt32) (iv : Block) (previousId : UInt32)
    (stale : List UInt8) :
    Lanplus.ipmiLanPollSingle crypto client entries previousId stale
        (serverPacket crypto client payloadTypeIpmi sequence iv
          (responseWire rqSeq request ccode data)) =
      .ok (.response (.ipmi (responseTo rqSeq request ccode) data),
        Lanplus.ipmiReqRemoveEntry entries rqSeq request.cmd) := by
  have length := length_responseWire rqSeq request ccode data
  have polled := pollSingle_sealed crypto agreed entries previousId stale
    (by decide : payloadTypeIpmi < 0x40) sequence iv
    (by omega : (responseWire rqSeq request ccode data).length ≤ 954)
  obtain ⟨front, tail, sixteen, polled⟩ := polled
  rw [polled]
  apply dispatchPayload_response waits numbered formed ccode data tail sixteen
  exact (show (payloadTypeIpmi ||| 0x80 ||| 0x40) &&& 0x3F = Lanplus.ipmiPayloadTypeIpmi by decide)

/-- A request that is waited for gets its answer, at once or later. -/
theorem send_answered (agreed : Agreed client session)
    (still : ∀ own, manager.find client.bmcId = some own → Agreed client own) (numbered : rqSeq < 64)
    (formed : request.netfn < 64 ∧ request.lun < 4) (ccode : UInt8) {data : List UInt8}
    (short : data.length ≤ 946) (entries : List Lanplus.RqEntry) :
    ∃ final reply, Handler.send daemon moment manager session (requestMessage client rqSeq request)
        .ipmi20 (ccode :: data) = (final, .ok (some reply)) ∧
      ∀ previousId stale, Lanplus.ipmiLanPollSingle daemon.crypto
          { client with outSeq := Lanplus.nextOutSeq client.outSeq }
          (entries ++ [⟨rqSeq, request.cmd⟩]) previousId stale reply =
        .ok (.response (.ipmi (responseTo rqSeq request ccode) data),
          Lanplus.ipmiReqRemoveEntry (entries ++ [⟨rqSeq, request.cmd⟩]) rqSeq request.cmd) := by
  obtain ⟨sequence, sent⟩ := send_sealed data ccode agreed still
  have waits : ⟨rqSeq, request.cmd⟩ ∈ entries ++ [⟨rqSeq, request.cmd⟩] := by simp
  have next : Agreed { client with outSeq := Lanplus.nextOutSeq client.outSeq } session :=
    ⟨agreed.active, agreed.integrity, agreed.confidentiality, agreed.codes, agreed.cipher⟩
  refine ⟨_, serverPacket daemon.crypto client payloadTypeIpmi sequence moment.iv
    (responseWire rqSeq request ccode data), Prod.ext rfl sent, ?_⟩
  intro previousId stale
  exact pollSingle_response daemon.crypto next waits numbered formed ccode short sequence moment.iv
    previousId stale

theorem nextRqSeq_lt (currSeq : UInt8) (isRetry : Bool) : Lanplus.nextRqSeq currSeq isRetry < 64 := by
  unfold Lanplus.nextRqSeq
  dsimp only
  generalize (if isRetry then currSeq else currSeq + 1) = next
  split
  · decide
  next small => exact UInt8.not_le.mp small

/-- A request goes out sealed, and waits under its number. -/
theorem buildV2xIpmiCmd_sealed {crypto : Crypto} {oem : Option Lanplus.Oem}
    (other : oem ≠ some .icts) {iv : Block} {entries waiting : List Lanplus.RqEntry}
    {currSeq : UInt8} {isRetry : Bool} {packet : List UInt8} {sending : Lanplus.IpmiSession}
    (agreed : Agreed client session) (fits : request.data.length ≤ 65496)
    (built : Lanplus.ipmiLanplusBuildV2xIpmiCmd crypto oem iv client entries currSeq isRetry request =
      .ok (packet, sending, waiting, rqSeq)) :
    rqSeq < 64 ∧ waiting = entries ++ [⟨rqSeq, request.cmd⟩] ∧
      sending = { client with outSeq := Lanplus.nextOutSeq client.outSeq } ∧
      (∀ {manager : Manager} {own : Session}, manager.find client.bmcId = some own →
        Agreed client own → Parser.unflatten crypto manager packet =
          .ok ({ requestMessage client rqSeq request with rcSessionID := 0xBADBADFF }, .ipmi20)) := by
  have size : (Lanplus.Payload.ipmi (Lanplus.nextRqSeq currSeq isRetry) request).wire.length ≤
      65503 := by
    simp [Lanplus.Payload.wire, Lanplus.getIpmiPayloadWireRep]
    omega
  unfold Lanplus.ipmiLanplusBuildV2xIpmiCmd at built
  dsimp only at built
  rw [buildV2xMsg_eq crypto oem iv agreed size] at built
  cases built
  refine ⟨nextRqSeq_lt currSeq isRetry, rfl, rfl, ?_⟩
  intro manager own found same
  exact unflatten_request crypto other iv same found _ size

/-- The bytes of a command are those of its request. -/
theorem commandOf_bytes (request : Lanplus.IpmiRq) :
    (commandOf request >>> 8).toUInt8 = request.netfn <<< 2 ||| request.lun &&& 3 ∧
      (commandOf request).toUInt8 = request.cmd := by
  have high := forall_byte (fun byte => (byte.toUInt32 <<< 8) >>> 8 == byte.toUInt32 &&
    (byte.toUInt32 <<< 8).toUInt8 == 0) (by decide +kernel) (request.netfn <<< 2 ||| request.lun &&& 3)
  have low := forall_byte (fun byte => byte.toUInt32 >>> 8 == 0) (by decide +kernel) request.cmd
  simp only [Bool.and_eq_true, beq_iff_eq] at high low
  constructor
  · rw [commandOf, UInt32.shiftRight_or, high.1, low, UInt32.or_zero, UInt8.toUInt8_toUInt32]
  · rw [commandOf, UInt32.toUInt8_or, high.2, UInt8.zero_or, UInt8.toUInt8_toUInt32]

/-- The lowest bit of the function is taken for one of the unit as well. -/
theorem function_split {netfn lun : UInt8} (six : netfn < 64) (two : lun < 4) :
    (netfn <<< 2 ||| lun &&& 3) >>> 2 = netfn ∧
      ((netfn <<< 2 ||| lun &&& 3) &&& 0x7 : UInt8) = lun ||| ((netfn &&& 1 : UInt8) <<< 2) := by
  have function := forall_byte (fun byte => !(byte < 64) ||
    ((byte <<< 2) >>> 2 == byte && ((byte <<< 2) &&& 7 : UInt8) == (byte &&& 1 : UInt8) <<< 2))
    (by decide +kernel) netfn
  have unit := forall_byte (fun byte => !(byte < 4) ||
    ((byte &&& 3) >>> 2 == 0 && byte &&& 3 &&& 7 == byte)) (by decide +kernel) lun
  simp only [six, two, decide_true, Bool.not_true, Bool.false_or, Bool.and_eq_true, beq_iff_eq]
    at function unit
  constructor
  · rw [UInt8.shiftRight_or, function.1, unit.1, UInt8.or_zero]
  · rw [or_and_distrib, function.2, unit.2, UInt8.or_comm]

/-- What is not in the table of the commands is handed on to the host. -/
theorem executeCommand_forward (daemon : Daemon) (moment : Moment) (elsewhere : Elsewhere)
    (ordinary : client.bmcId ≠ sessionZero) (found : manager.find client.bmcId = some session)
    (own : session.bmcSessionID = client.bmcId) (active : session.state = .active)
    (formed : request.netfn < 64 ∧ request.lun < 4) (unknown : commandTable.lookup (commandOf request) = none) :
    Table.executeCommand daemon moment elsewhere manager client.bmcId (commandOf request) request.data =
      some (manager, .ok (.forward {
        netFn := request.netfn
        lun := request.lun ||| (request.netfn &&& 1) <<< 2
        cmd := request.cmd
        commandData := request.data
        userId := moment.accounts.ipmiUserGetUserId session.userName
        privilege := session.currentPrivilege
        currentSessionId := client.bmcId })) := by
  obtain ⟨function, command⟩ := commandOf_bytes request
  obtain ⟨netfn, lun⟩ := function_split formed.1 formed.2
  simp only [Table.executeCommand, unknown, if_neg ordinary, Manager.getSession, found, active, ne_eq,
    not_true_eq_false, if_false, forwardRequest, function, command, netfn, lun, own]

/-- A request is heard in its session before its command is run. -/
theorem processIncoming_requests {packet : List UInt8} {message : Message}
    (parsed : Parser.unflatten daemon.crypto manager packet = .ok (message, .ipmi20))
    (requests : message.Requests rqSeq request)
    (found : manager.find message.bmcSessionID = some session)
    (enabled : session.sessionUserPrivAccess.ipmiEnabled = true) :
    let heard := { session with lastTime := moment.now }
    Handler.processIncoming daemon moment elsewhere manager packet =
      (Table.executeCommand daemon moment elsewhere
        (manager.update message.bmcSessionID fun _ => heard) message.bmcSessionID (commandOf request)
        request.data).map fun done =>
          Handler.react daemon moment done.1 heard
            { message with rcSessionID := session.remoteConsoleSessionID } .ipmi20 done.2 := by
  intro heard
  have open_ : heard.sessionUserPrivAccess.ipmiEnabled = true := enabled
  have numbered : ({ message with rcSessionID := session.remoteConsoleSessionID } : Message).Requests
      rqSeq request := ⟨requests.type, requests.wire⟩
  have executed : ∀ manager, Handler.executeCommand daemon moment elsewhere manager heard
      { message with rcSessionID := session.remoteConsoleSessionID } =
        Table.executeCommand daemon moment elsewhere manager message.bmcSessionID (commandOf request)
          request.data := fun _ => numbered.executeCommand open_
  rw [Handler.processIncoming, parsed]
  simp only [Handler.updSessionData, Manager.getSession, found, ok_bind, pure_eq_ok]
  rw [executed]

theorem processIncoming_request {packet : List UInt8} (found : manager.find client.bmcId = some session)
    (console : session.remoteConsoleSessionID = client.consoleId)
    (enabled : session.sessionUserPrivAccess.ipmiEnabled = true)
    (parsed : Parser.unflatten daemon.crypto manager packet =
      .ok ({ requestMessage client rqSeq request with rcSessionID := 0xBADBADFF }, .ipmi20)) :
    let heard := { session with lastTime := moment.now }
    Handler.processIncoming daemon moment elsewhere manager packet =
      (Table.executeCommand daemon moment elsewhere (manager.update client.bmcId fun _ => heard)
        client.bmcId (commandOf request) request.data).map fun done =>
          Handler.react daemon moment done.1 heard (requestMessage client rqSeq request) .ipmi20
            done.2 := by
  intro heard
  have numbered : ({ requestMessage client rqSeq request with
      rcSessionID := session.remoteConsoleSessionID } : Message) =
        requestMessage client rqSeq request := by
    rw [console]
    rfl
  have processed : Handler.processIncoming daemon moment elsewhere manager packet = _ :=
    processIncoming_requests parsed ⟨rfl, rfl⟩ found enabled
  dsimp only at processed
  rw [numbered] at processed
  exact processed

/-- The session of a request, and what its command leaves of it, keep the keys of the client. -/
theorem executed_agreed {done : Manager} {output : Result Output} (kept : manager.Kept daemon)
    (agreed : Agreed client session) (found : manager.find client.bmcId = some session)
    (ran : Table.executeCommand daemon moment elsewhere
      (manager.update client.bmcId fun _ => { session with lastTime := moment.now }) client.bmcId
      (commandOf request) request.data = some (done, output)) :
    Agreed client { session with lastTime := moment.now } ∧
      ∀ own, done.find client.bmcId = some own → Agreed client own := by
  have heard : Agreed client { session with lastTime := moment.now } :=
    ⟨agreed.active, agreed.integrity, agreed.confidentiality, agreed.codes, agreed.cipher⟩
  have noting : Step daemon (.noting moment.now) manager (manager.update client.bmcId fun _ =>
      { session with lastTime := moment.now }) := .touched found (Or.inr rfl)
  have noted := noting.kept kept
  have stands : (manager.update client.bmcId fun _ => { session with lastTime := moment.now }).find
      client.bmcId = some { session with lastTime := moment.now } :=
    find_updated found _
  have steps : Steps daemon ((requestMessage client 0 request).Permits moment session.currentPrivilege)
      _ done :=
    table_executeCommand_steps noted stands rfl (requestMessage_requests client 0 request).getCommand (absurd rfl) ran
  refine ⟨heard, ?_⟩
  intro own later
  obtain ⟨before, first, same⟩ := steps.undisturbed noted rfl later
  rw [stands, Option.some.injEq] at first
  subst first
  exact same.agreed heard

/-- In every state of a run, a request of a client is answered to it as soon as its command returns an
answer that fits into the buffer of the client. -/
theorem request_answered {ipmiNetworkInstance : UInt8} (small : ipmiNetworkInstance < 4)
    (reached : daemon.Reachable ipmiNetworkInstance manager) (agreed : Agreed client session)
    (found : manager.find client.bmcId = some session)
    (console : session.remoteConsoleSessionID = client.consoleId)
    (enabled : session.sessionUserPrivAccess.ipmiEnabled = true)
    (formed : request.netfn < 64 ∧ request.lun < 4) (fits : request.data.length ≤ 65496)
    {oem : Option Lanplus.Oem} (other : oem ≠ some .icts) {iv : Block}
    {entries waiting : List Lanplus.RqEntry} {currSeq : UInt8} {isRetry : Bool} {packet : List UInt8}
    {sending : Lanplus.IpmiSession}
    (built : Lanplus.ipmiLanplusBuildV2xIpmiCmd daemon.crypto oem iv client entries currSeq
      isRetry request = .ok (packet, sending, waiting, rqSeq)) {done : Manager} {ccode : UInt8}
    {data : List UInt8}
    (ran : Table.executeCommand daemon moment elsewhere
      (manager.update client.bmcId fun _ => { session with lastTime := moment.now }) client.bmcId
      (commandOf request) request.data = some (done, .ok (.payload (ccode :: data))))
    (short : data.length ≤ 946) :
    ∃ final reply, Handler.processIncoming daemon moment elsewhere manager packet =
        some (final, .ok (.packet reply)) ∧
      ∀ previousId stale, Lanplus.ipmiLanPollSingle daemon.crypto sending waiting previousId stale reply =
        .ok (.response (.ipmi (responseTo rqSeq request ccode) data),
          Lanplus.ipmiReqRemoveEntry waiting rqSeq request.cmd) := by
  obtain ⟨numbered, rfl, rfl, parsed⟩ := buildV2xIpmiCmd_sealed other agreed fits built
  obtain ⟨heard, still⟩ := executed_agreed (reachable_kept small reached) agreed found ran
  obtain ⟨final, reply, sent, polled⟩ := send_answered heard still numbered formed ccode short entries
  refine ⟨final, reply, ?_, polled⟩
  rw [processIncoming_request found console enabled (parsed found agreed), ran, Option.map_some,
    Handler.react, sent]
  rfl

section Sample

/-- The level has been raised before the request for it is answered. -/
theorem request_answered_root :
    ∃ final reply, Handler.processIncoming rootDaemon rootMoment (fun _ _ _ => .ok []) rootActive
        levelPacket = some (final, .ok (.packet reply)) ∧
      ∀ previousId stale, Lanplus.ipmiLanPollSingle rootCrypto { rootClient with outSeq := 11 }
          [⟨1, 0x3B⟩] previousId stale reply =
        .ok (.response (.ipmi (responseTo 1 ⟨6, 0, 0x3B, [4]⟩ 0) [4]), []) :=
  request_answered (by decide) rootActive_reached
    (show Agreed rootClient rootActiveSession from
      ⟨rfl, rfl, rfl, by decide +kernel, by decide +kernel⟩)
    rootActive_found (by decide +kernel) (by decide +kernel) (by decide) (by decide) (by decide)
    (show Lanplus.ipmiLanplusBuildV2xIpmiCmd rootCrypto none consoleIv rootClient [] 0 false
      ⟨6, 0, 0x3B, [4]⟩ = .ok (levelPacket, { rootClient with outSeq := 11 }, [⟨1, 0x3B⟩], 1)
      by decide +kernel)
    (show Table.executeCommand rootDaemon rootMoment (fun _ _ _ => .ok [])
      (rootActive.update 1 fun _ => { rootActiveSession with lastTime := rootMoment.now }) 1
      (commandOf ⟨6, 0, 0x3B, [4]⟩) [4] =
        some (rootActive.update 1 fun session => { session with currentPrivilege := 4 },
          .ok (.payload [0, 4])) by decide +kernel)
    (by decide)

end Sample

section Sample

end Sample

end Answered

end Chassis.Netipmid
