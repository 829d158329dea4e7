import Chassis.Construction.Lanplus.Crypt

namespace Chassis.Lanplus
open Data LittleEndian

def ipmiPayloadTypeIpmi : UInt8 := 0x00
def ipmiPayloadTypeSol : UInt8 := 0x01
def ipmiPayloadTypeRmcpOpenRequest : UInt8 := 0x10
def ipmiPayloadTypeRmcpOpenResponse : UInt8 := 0x11
def ipmiPayloadTypeRakp1 : UInt8 := 0x12
def ipmiPayloadTypeRakp2 : UInt8 := 0x13
def ipmiPayloadTypeRakp3 : UInt8 := 0x14
def ipmiPayloadTypeRakp4 : UInt8 := 0x15

def rmcpVersion1 : UInt8 := 0x06
def rmcpClassAsf : UInt8 := 0x06
def rmcpClassIpmi : UInt8 := 0x07
def ipmiSessionAuthtypeRmcpPlus : UInt8 := 0x06
def ipmiBmcSlaveAddr : UInt8 := 0x20
def ipmiRemoteSwid : UInt8 := 0x81
def ipmiLanplusOffsetAuthtype : Nat := 4

inductive SessionState where
  | presession
  | openSessionSent
  | openSessionReceived
  | rakp1Sent
  | rakp2Received
  | rakp3Sent
  | active
  deriving DecidableEq, Repr

/-- The keys are as long as the digests that made them. -/
structure IpmiSession where
  sessionState : SessionState := .presession
  outSeq : UInt32 := 0
  authcode : List UInt8
  requestedAuthAlg : UInt8 := 0
  requestedIntegrityAlg : UInt8 := 0
  requestedCryptAlg : UInt8 := 0
  authAlg : UInt8 := ipmiAuthRakpNone
  integrityAlg : UInt8 := 0
  cryptAlg : UInt8 := ipmiCryptNone
  maxPrivLevel : UInt8 := 0
  consoleId : UInt32 := 0
  bmcId : UInt32 := 0
  consoleRand : List UInt8 := List.replicate 16 0
  bmcRand : List UInt8 := List.replicate 16 0
  bmcGuid : List UInt8 := List.replicate 16 0
  requestedRole : UInt8 := 0
  rakp2ReturnCode : UInt8 := 0
  sik : List UInt8 := []
  k1 : List UInt8 := []
  k2 : List UInt8 := []
  deriving DecidableEq, Repr

/-- The function number has six bits and the unit two. -/
structure IpmiRq where
  netfn : UInt8
  lun : UInt8
  cmd : UInt8
  data : List UInt8
  deriving DecidableEq, Repr

structure SolPacket where
  packetSequenceNumber : UInt8
  ackedPacketNumber : UInt8
  acceptedCharacterCount : UInt8
  control : UInt8
  data : List UInt8
  deriving DecidableEq, Repr

inductive Payload where
  | ipmi (rqSeq : UInt8) (request : IpmiRq)
  | sol (packet : SolPacket)
  | openRequest (request : List UInt8)
  | rakp1 (message : List UInt8)
  | rakp3 (message : List UInt8)
  deriving DecidableEq, Repr

def Payload.payloadType : Payload → UInt8
  | .ipmi .. => ipmiPayloadTypeIpmi
  | .sol _ => ipmiPayloadTypeSol
  | .openRequest _ => ipmiPayloadTypeRmcpOpenRequest
  | .rakp1 _ => ipmiPayloadTypeRakp1
  | .rakp3 _ => ipmiPayloadTypeRakp3

def ipmiCsum (bytes : List UInt8) : UInt8 := 0 - bytes.sum

/-- A request that is not bridged has two checksums. -/
def getIpmiPayloadWireRep (rqSeq : UInt8) (request : IpmiRq) : List UInt8 :=
  let header := [ipmiBmcSlaveAddr, request.netfn <<< 2 ||| request.lun &&& 3]
  let body := [ipmiRemoteSwid, rqSeq <<< 2, request.cmd] ++ request.data
  header ++ [ipmiCsum header] ++ body ++ [ipmiCsum body]

def getSolPayloadWireRep (packet : SolPacket) : List UInt8 :=
  [packet.packetSequenceNumber, packet.ackedPacketNumber, packet.acceptedCharacterCount,
    packet.control] ++ packet.data

def Payload.wire : Payload → List UInt8
  | .ipmi rqSeq request => getIpmiPayloadWireRep rqSeq request
  | .sol packet => getSolPayloadWireRep packet
  | .openRequest bytes => bytes
  | .rakp1 bytes => bytes
  | .rakp3 bytes => bytes

/-- Three makes of controllers are talked to in another way. -/
inductive Oem where
  | intelplus
  | icts
  | i82571spt
  deriving DecidableEq, Repr

/-- No byte is filled in where the code already ends at a multiple of four. One of the makes leaves
the two bytes behind the pad out of the count. -/
def integrityPadSize (oem : Option Oem) (payloadLength : Nat) : Nat :=
  let lengthBeforeAuthcode :=
    if oem = some .icts then 12 + payloadLength else 12 + payloadLength + 1 + 1
  if lengthBeforeAuthcode % 4 = 0 then 0 else 4 - lengthBeforeAuthcode % 4

/-- The code covers everything from the session header on. -/
def sessionTrailer (crypto : Crypto) (oem : Option Oem) (session : IpmiSession)
    (packet : List UInt8) (payloadLength : Nat) : Result (List UInt8) := do
  let pad := integrityPadSize oem payloadLength
  let trailed := packet ++ List.replicate pad 0xFF ++ [UInt8.ofNat pad, 0x07]
  let hmacOutput ← lanplusHMAC crypto session.integrityAlg session.k1
    (trailed.drop ipmiLanplusOffsetAuthtype)
  let authLength ← authcodeLength session.integrityAlg
  return trailed ++ hmacOutput.take authLength

/-- The next number skips zero. -/
def nextOutSeq (outSeq : UInt32) : UInt32 :=
  if outSeq + 1 = 0 then 1 else outSeq + 1

/-- The length field and everything behind the payload follow the low sixteen bits of its length. -/
def buildV2xMsg (crypto : Crypto) (oem : Option Oem) (iv : Block) (session : IpmiSession)
    (payload : Payload) : Result (List UInt8 × IpmiSession) := do
  let active := session.sessionState = .active
  let encrypted := if active ∧ session.cryptAlg ≠ ipmiCryptNone then 0x80 else 0x00
  let authenticated := if active ∧ session.integrityAlg ≠ ipmiIntegrityNone then 0x40 else 0x00
  let sessionId := if active then session.bmcId else 0
  let sequence := if active then session.outSeq else 0
  let body ←
    if active then lanplusEncryptPayload crypto session.cryptAlg session.k2 iv payload.wire
    else .ok payload.wire
  let payloadLength := body.length % 2 ^ 16
  let packet := [rmcpVersion1, 0x00, 0xFF, rmcpClassIpmi, ipmiSessionAuthtypeRmcpPlus,
      payload.payloadType ||| encrypted ||| authenticated] ++
    word sessionId ++ word sequence ++ encode 2 payloadLength ++ body.take payloadLength
  let packet ←
    if active ∧ session.integrityAlg ≠ ipmiIntegrityNone then
      sessionTrailer crypto oem session packet payloadLength
    else .ok packet
  return (packet, { session with outSeq := nextOutSeq session.outSeq })

/-- What a response says about its session. -/
structure SessionData where
  authtype : UInt8
  id : UInt32
  bEncrypted : Bool
  bAuthenticated : Bool
  payloadtype : UInt8
  msglen : Nat
  deriving DecidableEq, Repr

/-- The session header of version 1.5 leaves the last session number in place. -/
def readSessionData (data : List UInt8) (previousId : UInt32) : SessionData × Nat :=
  let authtype := data.getD 4 0
  if authtype = ipmiSessionAuthtypeRmcpPlus then
    ({  authtype := authtype
        id := readWord ((data.drop 6).take 4)
        bEncrypted := data.getD 5 0 &&& 0x80 ≠ 0
        bAuthenticated := data.getD 5 0 &&& 0x40 ≠ 0
        payloadtype := data.getD 5 0 &&& 0x3F
        msglen := decode ((data.drop 14).take 2) }, 16)
  else
    ({  authtype := authtype
        id := previousId
        bEncrypted := false
        bAuthenticated := false
        payloadtype := ipmiPayloadTypeIpmi
        msglen := (data.getD 13 0).toNat }, 14)

/-- The code is at the end of the packet. A shorter packet leaves a negative length. -/
def lanplusHasValidAuthCode (crypto : Crypto) (session : IpmiSession) (header : SessionData)
    (data : List UInt8) (dataLen : Nat) : Result Bool :=
  if header.authtype ≠ ipmiSessionAuthtypeRmcpPlus ∨ session.sessionState ≠ .active ∨
      header.bAuthenticated = false ∨ session.integrityAlg = ipmiIntegrityNone then .ok true
  else do
    let length ← authcodeLength session.integrityAlg
    if dataLen < ipmiLanplusOffsetAuthtype + length then .error .undefined
    else
      let bmcAuthcode := (data.drop (dataLen - length)).take length
      let generated ← lanplusHMAC crypto session.integrityAlg session.k1
        ((data.drop ipmiLanplusOffsetAuthtype).take (dataLen - ipmiLanplusOffsetAuthtype - length))
      return bmcAuthcode == generated.take length

structure IpmiResponse where
  rqAddr : UInt8
  netfn : UInt8
  rqLun : UInt8
  rsAddr : UInt8
  rqSeq : UInt8
  rsLun : UInt8
  cmd : UInt8
  ccode : UInt8
  deriving DecidableEq, Repr

/-- The checksums of a response are not looked at. -/
def readIpmiResponse (data : List UInt8) (offset : Nat) : IpmiResponse where
  rqAddr := data.getD offset 0
  netfn := data.getD (offset + 1) 0 >>> 2
  rqLun := data.getD (offset + 1) 0 &&& 0x3
  rsAddr := data.getD (offset + 3) 0
  rqSeq := data.getD (offset + 4) 0 >>> 2
  rsLun := data.getD (offset + 4) 0 &&& 0x3
  cmd := data.getD (offset + 5) 0
  ccode := data.getD (offset + 6) 0

structure SolResponse where
  packetSequenceNumber : UInt8
  ackedPacketNumber : UInt8
  acceptedCharacterCount : UInt8
  isNack : Bool
  transferUnavailable : Bool
  solInactive : Bool
  transmitOverrun : Bool
  breakDetected : Bool
  deriving DecidableEq, Repr

def readSolPacket (data : List UInt8) (offset : Nat) : SolResponse :=
  let status := data.getD (offset + 3) 0
  {   packetSequenceNumber := data.getD offset 0 &&& 0x0F
      ackedPacketNumber := data.getD (offset + 1) 0 &&& 0x0F
      acceptedCharacterCount := data.getD (offset + 2) 0
      isNack := status &&& 0x40 ≠ 0
      transferUnavailable := status &&& 0x20 ≠ 0
      solInactive := status &&& 0x10 ≠ 0
      transmitOverrun := status &&& 0x08 ≠ 0
      breakDetected := status &&& 0x04 ≠ 0 }

structure OpenSessionResponse where
  messageTag : UInt8
  rakpReturnCode : UInt8
  maxPrivLevel : UInt8
  consoleId : UInt32
  bmcId : UInt32 := 0
  authAlg : UInt8 := 0
  integrityAlg : UInt8 := 0
  cryptAlg : UInt8 := 0
  deriving DecidableEq, Repr

/-- An error has only the first four fields. -/
def readOpenSessionResponse (data : List UInt8) (offset : Nat) : OpenSessionResponse :=
  let message : OpenSessionResponse := {
    messageTag := data.getD offset 0
    rakpReturnCode := data.getD (offset + 1) 0
    maxPrivLevel := data.getD (offset + 2) 0
    consoleId := readWord ((data.drop (offset + 4)).take 4) }
  if message.rakpReturnCode ≠ 0 then message
  else
    { message with
      bmcId := readWord ((data.drop (offset + 8)).take 4)
      authAlg := data.getD (offset + 16) 0
      integrityAlg := data.getD (offset + 24) 0
      cryptAlg := data.getD (offset + 32) 0 }

structure Rakp2Message where
  messageTag : UInt8
  rakpReturnCode : UInt8
  consoleId : UInt32
  bmcRand : List UInt8
  bmcGuid : List UInt8
  keyExchangeAuthCode : List UInt8
  deriving DecidableEq, Repr

/-- An unsupported algorithm ends the program. -/
def readRakp2Message (data : List UInt8) (offset : Nat) (authAlg : UInt8) : Result Rakp2Message := do
  let length ←
    if authAlg = ipmiAuthRakpNone then .ok 0
    else (digestOf authAlg).map Digest.length
  return {
    messageTag := data.getD offset 0
    rakpReturnCode := data.getD (offset + 1) 0
    consoleId := readWord ((data.drop (offset + 4)).take 4)
    bmcRand := (data.drop (offset + 8)).take 16
    bmcGuid := (data.drop (offset + 24)).take 16
    keyExchangeAuthCode := (data.drop (offset + 40)).take length }

structure Rakp4Message where
  messageTag : UInt8
  rakpReturnCode : UInt8
  consoleId : UInt32
  integrityCheckValue : List UInt8
  deriving DecidableEq, Repr

/-- The check value is cut like the code of a packet. -/
def rakp4Length (authAlg : UInt8) : Result Nat :=
  if authAlg = ipmiAuthRakpHmacSha1 then .ok 12
  else if authAlg = ipmiAuthRakpHmacMd5 then .ok 16
  else if authAlg = ipmiAuthRakpHmacSha256 then .ok 16
  else .error .aborted

def readRakp4Message (data : List UInt8) (offset : Nat) (authAlg : UInt8) : Result Rakp4Message := do
  let length ← if authAlg = ipmiAuthRakpNone then .ok 0 else rakp4Length authAlg
  return {
    messageTag := data.getD offset 0
    rakpReturnCode := data.getD (offset + 1) 0
    consoleId := readWord ((data.drop (offset + 4)).take 4)
    integrityCheckValue := (data.drop (offset + 8)).take length }

/-- A response with what is left of its data. -/
inductive IpmiRs where
  | pong
  | ipmi (response : IpmiResponse) (data : List UInt8)
  | openSession (response : OpenSessionResponse)
  | rakp2 (message : Rakp2Message)
  | rakp4 (message : Rakp4Message)
  | sol (packet : SolResponse) (data : List UInt8)
  deriving DecidableEq, Repr

/-- A packet ends the wait with a response or without one, or is skipped. -/
inductive Polled where
  | response (response : IpmiRs)
  | nothing
  | oneMore
  deriving DecidableEq, Repr

/-- An outstanding request is found again by its number and its command. -/
structure RqEntry where
  rqSeq : UInt8
  cmd : UInt8
  deriving DecidableEq, Repr

def ipmiReqLookupEntry (entries : List RqEntry) (seq cmd : UInt8) : Option RqEntry :=
  entries.find? fun entry => entry.rqSeq = seq ∧ entry.cmd = cmd

def ipmiReqRemoveEntry (entries : List RqEntry) (seq cmd : UInt8) : List RqEntry :=
  entries.eraseP fun entry => entry.rqSeq = seq ∧ entry.cmd = cmd

/-- Requests are numbered with six bits, and a request that is sent again keeps its number. -/
def nextRqSeq (currSeq : UInt8) (isRetry : Bool) : UInt8 :=
  let currSeq := if isRetry then currSeq else currSeq + 1
  if 64 ≤ currSeq then 0 else currSeq

/-- A request that is not bridged waits for its answer under its number. -/
def ipmiLanplusBuildV2xIpmiCmd (crypto : Crypto) (oem : Option Oem) (iv : Block)
    (session : IpmiSession) (entries : List RqEntry) (currSeq : UInt8) (isRetry : Bool)
    (request : IpmiRq) : Result (List UInt8 × IpmiSession × List RqEntry × UInt8) := do
  let currSeq := nextRqSeq currSeq isRetry
  let (packet, session) ← buildV2xMsg crypto oem iv session (.ipmi currSeq request)
  return (packet, session, entries ++ [⟨currSeq, request.cmd⟩], currSeq)

def ipmiBufSize : Nat := 1024

/-- The buffer keeps what earlier packets left behind the new one. -/
def receiveBuffer (packet stale : List UInt8) : List UInt8 :=
  packet ++ 0 :: stale.drop (packet.length + 1)

/-- A range of the buffer must lie inside of it. -/
def bufferRange (data : List UInt8) (offset length : Nat) : Result (List UInt8) :=
  if data.length < offset + length then .error .undefined
  else .ok ((data.drop offset).take length)

/-- Decrypted data replace the front of the encrypted ones. -/
def overwrite (data : List UInt8) (offset : Nat) (plain : List UInt8) : List UInt8 :=
  data.take offset ++ plain ++ data.drop (offset + plain.length)

/-- The part of the receiver that follows the check of the code. -/
def dispatchPayload (session : IpmiSession) (entries : List RqEntry) (header : SessionData)
    (data : List UInt8) (offset payloadSize : Nat) : Result (Polled × List RqEntry) :=
  if header.payloadtype = ipmiPayloadTypeIpmi then
    let response := readIpmiResponse data offset
    match ipmiReqLookupEntry entries response.rqSeq response.cmd with
    | none => .ok (.oneMore, entries)
    | some _ => do
        let extra ← bufferRange data (offset + 7) (payloadSize - 7 - 1)
        return (.response (.ipmi response extra),
          ipmiReqRemoveEntry entries response.rqSeq response.cmd)
  else if header.payloadtype = ipmiPayloadTypeRmcpOpenResponse then
    if session.sessionState ≠ .openSessionSent then .ok (.oneMore, entries)
    else .ok (.response (.openSession (readOpenSessionResponse data offset)), entries)
  else if header.payloadtype = ipmiPayloadTypeRakp2 then
    if session.sessionState ≠ .rakp1Sent then .ok (.oneMore, entries)
    else do
      let message ← readRakp2Message data offset session.authAlg
      return (.response (.rakp2 message), entries)
  else if header.payloadtype = ipmiPayloadTypeRakp4 then
    if session.sessionState ≠ .rakp3Sent then .ok (.oneMore, entries)
    else do
      let message ← readRakp4Message data offset session.authAlg
      return (.response (.rakp4 message), entries)
  else if header.payloadtype = ipmiPayloadTypeSol then
    if session.sessionState ≠ .active then .ok (.oneMore, entries)
    else do
      let extra ← bufferRange data (offset + 4) (payloadSize - 4)
      return (.response (.sol (readSolPacket data offset) extra), entries)
  else .ok (.oneMore, entries)

/-- The payload of an active session is decrypted in place. -/
def decryptInPlace (crypto : Crypto) (session : IpmiSession) (header : SessionData)
    (data : List UInt8) (offset : Nat) : Result (List UInt8 × Nat) :=
  if session.sessionState = .active ∧ header.authtype = ipmiSessionAuthtypeRmcpPlus ∧
      header.bEncrypted then do
    let input ← bufferRange data offset header.msglen
    let (plain, payloadSize) ← lanplusDecryptPayload crypto session.cryptAlg session.k2 input
    return (overwrite data offset plain, payloadSize)
  else .ok (data, header.msglen)

/-- A packet that fills the buffer has its terminator written behind it. -/
def ipmiLanPollSingle (crypto : Crypto) (session : IpmiSession) (entries : List RqEntry)
    (previousId : UInt32) (stale received : List UInt8) : Result (Polled × List RqEntry) :=
  let packet := received.take ipmiBufSize
  let data := receiveBuffer packet stale
  let rmcpClass := data.getD 3 0
  if packet = [] then .ok (.nothing, entries)
  else if packet.length = ipmiBufSize then .error .undefined
  else if rmcpClass = rmcpClassAsf then
    if data.getD 20 0 &&& 0x80 ≠ 0 then .ok (.response .pong, entries) else .ok (.nothing, entries)
  else if rmcpClass ≠ rmcpClassIpmi then .ok (.oneMore, entries)
  else
    let (header, offset) := readSessionData data previousId
    if session.sessionState = .active ∧ header.authtype = ipmiSessionAuthtypeRmcpPlus ∧
        header.id ≠ session.consoleId then .ok (.oneMore, entries)
    else do
      let valid ← lanplusHasValidAuthCode crypto session header data packet.length
      if valid = false then .ok (.nothing, entries)
      else
        let (data, payloadSize) ← decryptInPlace crypto session header data offset
        dispatchPayload session entries header data offset payloadSize

end Chassis.Lanplus
