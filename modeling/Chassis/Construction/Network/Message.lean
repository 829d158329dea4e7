import Chassis.Construction.Network.Session

namespace Chassis.Netipmid
open Data LittleEndian

def payloadTypeIpmi : UInt8 := 0x00
def payloadTypeSol : UInt8 := 0x01
def payloadTypeOpenSessionRequest : UInt8 := 0x10
def payloadTypeOpenSessionResponse : UInt8 := 0x11
def payloadTypeRakp1 : UInt8 := 0x12
def payloadTypeRakp2 : UInt8 := 0x13
def payloadTypeRakp3 : UInt8 := 0x14
def payloadTypeRakp4 : UInt8 := 0x15

def classOfMsgAsf : UInt8 := 0x06
def classOfMsgIpmi : UInt8 := 0x07
def classOfMsgOem : UInt8 := 0x08

def rmcpVersion : UInt8 := 6
def rmcpSeq : UInt8 := 0xFF
def rmcpMessageClassIpmi : UInt8 := 7
def rmcpSessionHeaderSize : Nat := 4
def payloadEncryptMask : UInt8 := 0x80
def payloadAuthMask : UInt8 := 0x40

inductive SessionHeader where
  | ipmi15
  | ipmi20
  deriving DecidableEq, Repr

def SessionHeader.formatType : SessionHeader → UInt8
  | .ipmi15 => 0x00
  | .ipmi20 => 0x06

/-- The sequence number of a message is stored and never looked at. -/
structure Message where
  isPacketEncrypted : Bool
  isPacketAuthenticated : Bool
  payloadType : UInt8
  rcSessionID : UInt32 := 0xBADBADFF
  bmcSessionID : UInt32 := 0xBADBADFF
  sessionSeqNum : UInt32 := 0
  payload : List UInt8
  deriving DecidableEq, Repr

/-- A read behind the end of a vector is undefined. -/
def readByte (packet : List UInt8) (index : Nat) : Result UInt8 :=
  match packet[index]? with
  | some byte => .ok byte
  | none => .error .undefined

def field (packet : List UInt8) (offset length : Nat) : List UInt8 :=
  (packet.drop offset).take length

def crc8bit (bytes : List UInt8) : UInt8 := 0 - bytes.sum

namespace Ipmi15Parser

def sessionHeaderLength : Nat := 14

def unflatten (inPacket : List UInt8) : Result Message :=
  if inPacket.length < sessionHeaderLength then raise "IPMI1.5 Session Header Missing"
  else if readWord (field inPacket 9 4) ≠ sessionZero then
    raise "IPMI1.5 session packets are unsupported"
  else
    let payloadLen := (inPacket.getD 13 0).toNat
    if payloadLen = 0 ∨ inPacket.length < sessionHeaderLength + payloadLen then
      raise "Invalid data length"
    else .ok {
      isPacketEncrypted := false
      isPacketAuthenticated := false
      payloadType := payloadTypeIpmi
      bmcSessionID := sessionZero
      sessionSeqNum := readWord (field inPacket 5 4)
      payload := field inPacket sessionHeaderLength payloadLen }

def sessionHeader (outMessage : Message) : List UInt8 :=
  [rmcpVersion, 0x00, rmcpSeq, classOfMsgIpmi, SessionHeader.ipmi15.formatType] ++ word 0 ++
    word outMessage.rcSessionID ++ [UInt8.ofNat outMessage.payload.length]

/-- The packet has grown by the trailer when the trailer is written behind it, where nothing of the
daemon is kept. -/
def flatten (outMessage : Message) : List UInt8 :=
  sessionHeader outMessage ++ outMessage.payload ++ [0]

end Ipmi15Parser

namespace Ipmi20Parser

def sessionHeaderLength : Nat := 16
def sessionTrailerLength : Nat := 2

/-- The pad has at least one byte. -/
def paddingLen (payloadLen : Nat) : Nat := 4 - (payloadLen + 2) % 4

def verifyPacketIntegrity (crypto : Crypto) (packet : List UInt8) (payloadLen : Nat)
    (session : Session) : Result Bool :=
  let sessTrailerPos := sessionHeaderLength + payloadLen + paddingLen payloadLen
  if packet.length < sessTrailerPos + sessionTrailerLength then .ok false
  else if (packet.getD sessTrailerPos 0).toNat ≠ paddingLen payloadLen then .ok false
  else do
    let integrityAlgo ← session.getIntegrityAlgo
    if packet.length - sessTrailerPos - sessionTrailerLength ≠ sha256128AuthcodeLength then .ok false
    else
      let length := packet.length - sha256128AuthcodeLength - rmcpSessionHeaderSize
      .ok (integrityAlgo.generateHMAC crypto (field packet rmcpSessionHeaderSize length) ==
        packet.drop (sessTrailerPos + sessionTrailerLength))

/-- A packet without a code is not verified. -/
def checkIntegrity (crypto : Crypto) (packet : List UInt8) (payloadLen : Nat) (session : Session) :
    Bool → Result Unit
  | true => do
      let verified ← verifyPacketIntegrity crypto packet payloadLen session
      if verified then .ok () else raise "Packet Integrity check failed"
  | false => .ok ()

def plainPayload (crypto : Crypto) (packet : List UInt8) (payloadLen : Nat) (session : Session) :
    Bool → Result (List UInt8)
  | true => do
      let cryptAlgo ← session.getCryptAlgo
      cryptAlgo.decryptPayload crypto packet sessionHeaderLength payloadLen
  | false => .ok (field packet sessionHeaderLength payloadLen)

def unflatten (crypto : Crypto) (manager : Manager) (inPacket : List UInt8) : Result Message :=
  if inPacket.length < sessionHeaderLength then raise "IPMI2.0 Session Header Missing"
  else do
    let payloadType := inPacket.getD 5 0
    let sessionID := readWord (field inPacket 6 4)
    let session ← manager.getSession sessionID
    let isPacketEncrypted : Bool := payloadType &&& payloadEncryptMask ≠ 0
    let isPacketAuthenticated : Bool := payloadType &&& payloadAuthMask ≠ 0
    let payloadLen := decode (field inPacket 14 2)
    let integrityMismatch := session.integrityAlgoInterface.isSome && !isPacketAuthenticated
    let encryptMismatch := session.cryptAlgoInterface.isSome && !isPacketEncrypted
    if payloadLen = 0 ∨ inPacket.length < sessionHeaderLength + payloadLen then
      raise "Invalid data length"
    else if sessionID ≠ sessionZero ∧ (integrityMismatch || encryptMismatch) then
      raise "unencrypted or unauthenticated message"
    else
      checkIntegrity crypto inPacket payloadLen session isPacketAuthenticated
      let payload ← plainPayload crypto inPacket payloadLen session isPacketEncrypted
      return {
        isPacketEncrypted := isPacketEncrypted
        isPacketAuthenticated := isPacketAuthenticated
        payloadType := payloadType &&& 0x3F
        bmcSessionID := sessionID
        sessionSeqNum := readWord (field inPacket 10 4)
        payload := payload }

/-- The counter wraps around, and messages outside of sessions do not count. -/
def addSequenceNumber (outMessage : Message) (session : Session) : UInt32 × Session :=
  if outMessage.rcSessionID = sessionZero then (0, session)
  else (session.sequenceOut + 1, { session with sequenceOut := session.sequenceOut + 1 })

def addIntegrityData (crypto : Crypto) (packet : List UInt8) (payloadLen : Nat)
    (session : Session) : Result (List UInt8) := do
  let trailed := packet ++ List.replicate (paddingLen payloadLen) 0xFF ++
    [UInt8.ofNat (paddingLen payloadLen), rmcpMessageClassIpmi]
  let integrityAlgo ← session.getIntegrityAlgo
  return trailed ++ integrityAlgo.generateHMAC crypto (trailed.drop rmcpSessionHeaderSize)

def sessionHeader (payloadType : UInt8) (sessId sessSeqNum : UInt32) (payloadLength : Nat) :
    List UInt8 :=
  [rmcpVersion, 0x00, rmcpSeq, classOfMsgIpmi, SessionHeader.ipmi20.formatType, payloadType] ++
    word sessId ++ word sessSeqNum ++ encode 2 payloadLength

def cipherPayload (crypto : Crypto) (iv : Block) (outMessage : Message) (session : Session) :
    Result (List UInt8) :=
  if outMessage.isPacketEncrypted then do
    let cryptAlgo ← session.getCryptAlgo
    return cryptAlgo.encryptPayload crypto iv outMessage.payload
  else .ok outMessage.payload

/-- The sequence number is spent before anything can fail. -/
def flatten (crypto : Crypto) (iv : Block) (outMessage : Message) (session : Session) :
    Result (List UInt8) × Session :=
  let (sequence, session) := addSequenceNumber outMessage session
  let encrypted := if outMessage.isPacketEncrypted then payloadEncryptMask else 0
  let authenticated := if outMessage.isPacketAuthenticated then payloadAuthMask else 0
  let packet : Result (List UInt8) := do
    let body ← cipherPayload crypto iv outMessage session
    let packet := sessionHeader (outMessage.payloadType ||| encrypted ||| authenticated)
      outMessage.rcSessionID sequence body.length ++ body
    if outMessage.isPacketAuthenticated then addIntegrityData crypto packet body.length session
    else return packet
  (packet, session)

end Ipmi20Parser

namespace Parser

/-- No class is below the first and above the last one, so the class of a packet is not checked. -/
def unflatten (crypto : Crypto) (manager : Manager) (inPacket : List UInt8) :
    Result (Message × SessionHeader) :=
  let classOfMsg := inPacket.getD 3 0
  if inPacket.length < 4 then raise "RMCP Header missing"
  else if inPacket.getD 0 0 ≠ rmcpVersion ∨ inPacket.getD 2 0 ≠ rmcpSeq ∨
      (classOfMsg < classOfMsgAsf ∧ classOfMsgOem < classOfMsg) then
    raise "RMCP Header is invalid"
  else if classOfMsg = classOfMsgAsf then raise "RMCP Ping is not supported"
  else do
    let formatType ← readByte inPacket 4
    if formatType = SessionHeader.ipmi15.formatType then do
      let message ← Ipmi15Parser.unflatten inPacket
      return (message, .ipmi15)
    else if formatType = SessionHeader.ipmi20.formatType then do
      let message ← Ipmi20Parser.unflatten crypto manager inPacket
      return (message, .ipmi20)
    else raise "Invalid Session Header"

def flatten (crypto : Crypto) (iv : Block) (outMessage : Message) (authType : SessionHeader)
    (session : Session) : Result (List UInt8) × Session :=
  match authType with
  | .ipmi15 => (.ok (Ipmi15Parser.flatten outMessage), session)
  | .ipmi20 => Ipmi20Parser.flatten crypto iv outMessage session

end Parser

end Chassis.Netipmid
