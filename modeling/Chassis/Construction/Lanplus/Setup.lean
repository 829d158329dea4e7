import Chassis.Construction.Lanplus.Message

namespace Chassis.Lanplus
open Data LittleEndian

def ipmiRakpStatusNoErrors : UInt8 := 0x00
def ipmiRakpStatusInvalidIntegrityCheckValue : UInt8 := 0x0F

def ipmiSessionPrivAdmin : UInt8 := 4
def ipmiMaxUserNameLength : Nat := 16

/-- What the user of the program has asked for. The key of the controller has twenty bytes. -/
structure SessionParams where
  username : List UInt8
  privlvl : UInt8
  lookupbit : UInt8
  kg : List UInt8
  cipherSuiteId : UInt8
  oem : Option Oem

structure Ciphers where
  authAlg : UInt8
  integrityAlg : UInt8
  cryptAlg : UInt8
  deriving DecidableEq, Repr

def lanplusGetRequestedCiphers (cipherSuiteId : UInt8) : Option Ciphers :=
  [ (0, ⟨ipmiAuthRakpNone, ipmiIntegrityNone, ipmiCryptNone⟩),
    (1, ⟨ipmiAuthRakpHmacSha1, ipmiIntegrityNone, ipmiCryptNone⟩),
    (2, ⟨ipmiAuthRakpHmacSha1, ipmiIntegrityHmacSha196, ipmiCryptNone⟩),
    (3, ⟨ipmiAuthRakpHmacSha1, ipmiIntegrityHmacSha196, ipmiCryptAesCbc128⟩),
    (4, ⟨ipmiAuthRakpHmacSha1, ipmiIntegrityHmacSha196, ipmiCryptXrc4128⟩),
    (5, ⟨ipmiAuthRakpHmacSha1, ipmiIntegrityHmacSha196, ipmiCryptXrc440⟩),
    (6, ⟨ipmiAuthRakpHmacMd5, ipmiIntegrityNone, ipmiCryptNone⟩),
    (7, ⟨ipmiAuthRakpHmacMd5, ipmiIntegrityHmacMd5128, ipmiCryptNone⟩),
    (8, ⟨ipmiAuthRakpHmacMd5, ipmiIntegrityHmacMd5128, ipmiCryptAesCbc128⟩),
    (9, ⟨ipmiAuthRakpHmacMd5, ipmiIntegrityHmacMd5128, ipmiCryptXrc4128⟩),
    (10, ⟨ipmiAuthRakpHmacMd5, ipmiIntegrityHmacMd5128, ipmiCryptXrc440⟩),
    (11, ⟨ipmiAuthRakpHmacMd5, ipmiIntegrityMd5128, ipmiCryptNone⟩),
    (12, ⟨ipmiAuthRakpHmacMd5, ipmiIntegrityMd5128, ipmiCryptAesCbc128⟩),
    (13, ⟨ipmiAuthRakpHmacMd5, ipmiIntegrityMd5128, ipmiCryptXrc4128⟩),
    (14, ⟨ipmiAuthRakpHmacMd5, ipmiIntegrityMd5128, ipmiCryptXrc440⟩),
    (15, ⟨ipmiAuthRakpHmacSha256, ipmiIntegrityNone, ipmiCryptNone⟩),
    (16, ⟨ipmiAuthRakpHmacSha256, ipmiIntegrityHmacSha256128, ipmiCryptNone⟩),
    (17, ⟨ipmiAuthRakpHmacSha256, ipmiIntegrityHmacSha256128, ipmiCryptAesCbc128⟩) ].lookup
      cipherSuiteId

section Send

/-- The states in which a message of the setup may be sent. Anywhere else the program ends. -/
def Payload.sendable (payload : Payload) (state : SessionState) : Bool :=
  match payload with
  | .ipmi .. => true
  | .openRequest _ => state = .presession ∨ state = .openSessionSent
  | .rakp1 _ => state = .openSessionReceived
  | .rakp3 _ => state = .rakp2Received
  | .sol _ => state = .active

/-- The state in which the answer to a message is waited for. -/
def Payload.sentState (payload : Payload) (state : SessionState) : SessionState :=
  match payload with
  | .openRequest _ => .openSessionSent
  | .rakp1 _ => .rakp1Sent
  | .rakp3 _ => .rakp3Sent
  | .ipmi .. => state
  | .sol _ => state

/-- One transmission of a message. -/
def ipmiLanplusSendPayload (crypto : Crypto) (oem : Option Oem) (iv : Block)
    (session : IpmiSession) (payload : Payload) : Result (List UInt8 × IpmiSession) :=
  if payload.sendable session.sessionState = false then .error .aborted
  else do
    let (packet, session) ← buildV2xMsg crypto oem iv session payload
    return (packet, { session with sessionState := payload.sentState session.sessionState })

end Send

section OpenSession

def Ciphers.request (ciphers : Ciphers) (privlvl : UInt8) (consoleId : UInt32) : List UInt8 :=
  [0, privlvl, 0, 0] ++ word consoleId ++ [0, 0, 0, 8, ciphers.authAlg, 0, 0, 0] ++
    [1, 0, 0, 8, ciphers.integrityAlg, 0, 0, 0] ++ [2, 0, 0, 8, ciphers.cryptAlg, 0, 0, 0]

/-- An administrator asks for the highest level with a zero. -/
def openSessionRequest (params : SessionParams) (session : IpmiSession) :
    Option (IpmiSession × Payload) :=
  let privlvl :=
    if params.oem = some .intelplus ∨ params.privlvl ≠ ipmiSessionPrivAdmin then params.privlvl else 0
  (lanplusGetRequestedCiphers params.cipherSuiteId).map fun ciphers =>
    let session := { session with
      consoleId := 0xA0A2A3A4
      requestedAuthAlg := ciphers.authAlg
      requestedIntegrityAlg := ciphers.integrityAlg
      requestedCryptAlg := ciphers.cryptAlg }
    (session, .openRequest (ciphers.request privlvl session.consoleId))

/-- The algorithms of the response are noted before they are compared. -/
def acceptOpenSession (session : IpmiSession) (response : OpenSessionResponse) :
    IpmiSession × Bool :=
  if response.rakpReturnCode ≠ ipmiRakpStatusNoErrors then (session, false)
  else
    ({ session with
        maxPrivLevel := response.maxPrivLevel
        bmcId := response.bmcId
        authAlg := response.authAlg
        integrityAlg := response.integrityAlg
        cryptAlg := response.cryptAlg
        sessionState := .openSessionReceived },
      response.authAlg = session.requestedAuthAlg ∧
        response.integrityAlg = session.requestedIntegrityAlg ∧
        response.cryptAlg = session.requestedCryptAlg)

end OpenSession

section Rakp12

/-- One of the makes wants all bytes of the user name. -/
def rakp1Message (params : SessionParams) (consoleRand : List UInt8) (session : IpmiSession) :
    Option (IpmiSession × Payload) :=
  let nameLength := params.username.length
  let session := { session with
    consoleRand := consoleRand
    requestedRole := params.privlvl ||| params.lookupbit }
  if ipmiMaxUserNameLength < nameLength then none
  else
    let pad := if params.oem = some .i82571spt then ipmiMaxUserNameLength - nameLength else 0
    some (session, .rakp1 ([0, 0, 0, 0] ++ word session.bmcId ++ consoleRand ++
      [session.requestedRole, 0, 0, UInt8.ofNat nameLength] ++ params.username ++
        List.replicate pad 0))

/-- The bit that one of the makes leaves out of its codes. -/
def hashedRole (params : SessionParams) (session : IpmiSession) : UInt8 :=
  if params.oem = some .i82571spt then session.requestedRole &&& 0xEF else session.requestedRole

def nameInput (params : SessionParams) : List UInt8 :=
  UInt8.ofNat params.username.length :: params.username

def rakp2MacInput (params : SessionParams) (session : IpmiSession) : List UInt8 :=
  word session.consoleId ++ word session.bmcId ++ session.consoleRand ++ session.bmcRand ++
    session.bmcGuid ++ hashedRole params session :: nameInput params

def lanplusRakp2HmacMatches (crypto : Crypto) (params : SessionParams) (session : IpmiSession)
    (bmcMac : List UInt8) : Result Bool :=
  if session.authAlg = ipmiAuthRakpNone then .ok true
  else do
    let mac ← lanplusHMAC crypto session.authAlg session.authcode (rakp2MacInput params session)
    return bmcMac == mac

/-- A wrong code is told to the controller with the next message. -/
def acceptRakp2 (crypto : Crypto) (params : SessionParams) (session : IpmiSession)
    (message : Rakp2Message) : Result (IpmiSession × Bool) :=
  let session := { session with sessionState := .rakp2Received }
  if message.rakpReturnCode ≠ ipmiRakpStatusNoErrors then .ok (session, false)
  else do
    let session := { session with bmcRand := message.bmcRand, bmcGuid := message.bmcGuid }
    let same ← lanplusRakp2HmacMatches crypto params session message.keyExchangeAuthCode
    let code := if same then ipmiRakpStatusNoErrors else ipmiRakpStatusInvalidIntegrityCheckValue
    return ({ session with rakp2ReturnCode := code }, same)

end Rakp12

section Rakp34

def rakp3MacInput (params : SessionParams) (session : IpmiSession) : List UInt8 :=
  session.bmcRand ++ word session.consoleId ++
    (if params.oem = some .intelplus ∨ params.oem = some .i82571spt then params.privlvl
      else session.requestedRole) :: nameInput params

def lanplusGenerateRakp3Authcode (crypto : Crypto) (params : SessionParams)
    (session : IpmiSession) : Result (List UInt8) :=
  if session.authAlg = ipmiAuthRakpNone then .ok []
  else lanplusHMAC crypto session.authAlg session.authcode (rakp3MacInput params session)

/-- The key of the controller comes before that of the user where there is one. -/
def lanplusGenerateSik (crypto : Crypto) (params : SessionParams) (session : IpmiSession) :
    Result IpmiSession :=
  if session.authAlg = ipmiAuthRakpNone then .ok { session with sik := [] }
  else do
    let key := if params.kg.getD 0 0 ≠ 0 then params.kg else session.authcode
    let sik ← lanplusHMAC crypto session.authAlg key (session.consoleRand ++ session.bmcRand ++
      hashedRole params session :: nameInput params)
    return { session with sik := sik }

def lanplusGenerateK (crypto : Crypto) (session : IpmiSession) (constant : List UInt8) :
    Result (List UInt8) :=
  if session.authAlg = ipmiAuthRakpNone then .ok constant
  else lanplusHMAC crypto session.authAlg session.sik constant

def lanplusGenerateK1 (crypto : Crypto) (session : IpmiSession) : Result IpmiSession := do
  let k1 ← lanplusGenerateK crypto session (List.replicate 20 0x01)
  return { session with k1 := k1 }

def lanplusGenerateK2 (crypto : Crypto) (session : IpmiSession) : Result IpmiSession := do
  let k2 ← lanplusGenerateK crypto session (List.replicate 20 0x02)
  return { session with k2 := k2 }

/-- After a wrong code the message has nothing but the code for that. -/
def rakp3Message (crypto : Crypto) (params : SessionParams) (session : IpmiSession) :
    Result (IpmiSession × Payload) :=
  let header := [0, session.rakp2ReturnCode, 0, 0] ++ word session.bmcId
  if session.sessionState ≠ .rakp2Received then .error .aborted
  else if session.rakp2ReturnCode ≠ ipmiRakpStatusNoErrors then .ok (session, .rakp3 header)
  else do
    let authcode ← lanplusGenerateRakp3Authcode crypto params session
    let session ← lanplusGenerateSik crypto params session
    let session ← lanplusGenerateK1 crypto session
    let session ← lanplusGenerateK2 crypto session
    return (session, .rakp3 (header ++ authcode))

/-- One of the makes answers with the integrity algorithm. -/
def rakp4Mac (params : SessionParams) (session : IpmiSession) : UInt8 :=
  if params.oem = some .intelplus then session.integrityAlg else session.authAlg

def lanplusRakp4HmacMatches (crypto : Crypto) (params : SessionParams) (session : IpmiSession)
    (bmcMac : List UInt8) : Result Bool :=
  if rakp4Mac params session = 0 then .ok true
  else if params.oem = some .intelplus ∧ session.integrityAlg ≠ ipmiIntegrityHmacSha196 ∧
      session.integrityAlg ≠ ipmiIntegrityHmacMd5128 then .error .aborted
  else do
    let mac ← lanplusHMAC crypto (rakp4Mac params session) session.sik
      (session.consoleRand ++ word session.bmcId ++ session.bmcGuid)
    let length ← rakp4Length (rakp4Mac params session)
    return bmcMac.take length == mac.take length

def acceptRakp4 (crypto : Crypto) (params : SessionParams) (session : IpmiSession)
    (message : Rakp4Message) : Result (IpmiSession × Bool) :=
  if session.rakp2ReturnCode ≠ ipmiRakpStatusNoErrors ∨
      message.rakpReturnCode ≠ ipmiRakpStatusNoErrors then .ok (session, false)
  else do
    let same ← lanplusRakp4HmacMatches crypto params session message.integrityCheckValue
    return (if same then { session with sessionState := .active } else session, same)

end Rakp34

end Chassis.Lanplus
