import Chassis.Construction.Network.Message

namespace Chassis.Netipmid
open Data LittleEndian

def ccOk : UInt8 := 0x00
def ccExceedsUserPriv : UInt8 := 0x81
def ccInvalidSessionId : UInt8 := 0x87
def ccInvalidSessionHandle : UInt8 := 0x88
def ccReqDataLenInvalid : UInt8 := 0xC7
def ccInvalidFieldRequest : UInt8 := 0xCC
def ccInsufficientPrivilege : UInt8 := 0xD4
def ccUnspecifiedError : UInt8 := 0xFF

def rakpNoError : UInt8 := 0x00
def rakpInsufficientResource : UInt8 := 0x01
def rakpInvalidSessionId : UInt8 := 0x02
def rakpInvalidAuthAlgo : UInt8 := 0x04
def rakpInvalidIntegrityAlgo : UInt8 := 0x05
def rakpInactiveRole : UInt8 := 0x09
def rakpUnauthRolePriv : UInt8 := 0x0A
def rakpInvalidNameLength : UInt8 := 0x0C
def rakpUnauthName : UInt8 := 0x0D
def rakpInvalidIntegrityValue : UInt8 := 0x0F
def rakpInvalidConfAlgo : UInt8 := 0x10

def rakpHmacSha256 : UInt8 := 0x03
def hmacSha256128 : UInt8 := 0x04
def aesCbc128 : UInt8 := 0x01

def userKeyMaxLength : Nat := 20
def userNameMaxLen : Nat := 16
def userNameOnlyLookupMask : UInt8 := 0x10
def userNamePrivLookup : UInt8 := 0x00
def invalidUserId : UInt8 := 0xFF
def channelAccessModeDisabled : UInt8 := 0

/-- The libraries of the host keep the users and the channel. -/
structure Accounts where
  ipmiUserGetUserId : List UInt8 → UInt8
  ipmiUserCheckEnabled : UInt8 → Bool
  ipmiUserGetPassword : List UInt8 → List UInt8
  ipmiUserPamAuthenticate : List UInt8 → List UInt8 → Bool
  ipmiUserGetPrivilegeAccess : UInt8 → UInt8 → Option PrivAccess
  getChannelAccessData : UInt8 → Option ChannelAccess

/-- What a command reads from the rest of the system while it runs. -/
structure Moment where
  now : Nat
  accounts : Accounts
  randoms : List UInt32
  memory : List UInt8 × List UInt8
  bmcRandomNum : Option Block
  iv : Block
  closeOtherNetInstanceSession : UInt32 → UInt8 → UInt8 → UInt8

/-- What stays as it is as long as the daemon runs. -/
structure Daemon where
  crypto : Crypto
  guid : Block
  interfaceIndex : UInt8

def AuthAlgo.generateHMAC (crypto : Crypto) (algo : AuthAlgo) (input : List UInt8) : List UInt8 :=
  crypto.hmac .sha256 algo.userKey input

def integrityCheckValueLength : Nat := 16

def AuthAlgo.generateICV (crypto : Crypto) (algo : AuthAlgo) (input : List UInt8) : List UInt8 :=
  (crypto.hmac .sha256 algo.sessionIntegrityKey input).take integrityCheckValueLength

section OpenSession

structure OpenSessionRequest where
  messageTag : UInt8
  maxPrivLevel : UInt8
  remoteConsoleSessionID : UInt32
  authPayload : UInt8
  authPayloadLen : UInt8
  authAlgo : UInt8
  intPayload : UInt8
  intPayloadLen : UInt8
  intAlgo : UInt8
  confPayload : UInt8
  confPayloadLen : UInt8
  confAlgo : UInt8
  deriving DecidableEq, Repr

def openSessionRequestSize : Nat := 32

def OpenSessionRequest.ofBytes (bytes : List UInt8) : OpenSessionRequest where
  messageTag := bytes.getD 0 0
  maxPrivLevel := bytes.getD 1 0 &&& 0xF
  remoteConsoleSessionID := readWord (field bytes 4 4)
  authPayload := bytes.getD 8 0
  authPayloadLen := bytes.getD 11 0
  authAlgo := bytes.getD 12 0 &&& 0x3F
  intPayload := bytes.getD 16 0
  intPayloadLen := bytes.getD 19 0
  intAlgo := bytes.getD 20 0 &&& 0x3F
  confPayload := bytes.getD 24 0
  confPayloadLen := bytes.getD 27 0
  confAlgo := bytes.getD 28 0 &&& 0x3F

/-- A refusal has the tag and the number of the console, and zeros everywhere else. -/
def OpenSessionRequest.refuse (request : OpenSessionRequest) (statusCode : UInt8) : List UInt8 :=
  [request.messageTag, statusCode, 0, 0] ++ word request.remoteConsoleSessionID ++
    List.replicate 28 0

def OpenSessionRequest.accept (request : OpenSessionRequest) (maxPrivLevel : UInt8)
    (managedSystemSessionID : UInt32) : List UInt8 :=
  [request.messageTag, rakpNoError, maxPrivLevel &&& 0xF, 0] ++
    word request.remoteConsoleSessionID ++ word managedSystemSessionID ++
    [request.authPayload, 0, 0, request.authPayloadLen, request.authAlgo, 0, 0, 0] ++
    [request.intPayload, 0, 0, request.intPayloadLen, request.intAlgo, 0, 0, 0] ++
    [request.confPayload, 0, 0, request.confPayloadLen, request.confAlgo, 0, 0, 0]

/-- Zero asks for the highest level. -/
def OpenSessionRequest.priv (request : OpenSessionRequest) : UInt8 :=
  if request.maxPrivLevel = 0 then privilegeAdmin else request.maxPrivLevel

/-- Without any free number the command does not return. -/
def openSession (moment : Moment) (manager : Manager) (inPayload : List UInt8) :
    Option (Manager × Result (List UInt8)) :=
  let request := OpenSessionRequest.ofBytes inPayload
  if inPayload.length ≠ openSessionRequestSize then some (manager, .ok [ccReqDataLenInvalid])
  else if request.authAlgo ≠ rakpHmacSha256 then
    some (manager, .ok (request.refuse rakpInvalidAuthAlgo))
  else if request.intAlgo ≠ hmacSha256128 then
    some (manager, .ok (request.refuse rakpInvalidIntegrityAlgo))
  else if request.confAlgo ≠ aesCbc128 then
    some (manager, .ok (request.refuse rakpInvalidConfAlgo))
  else
    (manager.startSession moment.now moment.randoms moment.memory request.remoteConsoleSessionID
        request.priv).map fun (manager, started) =>
      match started with
      | .error .undefined => (manager, .error .undefined)
      | .error (.runtimeError _) => (manager, .ok (request.refuse rakpInsufficientResource))
      | .ok bmcSessionID =>
          (manager.update bmcSessionID fun session =>
            { session with lastTime := moment.now, state := .setupInProgress },
            .ok (request.accept request.priv bmcSessionID))

end OpenSession

section Rakp12

structure RAKP1request where
  messageTag : UInt8
  managedSystemSessionID : UInt32
  remoteConsoleRandomNumber : List UInt8
  reqMaxPrivilegeLevel : UInt8
  userNameLen : UInt8
  userName : List UInt8
  deriving DecidableEq, Repr

/-- The size of the request without the user name. -/
def rakp1MinimumSize : Nat := 28

def RAKP1request.ofBytes (bytes : List UInt8) : RAKP1request where
  messageTag := bytes.getD 0 0
  managedSystemSessionID := readWord (field bytes 4 4)
  remoteConsoleRandomNumber := field bytes 8 16
  reqMaxPrivilegeLevel := bytes.getD 24 0
  userNameLen := bytes.getD 27 0
  userName := bytes.drop 28

/-- A refusal has its status code, and zeros everywhere else. -/
def rakp2Refuse (statusCode : UInt8) : List UInt8 := [0, statusCode] ++ List.replicate 38 0

/-- The user whom a message names, with the password. -/
def findUser (accounts : Accounts) (userName : List UInt8) : Except UInt8 (UInt8 × List UInt8) :=
  let userId := accounts.ipmiUserGetUserId userName
  let passwd := accounts.ipmiUserGetPassword userName
  if userName = [] then .error rakpUnauthName
  else if userId = invalidUserId then .error rakpUnauthName
  else if ¬ accounts.ipmiUserCheckEnabled userId then .error rakpInactiveRole
  else if passwd = [] then .error rakpUnauthName
  else if ¬ accounts.ipmiUserPamAuthenticate userName passwd then .error rakpUnauthName
  else .ok (userId, passwd)

/-- The access of the user stays in the session, also where the channel refuses it. -/
def readAccess (accounts : Accounts) (chNum userId : UInt8) (session : Session) : Session × Bool :=
  match accounts.ipmiUserGetPrivilegeAccess userId chNum with
  | none => (session, false)
  | some privAccess =>
      let session := { session with sessionUserPrivAccess := privAccess }
      match accounts.getChannelAccessData chNum with
      | none => (session, false)
      | some channelAccess =>
          ({ session with sessionChannelAccess := channelAccess },
            channelAccess.accessMode ≠ channelAccessModeDisabled ∧
              privAccess.privilege ≤ privilegeOem)

/-- The lower one of what the channel and the user are permitted. -/
def Session.minPriv (session : Session) : UInt8 :=
  if session.sessionChannelAccess.privLimit < session.sessionUserPrivAccess.privilege then
    session.sessionChannelAccess.privLimit
  else session.sessionUserPrivAccess.privilege

def Session.admit (session : Session) (chNum userId : UInt8) : Session :=
  { session with
    channelNum := chNum
    userID := userId
    currentPrivilege :=
      if session.minPriv < session.currentPrivilege then session.minPriv
      else session.currentPrivilege }

/-- The level that is asked for, and the user with the access. -/
def Session.identify (daemon : Daemon) (moment : Moment) (request : RAKP1request)
    (session : Session) : Session × Except UInt8 (List UInt8) :=
  let session := { session with
    currentPrivilege := privilegeUser
    reqMaxPrivLevel := request.reqMaxPrivilegeLevel }
  match findUser moment.accounts request.userName with
  | .error statusCode => (session, .error statusCode)
  | .ok (userId, passwd) =>
      match readAccess moment.accounts daemon.interfaceIndex userId session with
      | (session, false) => (session, .error rakpInactiveRole)
      | (session, true) =>
          let session := session.admit daemon.interfaceIndex userId
          if request.reqMaxPrivilegeLevel &&& userNameOnlyLookupMask = userNamePrivLookup ∧
              request.reqMaxPrivilegeLevel &&& reqMaxPrivMask ≠
                session.sessionUserPrivAccess.privilege then
            (session, .error rakpUnauthName)
          else (session, .ok passwd)

/-- The code of the second message covers both random numbers and everything that was asked for. -/
def rakp2Input (session : Session) (algo : AuthAlgo) (guid : Block) (request : RAKP1request) :
    List UInt8 :=
  word session.remoteConsoleSessionID ++ word session.bmcSessionID ++ algo.rcRandomNum ++
    algo.bmcRandomNum ++ List.ofFn guid ++ [request.reqMaxPrivilegeLevel, request.userNameLen] ++
    session.userName

/-- The password is copied whole into the key of the user, which has twenty bytes. -/
def Session.challenge (daemon : Daemon) (random : Block) (request : RAKP1request) (algo : AuthAlgo)
    (passwd : List UInt8) (session : Session) : Session × Result (List UInt8) :=
  if userKeyMaxLength < passwd.length then (session, .error .undefined)
  else
    let algo := { algo with
      userKey := passwd ++ List.replicate (userKeyMaxLength - passwd.length) 0
      bmcRandomNum := List.ofFn random }
    ({ session with authAlgoInterface := some algo },
      .ok ([request.messageTag, rakpNoError, 0, 0] ++ word session.remoteConsoleSessionID ++
        algo.bmcRandomNum ++ List.ofFn daemon.guid ++
        algo.generateHMAC daemon.crypto (rakp2Input session algo daemon.guid request)))

/-- The message has changed the session before anything about it is checked. -/
def Session.rakp12 (daemon : Daemon) (moment : Moment) (request : RAKP1request) (session : Session) :
    Session × Result (List UInt8) :=
  let session := { session with userName := request.userName, lastTime := moment.now }
  match session.getAuthAlgo with
  | .error failure => (session, .error failure)
  | .ok algo =>
      let algo := { algo with rcRandomNum := request.remoteConsoleRandomNumber }
      let session := { session with authAlgoInterface := some algo }
      match moment.bmcRandomNum with
      | none => (session, .ok (rakp2Refuse rakpInsufficientResource))
      | some random =>
          if ¬ privilegeCallback < request.reqMaxPrivilegeLevel &&& reqMaxPrivMask then
            (session, .ok (rakp2Refuse rakpUnauthRolePriv))
          else
            match session.identify daemon moment request with
            | (session, .error statusCode) => (session, .ok (rakp2Refuse statusCode))
            | (session, .ok passwd) => session.challenge daemon random request algo passwd

def RAKP12 (daemon : Daemon) (moment : Moment) (manager : Manager) (inPayload : List UInt8) :
    Manager × Result (List UInt8) :=
  let request := RAKP1request.ofBytes inPayload
  if inPayload.length < rakp1MinimumSize then (manager, .ok [ccReqDataLenInvalid])
  else if request.managedSystemSessionID = sessionZero then
    (manager, .ok (rakp2Refuse rakpInvalidSessionId))
  else
    match manager.find request.managedSystemSessionID with
    | none => (manager, .ok (rakp2Refuse rakpInvalidSessionId))
    | some session =>
        if userNameMaxLen < request.userNameLen.toNat ∨
            inPayload.length ≠ rakp1MinimumSize + request.userNameLen.toNat then
          (manager, .ok (rakp2Refuse rakpInvalidNameLength))
        else
          let (session, outPayload) := session.rakp12 daemon moment request
          (manager.update request.managedSystemSessionID fun _ => session, outPayload)

end Rakp12

section Rakp34

def rakp3MinimumSize : Nat := 8

/-- A refusal before the session is known has its status code alone. -/
def rakp4Refuse (statusCode : UInt8) : List UInt8 := [0, statusCode] ++ List.replicate 6 0

def Session.role (session : Session) : List UInt8 :=
  [session.reqMaxPrivLevel, UInt8.ofNat session.userName.length] ++ session.userName

def rakp3Input (session : Session) (algo : AuthAlgo) : List UInt8 :=
  algo.bmcRandomNum ++ word session.remoteConsoleSessionID ++ session.role

def sikInput (session : Session) (algo : AuthAlgo) : List UInt8 :=
  algo.rcRandomNum ++ algo.bmcRandomNum ++ session.role

def icvInput (session : Session) (algo : AuthAlgo) (guid : Block) : List UInt8 :=
  algo.rcRandomNum ++ word session.bmcSessionID ++ List.ofFn guid

/-- The only integrity algorithm that a session can be opened with. -/
def applyIntegrityAlgo (crypto : Crypto) (session : Session) : Result Session := do
  let algo ← session.getAuthAlgo
  let k1 ← generateKn crypto algo.sessionIntegrityKey const1
  return { session with integrityAlgoInterface := some ⟨k1⟩ }

def applyCryptAlgo (crypto : Crypto) (session : Session) : Result Session := do
  let algo ← session.getAuthAlgo
  let _ ← session.getIntegrityAlgo
  let k2 ← generateKn crypto algo.sessionIntegrityKey const2
  return { session with cryptAlgoInterface := some ⟨k2⟩ }

/-- The new key is put in front of any older one. -/
def AuthAlgo.insertSik (crypto : Crypto) (session : Session) (algo : AuthAlgo) : AuthAlgo :=
  let sikOutput := algo.generateHMAC crypto (sikInput session algo)
  { algo with sessionIntegrityKey := sikOutput ++ algo.sessionIntegrityKey }

def Session.activate (daemon : Daemon) (messageTag : UInt8) (algo : AuthAlgo) (session : Session) :
    Session × Result (List UInt8) :=
  let algo := algo.insertSik daemon.crypto session
  let session := { session with authAlgoInterface := some algo }
  let icv := algo.generateICV daemon.crypto (icvInput session algo daemon.guid)
  match applyIntegrityAlgo daemon.crypto session with
  | .error failure => (session, .error failure)
  | .ok session =>
      match applyCryptAlgo daemon.crypto session with
      | .error failure => (session, .error failure)
      | .ok session =>
          ({ session with state := .active },
            .ok ([messageTag, rakpNoError, 0, 0] ++ word session.remoteConsoleSessionID ++ icv))

/-- A session stands in the map under its own number, so the session that is torn down is the one
that the message names. -/
def Session.rakp34 (daemon : Daemon) (moment : Moment) (inPayload : List UInt8) (session : Session) :
    Session × Result (List UInt8) :=
  let session := { session with lastTime := moment.now }
  let messageTag := inPayload.getD 0 0
  match session.getAuthAlgo with
  | .error failure => (session, .error failure)
  | .ok algo =>
      if inPayload.drop rakp3MinimumSize ≠
          algo.generateHMAC daemon.crypto (rakp3Input session algo) then
        ({ session with state := .tearDownInProgress },
          .ok ([messageTag, rakpInvalidIntegrityValue, 0, 0] ++
            word session.remoteConsoleSessionID))
      else session.activate daemon messageTag algo

def RAKP34 (daemon : Daemon) (moment : Moment) (manager : Manager) (inPayload : List UInt8) :
    Manager × Result (List UInt8) :=
  let managedSystemSessionID := readWord (field inPayload 4 4)
  if inPayload.length < rakp3MinimumSize then
    (manager, .ok (rakp4Refuse rakpInvalidIntegrityValue))
  else if managedSystemSessionID = sessionZero then
    (manager, .ok (rakp4Refuse rakpInvalidSessionId))
  else
    match manager.find managedSystemSessionID with
    | none => (manager, .ok (rakp4Refuse rakpInvalidSessionId))
    | some session =>
        let (session, outPayload) := session.rakp34 daemon moment inPayload
        (manager.update managedSystemSessionID fun _ => session, outPayload)

end Rakp34

section Sessions

/-- Both halves of the answer stand in one byte each. -/
def Session.setPrivilegeLevel (session : Session) (reqPrivilegeLevel : UInt8) :
    Session × List UInt8 :=
  if reqPrivilegeLevel = 0 then (session, [ccOk, session.currentPrivilege &&& 0xF])
  else if reqPrivilegeLevel = privilegeCallback ∨ privilegeOem < reqPrivilegeLevel then
    (session, [ccInvalidFieldRequest, 0])
  else if session.reqMaxPrivLevel &&& reqMaxPrivMask < reqPrivilegeLevel then
    (session, [ccExceedsUserPriv, 0])
  else if session.minPriv < reqPrivilegeLevel then (session, [ccExceedsUserPriv, 0])
  else ({ session with currentPrivilege := reqPrivilegeLevel }, [ccOk, reqPrivilegeLevel])

def setSessionPrivilegeLevel (manager : Manager) (sessionID : UInt32) (inPayload : List UInt8) :
    Manager × Result (List UInt8) :=
  match inPayload with
  | [request] =>
      if request >>> 4 ≠ 0 then (manager, .ok [ccInvalidFieldRequest])
      else
        match manager.getSession sessionID with
        | .error failure => (manager, .error failure)
        | .ok session =>
            let (session, outPayload) := session.setPrivilegeLevel (request &&& 0xF)
            (manager.update sessionID fun _ => session, .ok outPayload)
  | _ => (manager, .ok [ccReqDataLenInvalid])

def closeMyNetInstanceSession (manager : Manager) (reqSessionId : UInt32) (reqSessionHandle : UInt8)
    (currentSessionPriv : UInt8) : Manager × UInt8 :=
  let named :=
    if reqSessionId = sessionZero then
      manager.getSessionIDbyHandle (reqSessionHandle &&& multiIntfaceSessionHandleMask)
    else reqSessionId
  if named = 0 then (manager, ccInvalidSessionHandle)
  else
    match manager.find named with
    | none => (manager, ccInvalidSessionId)
    | some session =>
        if currentSessionPriv < session.currentPrivilege then (manager, ccInsufficientPrivilege)
        else
          match manager.stopSession named with
          | (manager, true) => (manager, ccOk)
          | (manager, false) => (manager, ccInvalidSessionId)

/-- A session is named by its number, or after a zero number by its handle. -/
def closeSession (moment : Moment) (manager : Manager) (sessionID : UInt32)
    (inPayload : List UInt8) : Manager × Result (List UInt8) :=
  let reqSessionId := readWord (field inPayload 0 4)
  let reqSessionHandle := if inPayload.length = 5 then inPayload.getD 4 0 else 0
  if inPayload.length ≠ 4 ∧ inPayload.length ≠ 5 then (manager, .ok [ccReqDataLenInvalid])
  else if reqSessionId = sessionZero ∧ reqSessionHandle = 0 then
    (manager, .ok [ccInvalidSessionHandle])
  else if inPayload.length = 4 ∧ reqSessionId = sessionZero then
    (manager, .ok [ccInvalidSessionId])
  else if reqSessionId ≠ sessionZero ∧ inPayload.length ≠ 4 then
    (manager, .ok [ccInvalidFieldRequest])
  else
    match manager.getSession sessionID with
    | .error failure => (manager, .error failure)
    | .ok session =>
        if reqSessionId >>> 30 = manager.ipmiNetworkInstance.toUInt32 ∨
            (reqSessionId = sessionZero ∧ reqSessionHandle >>> 6 = manager.ipmiNetworkInstance) then
          let (manager, completionCode) := closeMyNetInstanceSession manager reqSessionId
            reqSessionHandle session.currentPrivilege
          (manager, .ok [completionCode])
        else
          (manager, .ok [moment.closeOtherNetInstanceSession reqSessionId reqSessionHandle
            session.currentPrivilege])

end Sessions

end Chassis.Netipmid
