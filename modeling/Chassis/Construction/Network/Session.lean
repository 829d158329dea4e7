import Chassis.Construction.Network.Cipher

namespace Chassis.Netipmid

def sessionZero : UInt32 := 0
def maxSessionlessCount : Nat := 1
def maxSessionCountPerChannel : Nat := 15
def multiIntfaceSessionHandleMask : UInt8 := 0x3F
def multiIntfaceSessionIDMask : UInt32 := 0x3FFFFFFF
abbrev maxSessionHandles : Nat := 63

def privilegeCallback : UInt8 := 1
def privilegeUser : UInt8 := 2
def privilegeAdmin : UInt8 := 4
def privilegeOem : UInt8 := 5

/-- Only this part of the requested level is a privilege. -/
def reqMaxPrivMask : UInt8 := 0xF

inductive State where
  | inactive
  | setupInProgress
  | active
  | tearDownInProgress
  deriving DecidableEq, Repr

structure PrivAccess where
  privilege : UInt8
  ipmiEnabled : Bool
  deriving DecidableEq, Repr

structure ChannelAccess where
  accessMode : UInt8
  privLimit : UInt8
  deriving DecidableEq, Repr

/-- The algorithm of the session setup keeps the key of the user and both random numbers. -/
structure AuthAlgo where
  userKey : List UInt8
  bmcRandomNum : List UInt8
  rcRandomNum : List UInt8
  sessionIntegrityKey : List UInt8
  deriving DecidableEq, Repr

/-- The text "0penBmc" fills the front of the first key. -/
def defaultUserKey : List UInt8 :=
  [0x30, 0x70, 0x65, 0x6E, 0x42, 0x6D, 0x63] ++ List.replicate 13 0

structure Session where
  bmcSessionID : UInt32
  remoteConsoleSessionID : UInt32
  reqMaxPrivLevel : UInt8
  authAlgoInterface : Option AuthAlgo := none
  sessionUserPrivAccess : PrivAccess := ⟨0, false⟩
  sessionChannelAccess : ChannelAccess := ⟨0, 0⟩
  sequenceOut : UInt32 := 0
  userName : List UInt8 := []
  integrityAlgoInterface : Option IntegrityAlgo := none
  cryptAlgoInterface : Option CryptAlgo := none
  lastTime : Nat := 0
  state : State := .inactive
  currentPrivilege : UInt8 := 0
  sessionHandle : UInt8 := 0
  userID : UInt8 := 0
  channelNum : UInt8 := 0
  deriving DecidableEq, Repr

def Session.getAuthAlgo (session : Session) : Result AuthAlgo :=
  match session.authAlgoInterface with
  | some algo => .ok algo
  | none => raise "Authentication Algorithm Empty"

def Session.getIntegrityAlgo (session : Session) : Result IntegrityAlgo :=
  match session.integrityAlgoInterface with
  | some algo => .ok algo
  | none => raise "Integrity Algorithm Empty"

def Session.getCryptAlgo (session : Session) : Result CryptAlgo :=
  match session.cryptAlgoInterface with
  | some algo => .ok algo
  | none => raise "Confidentiality Algorithm Empty"

/-- Times are nanoseconds, and the grace periods microseconds. -/
def Session.isSessionActive (session : Session) (now activeGrace setupGrace : Nat) : Bool :=
  let elapsedMicros := (now - session.lastTime) / 1000
  match session.state with
  | .active => elapsedMicros < activeGrace
  | .setupInProgress => elapsedMicros < setupGrace
  | _ => false

/-- The sessions stand under their keys, and the slots hold the keys of the handles. -/
structure Manager where
  sessionsMap : List (UInt32 × Session)
  sessionHandleMap : List UInt32
  ipmiNetworkInstance : UInt8
  deriving DecidableEq, Repr

/-- The first session is made for everything that is sent outside of sessions. -/
def sessionZeroEntry : Session where
  bmcSessionID := 0
  remoteConsoleSessionID := 0
  reqMaxPrivLevel := 0

def managerInit (ipmiNetworkInstance : UInt8) : Manager where
  sessionsMap := [(sessionZero, sessionZeroEntry)]
  sessionHandleMap := List.replicate maxSessionHandles 0
  ipmiNetworkInstance := ipmiNetworkInstance

namespace Manager

def find (manager : Manager) (sessionID : UInt32) : Option Session :=
  manager.sessionsMap.lookup sessionID

def getSession (manager : Manager) (sessionID : UInt32) : Result Session :=
  match manager.find sessionID with
  | some session => .ok session
  | none => raise "Session ID not found"

/-- A change of a session is seen wherever the session is shared. -/
def update (manager : Manager) (sessionID : UInt32) (change : Session → Session) : Manager :=
  { manager with
    sessionsMap := manager.sessionsMap.map fun entry =>
      if entry.1 = sessionID then (entry.1, change entry.2) else entry }

def getActiveSessionCount (manager : Manager) : Nat :=
  (manager.sessionsMap.countP fun entry => entry.2.state = .active) % 256

/-- Slot zero is never used. -/
def getSessionHandle (manager : Manager) (bmcSessionID : UInt32) : UInt8 :=
  match (List.range' 1 (maxSessionHandles - 1)).find? fun index =>
      manager.sessionHandleMap.getD index 0 = bmcSessionID with
  | some index => UInt8.ofNat index
  | none => 0

def storeSessionHandle (manager : Manager) (bmcSessionID : UInt32) : Manager × UInt8 :=
  match (List.range' 1 (maxSessionHandles - 1)).find? fun index =>
      manager.sessionHandleMap.getD index 0 = 0 with
  | some index =>
      ({ manager with sessionHandleMap := manager.sessionHandleMap.set index bmcSessionID },
        UInt8.ofNat index)
  | none => (manager, 0)

def getSessionIDbyHandle (manager : Manager) (sessionHandle : UInt8) : UInt32 :=
  if sessionHandle.toNat < maxSessionHandles then
    manager.sessionHandleMap.getD sessionHandle.toNat 0
  else 0

def baseIdleMicros : Nat := 60 * 1000 * 1000
def maxSetupMicros : Nat := 3 * 1000 * 1000

/-- Only active sessions beyond the limit shorten the grace period of active sessions. -/
def activeGrace (manager : Manager) : Nat :=
  baseIdleMicros / (manager.getActiveSessionCount - maxSessionCountPerChannel + 1) ^ 3

/-- The session zero is in the map as well. -/
def setupGrace (manager : Manager) : Nat :=
  min maxSetupMicros
    (baseIdleMicros / (manager.sessionsMap.length - (maxSessionCountPerChannel + 1) + 1) ^ 3)

/-- One turn of the loop over the map removes an idle session and clears its handle. -/
def cleanEntry (now activeGrace setupGrace : Nat) (manager : Manager) (entry : UInt32 × Session) :
    Manager :=
  if entry.2.bmcSessionID = sessionZero then manager
  else if entry.2.isSessionActive now activeGrace setupGrace then manager
  else
    { manager with
      sessionHandleMap := manager.sessionHandleMap.set
        (manager.getSessionHandle entry.2.bmcSessionID).toNat 0
      sessionsMap := manager.sessionsMap.filter fun other => other.1 ≠ entry.1 }

def cleanStaleEntries (manager : Manager) (now : Nat) : Manager :=
  manager.sessionsMap.foldl (cleanEntry now manager.activeGrace manager.setupGrace) manager

/-- The number of the network instance is in the two highest bits. -/
def sessionIDOf (manager : Manager) (random : UInt32) : UInt32 :=
  random &&& multiIntfaceSessionIDMask ||| manager.ipmiNetworkInstance.toUInt32 <<< 30

/-- Random numbers are drawn until one of them names no session. As long as there is none the loop
goes on. -/
def drawSessionID (manager : Manager) (randoms : List UInt32) : Option UInt32 :=
  (randoms.map manager.sessionIDOf).find? fun candidate => (manager.find candidate).isNone

/-- What a constructor leaves unwritten keeps the contents of the memory. -/
def startSession (manager : Manager) (now : Nat) (randoms : List UInt32)
    (memory : List UInt8 × List UInt8) (remoteConsoleSessID : UInt32) (priv : UInt8) :
    Option (Manager × Result UInt32) :=
  let cleaned := manager.cleanStaleEntries now
  let activeSessions := cleaned.sessionsMap.length - maxSessionlessCount
  if activeSessions < maxSessionHandles then
    (cleaned.drawSessionID randoms).map fun bmcSessionID =>
      let (stored, handle) := cleaned.storeSessionHandle bmcSessionID
      if handle = 0 then (stored, raise "Invalid sessionHandle - No sessionID slot ")
      else
        let sessionHandle := handle &&& multiIntfaceSessionHandleMask |||
          cleaned.ipmiNetworkInstance <<< 6
        let session : Session := {
          bmcSessionID := bmcSessionID
          remoteConsoleSessionID := remoteConsoleSessID
          reqMaxPrivLevel := priv
          authAlgoInterface := some ⟨defaultUserKey, memory.1, memory.2, []⟩
          sessionHandle := sessionHandle }
        ({ stored with sessionsMap := stored.sessionsMap ++ [(bmcSessionID, session)] },
          .ok bmcSessionID)
  else some (cleaned, raise "No free sessions left")

def stopSession (manager : Manager) (bmcSessionID : UInt32) : Manager × Bool :=
  match manager.find bmcSessionID with
  | some _ =>
      (manager.update bmcSessionID fun session => { session with state := .tearDownInProgress },
        true)
  | none => (manager, false)

end Manager

end Chassis.Netipmid
