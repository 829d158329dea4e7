import Chassis.Construction.Network.Command

namespace Chassis.Netipmid
open Data LittleEndian

section Response

/-- The function and the command stand in the second and in the sixth byte of a request. -/
def Message.getCommand (message : Message) : Result UInt32 :=
  let payloadType := message.payloadType.toUInt32 <<< 16
  if message.payloadType = payloadTypeIpmi then do
    let netfn ← readByte message.payload 1
    let cmd ← readByte message.payload 5
    return payloadType ||| netfn.toUInt32 <<< 8 ||| cmd.toUInt32
  else .ok payloadType

def responseType (payloadType : UInt8) : UInt8 :=
  if payloadType = payloadTypeOpenSessionRequest then payloadTypeOpenSessionResponse
  else if payloadType = payloadTypeRakp1 then payloadTypeRakp2
  else if payloadType = payloadTypeRakp3 then payloadTypeRakp4
  else payloadType

/-- The header of the request is turned around, and both parts of the message get a checksum. -/
def lanResponse (request output : List UInt8) : Result (List UInt8) := do
  let rsaddr ← readByte request 0
  let netfn ← readByte request 1
  let rqaddr ← readByte request 3
  let rqseq ← readByte request 4
  let cmd ← readByte request 5
  let body := [rsaddr, rqseq, cmd] ++ output
  return [rqaddr, netfn ||| 0x04, crc8bit [rqaddr, netfn ||| 0x04]] ++ body ++ [crc8bit body]

def Message.responsePayload (message : Message) (output : List UInt8) : Result (List UInt8) :=
  if message.payloadType = payloadTypeIpmi then lanResponse message.payload output else .ok output

/-- Console packets are not answered. -/
def Message.createResponse (message : Message) (output : List UInt8) : Result (Option Message) :=
  if message.payloadType = payloadTypeSol then .ok none
  else do
    let payload ← message.responsePayload output
    return some {
      isPacketEncrypted := message.isPacketEncrypted
      isPacketAuthenticated := message.isPacketAuthenticated
      payloadType := responseType message.payloadType
      rcSessionID := message.rcSessionID
      bmcSessionID := message.bmcSessionID
      payload := payload }

end Response

inductive Functor where
  | openSession
  | RAKP12
  | RAKP34
  | getChannelCapabilities
  | getChannelCipherSuites
  | setSessionPrivilegeLevel
  | closeSession
  | payloadHandler
  | activatePayload
  | deactivatePayload
  | getPayloadStatus
  | getPayloadInfo
  deriving DecidableEq, Repr

structure NetIpmidEntry where
  functor : Functor
  sessionless : Bool
  deriving DecidableEq, Repr

def netFnApp : UInt32 := 0x1800

/-- The least privilege of a command is registered with it and never looked at. -/
def commandTable : List (UInt32 × NetIpmidEntry) :=
  [ (payloadTypeOpenSessionRequest.toUInt32 <<< 16, ⟨.openSession, true⟩),
    (payloadTypeRakp1.toUInt32 <<< 16, ⟨.RAKP12, true⟩),
    (payloadTypeRakp3.toUInt32 <<< 16, ⟨.RAKP34, true⟩),
    (netFnApp ||| 0x38, ⟨.getChannelCapabilities, true⟩),
    (netFnApp ||| 0x54, ⟨.getChannelCipherSuites, true⟩),
    (netFnApp ||| 0x3B, ⟨.setSessionPrivilegeLevel, false⟩),
    (netFnApp ||| 0x3C, ⟨.closeSession, false⟩),
    (payloadTypeSol.toUInt32 <<< 16, ⟨.payloadHandler, false⟩),
    (netFnApp ||| 0x48, ⟨.activatePayload, false⟩),
    (netFnApp ||| 0x49, ⟨.deactivatePayload, false⟩),
    (netFnApp ||| 0x4A, ⟨.getPayloadStatus, false⟩),
    (netFnApp ||| 0x4B, ⟨.getPayloadInfo, false⟩) ]

/-- A request that is handed on to the queue of the host. -/
structure Forward where
  netFn : UInt8
  lun : UInt8
  cmd : UInt8
  commandData : List UInt8
  userId : UInt8
  privilege : UInt8
  currentSessionId : UInt32
  deriving DecidableEq, Repr

inductive Output where
  | nothing
  | payload (outPayload : List UInt8)
  | forward (request : Forward)
  deriving DecidableEq, Repr

/-- The commands that leave the sessions alone answer from elsewhere. -/
abbrev Elsewhere : Type := Functor → UInt32 → List UInt8 → Result (List UInt8)

section Execution

variable (daemon : Daemon) (moment : Moment) (elsewhere : Elsewhere)

def Functor.run (functor : Functor) (manager : Manager) (sessionID : UInt32)
    (commandData : List UInt8) : Option (Manager × Result (List UInt8)) :=
  match functor with
  | .openSession => Netipmid.openSession moment manager commandData
  | .RAKP12 => some (Netipmid.RAKP12 daemon moment manager commandData)
  | .RAKP34 => some (Netipmid.RAKP34 daemon moment manager commandData)
  | .setSessionPrivilegeLevel =>
      some (Netipmid.setSessionPrivilegeLevel manager sessionID commandData)
  | .closeSession => some (Netipmid.closeSession moment manager sessionID commandData)
  | other => some (manager, elsewhere other sessionID commandData)

def NetIpmidEntry.executeCommand (entry : NetIpmidEntry) (manager : Manager) (sessionID : UInt32)
    (commandData : List UInt8) : Option (Manager × Result (List UInt8)) :=
  if entry.sessionless = false ∧ sessionID = sessionZero then
    some (manager, .ok [ccInsufficientPrivilege])
  else entry.functor.run daemon moment elsewhere manager sessionID commandData

/-- The unit has three bits here, of which the lowest one of the function is one. -/
def forwardRequest (session : Session) (command : UInt32) (commandData : List UInt8) : Forward :=
  let netFnLun := (command >>> 8).toUInt8
  {   netFn := netFnLun >>> 2
      lun := netFnLun &&& 0x7
      cmd := command.toUInt8
      commandData := commandData
      userId := moment.accounts.ipmiUserGetUserId session.userName
      privilege := session.currentPrivilege
      currentSessionId := session.bmcSessionID }

/-- The table of the commands looks at the state of the session before anything is run. -/
def Table.executeCommand (manager : Manager) (sessionID : UInt32) (inCommand : UInt32)
    (commandData : List UInt8) : Option (Manager × Result Output) :=
  match commandTable.lookup inCommand with
  | none =>
      if sessionID = sessionZero then some (manager, .ok .nothing)
      else
        match manager.getSession sessionID with
        | .error failure => some (manager, .error failure)
        | .ok session =>
            if session.state ≠ .active then some (manager, .ok .nothing)
            else some (manager, .ok (.forward (forwardRequest moment session inCommand commandData)))
  | some entry =>
      let run := (entry.executeCommand daemon moment elsewhere manager sessionID commandData).map
        fun (manager, outPayload) => (manager, outPayload.map .payload)
      if sessionID = sessionZero then run
      else
        match manager.getSession sessionID with
        | .error failure => some (manager, .error failure)
        | .ok session =>
            if session.state ≠ .setupInProgress ∧ session.state ≠ .active then
              some (manager, .ok .nothing)
            else run

def lanRequestHeaderSize : Nat := 6
def lanTrailerSize : Nat := 1

namespace Handler

/-- The command is read before the length of the payload is known. -/
def executeCommand (manager : Manager) (session : Session) (inMessage : Message) :
    Option (Manager × Result Output) :=
  match inMessage.getCommand with
  | .error failure => some (manager, .error failure)
  | .ok command =>
      if inMessage.payloadType = payloadTypeIpmi then
        if inMessage.bmcSessionID = sessionZero ∨ session.sessionUserPrivAccess.ipmiEnabled then
          if inMessage.payload.length < lanRequestHeaderSize + lanTrailerSize then
            some (manager, .ok .nothing)
          else
            Table.executeCommand daemon moment elsewhere manager inMessage.bmcSessionID command
              ((inMessage.payload.drop lanRequestHeaderSize).take
                (inMessage.payload.length - lanRequestHeaderSize - lanTrailerSize))
        else some (manager, .ok (.payload [ccInsufficientPrivilege]))
      else
        Table.executeCommand daemon moment elsewhere manager inMessage.bmcSessionID command
          inMessage.payload

/-- What the session that has taken a request throws while it answers is caught. -/
def send (manager : Manager) (session : Session) (inMessage : Message) (header : SessionHeader)
    (outPayload : List UInt8) : Manager × Result (Option (List UInt8)) :=
  match inMessage.createResponse outPayload with
  | .error failure => (manager, .error failure)
  | .ok none => (manager, .ok none)
  | .ok (some outMessage) =>
      let session := (manager.find inMessage.bmcSessionID).getD session
      let (packet, session) := Parser.flatten daemon.crypto moment.iv outMessage header session
      let manager := manager.update inMessage.bmcSessionID fun _ => session
      match packet with
      | .ok packet => (manager, .ok (some packet))
      | .error .undefined => (manager, .error .undefined)
      | .error (.runtimeError _) => (manager, .ok none)

/-- A packet is answered, left without an answer, or answered when the host has done so. -/
inductive Reaction where
  | silent
  | packet (bytes : List UInt8)
  | forward (request : Forward) (inMessage : Message) (header : SessionHeader) (session : Session)
  deriving DecidableEq, Repr

/-- The number of the console and the time are noted before the command is run. -/
def updSessionData (manager : Manager) (inMessage : Message) : Result (Manager × Session × Message) :=
  do
    let session ← manager.getSession inMessage.bmcSessionID
    let session := { session with lastTime := moment.now }
    return (manager.update inMessage.bmcSessionID fun _ => session, session,
      { inMessage with rcSessionID := session.remoteConsoleSessionID })

def react (manager : Manager) (session : Session) (inMessage : Message) (header : SessionHeader) :
    Result Output → Manager × Result Reaction
  | .error failure => (manager, .error failure)
  | .ok .nothing => (manager, .ok .silent)
  | .ok (.forward request) => (manager, .ok (.forward request inMessage header session))
  | .ok (.payload outPayload) =>
      let (manager, sent) := send daemon moment manager session inMessage header outPayload
      (manager, sent.map fun packet => packet.elim .silent .packet)

/-- A packet that cannot be parsed is dropped. -/
def processIncoming (manager : Manager) (inPacket : List UInt8) :
    Option (Manager × Result Reaction) :=
  match Parser.unflatten daemon.crypto manager inPacket with
  | .error failure => some (manager, .error failure)
  | .ok (inMessage, header) =>
      match updSessionData moment manager inMessage with
      | .error failure => some (manager, .error failure)
      | .ok (manager, session, inMessage) =>
          (executeCommand daemon moment elsewhere manager session inMessage).map
            fun (manager, output) => react daemon moment manager session inMessage header output

end Handler

end Execution

end Chassis.Netipmid
