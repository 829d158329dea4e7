import Chassis.Construction.Bridge.Channel

namespace Chassis.Ipmi

def ccSuccess : UInt8 := 0x00
def ccInvalidCommand : UInt8 := 0xC1
def ccReqDataLenInvalid : UInt8 := 0xC7
def ccDestinationUnavailable : UInt8 := 0xD3
def ccInsufficientPrivilege : UInt8 := 0xD4
def ccUnspecifiedError : UInt8 := 0xFF
def netFnGroup : UInt8 := 0x2C
def netFnOem : UInt8 := 0x2E
def cmdWildcard : UInt8 := 0xFF

inductive Privilege where
  | none
  | callback
  | user
  | operator
  | admin
  | oem
  deriving DecidableEq, Repr

def Privilege.level : Privilege → Nat
  | .none => 0
  | .callback => 1
  | .user => 2
  | .operator => 3
  | .admin => 4
  | .oem => 5

/-- The payload is the part of the data that has not been unpacked yet. -/
structure Request where
  netFn : UInt8
  lun : UInt8
  cmd : UInt8
  priv : Privilege
  payload : List UInt8
  deriving DecidableEq, Repr

structure Response where
  cc : UInt8
  payload : List UInt8
  deriving DecidableEq, Repr

structure HandlerTuple where
  privilege : Privilege
  handler : Request → Response

/-- Each map finds a handler by its key. -/
abbrev HandlerMap : Type := Nat → Option HandlerTuple

/-- The channel of the caller is unknown, asks for a session, or has none. -/
inductive SourceChannel where
  | invalid
  | session
  | sessionless
  deriving DecidableEq, Repr

/-- The registered handlers and filters of the host, and the channel on which the bridge calls it. -/
structure Server where
  handlerMap : HandlerMap
  groupHandlerMap : HandlerMap
  oemHandlerMap : HandlerMap
  filterList : List (Request → UInt8)
  channel : SourceChannel

def makeCmdKey (cluster : Nat) (cmd : UInt8) : Nat := (cluster <<< 8) ||| cmd.toNat

def errorResponse (cc : UInt8) : Response where
  cc := cc
  payload := []

/-- The first filter that does not succeed decides. -/
def filterIpmiCommand (request : Request) : List (Request → UInt8) → Option Response
  | [] => none
  | filter :: rest =>
      if ccSuccess ≠ filter request then some (errorResponse (filter request))
      else filterIpmiCommand request rest

/-- A found handler runs unless a filter or its privilege refuses the request. -/
def callHandler (filterResponse : Option Response) (chosen : HandlerTuple) (request : Request) :
    Response :=
  match filterResponse with
  | some response => response
  | none =>
      if request.priv.level < chosen.privilege.level then errorResponse ccInsufficientPrivilege
      else chosen.handler request

/-- The command is looked up first, and then the wildcard of its cluster. -/
def executeIpmiCommandCommon (server : Server) (handlers : HandlerMap) (keyCommon : Nat)
    (request : Request) : Response :=
  let filterResponse := filterIpmiCommand request server.filterList
  match handlers (makeCmdKey keyCommon request.cmd) with
  | some chosen => callHandler filterResponse chosen request
  | none =>
      match handlers (makeCmdKey keyCommon cmdWildcard) with
      | some chosen => callHandler filterResponse chosen request
      | none => errorResponse ccInvalidCommand

/-- The first byte of the payload selects the group and is returned in front of the response. -/
def executeIpmiGroupCommand (server : Server) (request : Request) : Response :=
  match request.payload with
  | [] => errorResponse ccReqDataLenInvalid
  | group :: payload =>
      let response := executeIpmiCommandCommon server server.groupHandlerMap group.toNat
        { request with payload := payload }
      { response with payload := group :: response.payload }

/-- The first three bytes of the payload name the manufacturer, least significant byte first. -/
def executeIpmiOemCommand (server : Server) (request : Request) : Response :=
  match request.payload with
  | low :: middle :: high :: payload =>
      let iana := low.toNat + 256 * middle.toNat + 65536 * high.toNat
      let response := executeIpmiCommandCommon server server.oemHandlerMap iana
        { request with payload := payload }
      { response with payload := low :: middle :: high :: response.payload }
  | _ => errorResponse ccReqDataLenInvalid

def executeIpmiCommand (server : Server) (request : Request) : Response :=
  if netFnGroup = request.netFn then executeIpmiGroupCommand server request
  else if netFnOem = request.netFn then executeIpmiOemCommand server request
  else executeIpmiCommandCommon server server.handlerMap request.netFn.toNat request

/-- The bridge sends no session options, so only a channel without sessions serves its calls. -/
def executionEntry (server : Server) (netFn lun cmd : UInt8) (data : List UInt8) :
    Ipmb.ExecuteReply :=
  let response := match server.channel with
    | .invalid => errorResponse ccDestinationUnavailable
    | .session => errorResponse ccUnspecifiedError
    | .sessionless => executeIpmiCommand server ⟨netFn, lun, cmd, .admin, data⟩
  { netfn := netFn ||| 0x01, lun := lun, cmd := cmd, cc := response.cc, payload := response.payload }

end Chassis.Ipmi
