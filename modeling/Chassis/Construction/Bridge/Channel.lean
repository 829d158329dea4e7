import Chassis.Construction.Bridge.Frame
import Mathlib.Data.Fintype.Basic
import Mathlib.Logic.Function.Basic

namespace Chassis.Ipmb

/-- The arguments of one `sendRequest` call. -/
structure SendRequest where
  reqChannel : UInt8
  addr : UInt8
  netfn : UInt8
  lun : UInt8
  cmd : UInt8
  dataReceived : List UInt8
  deriving DecidableEq, Repr

/-- A call returns a matched response or one of the other status codes. -/
inductive RequestOutcome where
  | matched (response : IpmbResponse)
  | status (code : IpmbResponseStatus)
  deriving DecidableEq, Repr

def RequestOutcome.reply : RequestOutcome → SendRequestReply
  | .matched response => returnMatchedResponse response
  | .status code => returnStatus code

/-- A finished timer wait expired, was cancelled, or failed. -/
inductive WaitResult where
  | expired
  | aborted
  | failed
  deriving DecidableEq, Repr

/-- A coroutine of `requestAdd` is inside a write, inside a timer wait, or scheduled to resume. -/
inductive Suspension where
  | writing (attempt i2cRetryCnt : Nat)
  | waiting (attempt : Nat)
  | resuming (attempt : Nat) (ec : WaitResult)
  deriving DecidableEq, Repr

inductive CallStatus where
  | suspended (suspension : Suspension)
  | returned (outcome : RequestOutcome)
  deriving DecidableEq, Repr

/-- The coroutine frame of one `sendRequest` call that found its channel. -/
structure Call (count : Nat) where
  arguments : SendRequest
  channel : Fin count
  buffer : List UInt8
  status : CallStatus
  deriving DecidableEq, Repr

/-- A slot holds the identifier of the call whose request object it shares. -/
structure IpmbChannel where
  ipmbBmcSlaveAddress : UInt8
  ipmbRqSlaveAddress : UInt8
  ipmbBusId : UInt8
  channelIdx : UInt8
  outstandingRequests : Fin ipmbMaxOutstandingRequestsCount → Option Nat := fun _ => none

inductive IpmbChannelType where
  | ipmb
  | me
  | other (value : UInt8)
  deriving DecidableEq, Repr

def IpmbChannel.getChannelType (channel : IpmbChannel) : IpmbChannelType :=
  if channel.channelIdx &&& 3 = 0 then .ipmb
  else if channel.channelIdx &&& 3 = 1 then .me
  else .other (channel.channelIdx &&& 3)

/-- A received request waits for the reply of the host's `execute` method. -/
structure Execution (count : Nat) where
  channel : Fin count
  request : IpmbRequest
  deriving DecidableEq, Repr

structure ExecuteReply where
  netfn : UInt8
  lun : UInt8
  cmd : UInt8
  cc : UInt8
  payload : List UInt8
  deriving DecidableEq, Repr

/-- A frame outside `requestAdd` is written again after an error. -/
structure Outgoing (count : Nat) where
  channel : Fin count
  buffer : List UInt8
  retriesAttempted : Nat
  deriving DecidableEq, Repr

/-- Each write names the call it belongs to, if any. -/
structure Sent (count : Nat) where
  channel : Fin count
  call : Option Nat
  buffer : List UInt8
  deriving DecidableEq, Repr

/-- The undefined behaviours that the bridge can reach. -/
inductive Fault where
  | nullChannel
  | frameRange
  | nullResponse
  deriving DecidableEq, Repr

/-- The bridge serves its channels from one thread and shares one sequence counter. -/
structure Bridge (count : Nat) where
  channels : Fin count → IpmbChannel
  seqNum : UInt8 := 0
  heap : Nat → IpmbRequest := fun _ =>
    { address := 0, netFn := 0, rsLun := 0, rqSA := 0, seq := 0, rqLun := 0, cmd := 0, data := [] }
  calls : Nat → Option (Call count) := fun _ => none
  nextCall : Nat := 0
  sent : List (Sent count) := []
  unhandledCommands : List (UInt8 × UInt8) := []
  executions : List (Execution count) := []
  outgoing : List (Outgoing count) := []
  signals : List (UInt8 × UInt8 × List UInt8) := []
  fault : Option Fault := none

/-- One event runs the bridge between two suspension points. -/
inductive Event (count : Nat) where
  | sendRequest (arguments : SendRequest)
  | writeDone (call : Nat) (ec : Bool)
  | timerDone (call : Nat) (failed : Bool)
  | resume (call : Nat)
  | i2cEvent (channel : Fin count) (buffer : Option (List UInt8))
  | executeReply (index : Nat) (reply : Option ExecuteReply)
  | outgoingDone (index : Nat) (ec : Bool)
  | updateBmcSlaveAddr (reqChannel busId slaveAddr : UInt8) (opened : Bool)
  | sendBroadcast (reqChannel netFn lun cmd : UInt8) (dataReceived : List UInt8)
  deriving DecidableEq, Repr

variable {count : Nat}

def slotOf (seq : UInt8) : Fin ipmbMaxOutstandingRequestsCount :=
  Fin.ofNat ipmbMaxOutstandingRequestsCount seq.toNat

namespace Bridge

def setChannel (bridge : Bridge count) (index : Fin count) (channel : IpmbChannel) : Bridge count :=
  { bridge with channels := Function.update bridge.channels index channel }

def setSlot (bridge : Bridge count) (index : Fin count) (seq : UInt8) (owner : Option Nat) :
    Bridge count :=
  let channel := bridge.channels index
  bridge.setChannel index { channel with
    outstandingRequests := Function.update channel.outstandingRequests (slotOf seq) owner }

def setRequest (bridge : Bridge count) (call : Nat) (request : IpmbRequest) : Bridge count :=
  { bridge with heap := Function.update bridge.heap call request }

def setCall (bridge : Bridge count) (call : Nat) (record : Call count) : Bridge count :=
  { bridge with calls := Function.update bridge.calls call (some record) }

def makeRequestInvalid (bridge : Bridge count) (index : Fin count) (call : Nat) : Bridge count :=
  let request := bridge.heap call
  (bridge.setRequest call { request with state := .invalid }).setSlot index request.seq none

def makeRequestValid (bridge : Bridge count) (index : Fin count) (call : Nat) : Bridge count :=
  let request := bridge.heap call
  (bridge.setRequest call { request with state := .valid }).setSlot index request.seq (some call)

/-- The search starts after the last number given to any channel. -/
def seqNumSearch (outstanding : Fin ipmbMaxOutstandingRequestsCount → Option Nat) :
    Nat → UInt8 → UInt8 × Option UInt8
  | 0, seqNum => (seqNum, none)
  | tries + 1, seqNum =>
      let next := (seqNum + 1) % UInt8.ofNat ipmbMaxOutstandingRequestsCount
      if outstanding (slotOf next) = none then (next, some next)
      else seqNumSearch outstanding tries next

def seqNumGet (bridge : Bridge count) (index : Fin count) : Bridge count × Option UInt8 :=
  let result := seqNumSearch (bridge.channels index).outstandingRequests
    ipmbMaxOutstandingRequestsCount bridge.seqNum
  ({ bridge with seqNum := result.1 }, result.2)

/-- A response matches by net function, both units, and command. -/
def matchesRequest (request : IpmbRequest) (response : IpmbResponse) : Bool :=
  ipmbRespNetFn request.netFn == response.netFn && request.rqLun == response.rqLun &&
    request.rsLun == response.rsLun && request.cmd == response.cmd

/-- Cancelling a timer schedules its coroutine only when a wait is pending. -/
def cancelTimer (bridge : Bridge count) (call : Nat) : Bridge count :=
  match bridge.calls call with
  | some record =>
      match record.status with
      | .suspended (.waiting attempt) =>
          bridge.setCall call { record with status := .suspended (.resuming attempt .aborted) }
      | _ => bridge
  | none => bridge

def responseMatch (bridge : Bridge count) (index : Fin count) (response : IpmbResponse) :
    Bridge count :=
  match (bridge.channels index).outstandingRequests (slotOf response.seq) with
  | some call =>
      let request := bridge.heap call
      if matchesRequest request response then
        (bridge.cancelTimer call).setRequest call
          { request with state := .matched, matchedResponse := some response }
      else bridge
  | none => bridge

def returnWith (bridge : Bridge count) (call : Nat) (record : Call count)
    (outcome : RequestOutcome) : Bridge count :=
  bridge.setCall call { record with status := .returned outcome }

/-- The coroutine hands its buffer to the driver and suspends. -/
def startWrite (bridge : Bridge count) (call : Nat) (record : Call count)
    (attempt i2cRetryCnt : Nat) : Bridge count :=
  let written : Bridge count := { bridge with
    sent := bridge.sent ++ [⟨record.channel, some call, record.buffer⟩] }
  written.setCall call { record with status := .suspended (.writing attempt i2cRetryCnt) }

/-- The coroutine arms its retry timer and suspends. -/
def startWait (bridge : Bridge count) (call : Nat) (record : Call count) (attempt : Nat) :
    Bridge count :=
  bridge.setCall call { record with status := .suspended (.waiting attempt) }

/-- A failed write is repeated until its retries are used up. The wait follows in either case. -/
def afterWrite (bridge : Bridge count) (call : Nat) (record : Call count)
    (attempt i2cRetryCnt : Nat) (ec : Bool) : Bridge count :=
  if ec && i2cRetryCnt + 1 < ipmbI2cNumberOfRetries then
    bridge.startWrite call record attempt (i2cRetryCnt + 1)
  else bridge.startWait call record attempt

/-- The loop starts its next try or gives up. -/
def nextTry (bridge : Bridge count) (call : Nat) (record : Call count) (attempt : Nat) :
    Bridge count :=
  if attempt < ipmbNumberOfTries then bridge.startWrite call record attempt 0
  else (bridge.makeRequestInvalid record.channel call).returnWith call record (.status .timeout)

def afterWait (bridge : Bridge count) (call : Nat) (record : Call count) (attempt : Nat)
    (ec : WaitResult) : Bridge count :=
  if ec = .failed then
    (bridge.makeRequestInvalid record.channel call).returnWith call record (.status .error)
  else if (bridge.heap call).state = .matched then
    match (bridge.heap call).matchedResponse with
    | some response =>
        (bridge.makeRequestInvalid record.channel call).returnWith call record (.matched response)
    | none => { bridge.makeRequestInvalid record.channel call with fault := some .nullResponse }
  else bridge.nextTry call record (attempt + 1)

/-- A request that cannot be encoded returns without leaving the table. -/
def requestAdd (bridge : Bridge count) (call : Nat) (record : Call count) : Bridge count :=
  let valid := bridge.makeRequestValid record.channel call
  match (valid.heap call).ipmbToi2cConstruct with
  | none => valid.returnWith call record (.status .error)
  | some buffer => valid.nextTry call { record with buffer := buffer } 0

def getChannel (bridge : Bridge count) (reqChannel : UInt8) : Option (Fin count) :=
  (List.finRange count).find? fun index => (bridge.channels index).channelIdx == reqChannel

def updateRqSlaveAddress (bridge : Bridge count) (index : Fin count) (addr : UInt8) :
    Bridge count :=
  bridge.setChannel index { bridge.channels index with ipmbRqSlaveAddress := addr }

/-- The destination of a call is the channel's own field, which the address `0x40` keeps. -/
def selectSlave (bridge : Bridge count) (index : Fin count) (addr : UInt8) : Bridge count :=
  if (bridge.channels index).ipmbRqSlaveAddress ≠ addr ∧ addr ≠ 0x40 then
    bridge.updateRqSlaveAddress index addr
  else bridge

/-- The handler reads the channel before it compares the pointer with null. -/
def ipmbHandleRequest (bridge : Bridge count) (arguments : SendRequest) : Bridge count :=
  match bridge.getChannel arguments.reqChannel with
  | none => { bridge with fault := some .nullChannel }
  | some index =>
      let call := bridge.nextCall
      let record : Call count := ⟨arguments, index, [], .returned (.status .busy)⟩
      let selected := bridge.selectSlave index arguments.addr
      let numbered := selected.seqNumGet index
      let started := { numbered.1 with nextCall := call + 1 }
      match numbered.2 with
      | none => started.setCall call record
      | some seqNum =>
          let request : IpmbRequest := {
            address := (started.channels index).ipmbRqSlaveAddress
            netFn := arguments.netfn
            rsLun := ipmbRsLun
            rqSA := (started.channels index).ipmbBmcSlaveAddress
            seq := seqNum
            rqLun := arguments.lun
            cmd := arguments.cmd
            data := arguments.dataReceived }
          let constructed := started.setRequest call request
          if request.timer = false then
            constructed.returnWith call record (.status .error)
          else constructed.requestAdd call record

def ipmbSendI2cFrame (bridge : Bridge count) (index : Fin count) (buffer : List UInt8)
    (retriesAttempted : Nat) : Bridge count :=
  { bridge with
    sent := bridge.sent ++ [⟨index, none, buffer⟩]
    outgoing := bridge.outgoing ++ [⟨index, buffer, retriesAttempted⟩] }

/-- An error is retried while the attempts do not exceed the limit. -/
def outgoingDone (bridge : Bridge count) (position : Nat) (frame : Outgoing count) (ec : Bool) :
    Bridge count :=
  let finished := { bridge with outgoing := bridge.outgoing.eraseIdx position }
  if ec && !(frame.retriesAttempted > ipmbI2cNumberOfRetries) then
    finished.ipmbSendI2cFrame frame.channel frame.buffer (frame.retriesAttempted + 1)
  else finished

def sendResponse (bridge : Bridge count) (index : Fin count) (response : IpmbResponse) :
    Bridge count :=
  match response.ipmbToi2cConstruct with
  | some buffer => bridge.ipmbSendI2cFrame index buffer 0
  | none => bridge

def isBlocked (bridge : Bridge count) (reqNetFn cmd : UInt8) : Bool :=
  bridge.unhandledCommands.contains (reqNetFn, cmd)

def addFilter (bridge : Bridge count) (reqNetFn cmd : UInt8) : Bridge count :=
  { bridge with unhandledCommands := bridge.unhandledCommands.insert (reqNetFn, cmd) }

/-- A blocked request is answered at once. Any other request goes to the host. -/
def requestReceived (bridge : Bridge count) (index : Fin count) (frame : List UInt8) (r : Nat) :
    Bridge count :=
  let netFn := ipmbNetFnGet (byteAt frame 1)
  let cmd := byteAt frame 5
  if bridge.isBlocked netFn cmd then
    bridge.sendResponse index {
      address := byteAt frame 3
      netFn := ipmbRespNetFn netFn
      rqLun := ipmbLunFromSeqLunGet (byteAt frame 4)
      rsSA := (bridge.channels index).ipmbBmcSlaveAddress
      seq := ipmbSeqGet (byteAt frame 4)
      rsLun := ipmbRsLun
      cmd := cmd
      completionCode := ipmbIpmiInvalidCmd
      data := [] }
  else
    match IpmbRequest.i2cToIpmbConstruct frame r with
    | some request => { bridge with executions := bridge.executions ++ [⟨index, request⟩] }
    | none => { bridge with fault := some .frameRange }

/-- The driver fills a zeroed buffer whose first byte is the frame length. A frame of a wrong length
or checksum is dropped. -/
def receiveFrame (bytes : List UInt8) : Option (List UInt8 × Nat) :=
  let received := bytes.take ipmbMaxFrameLength
  let buffer := received ++ List.replicate (ipmbMaxFrameLength - received.length) 0
  let frame := buffer.drop ipmbPktLenSize
  let r := received.length - 1
  if r < ipmbMinFrameLength ∨ r > ipmbMaxFrameLength then none
  else if isFrameValid frame (UInt8.ofNat r) = false then none
  else some (frame, r)

/-- Every frame of an IPMB channel is announced by a signal before it is handled. -/
def announce (bridge : Bridge count) (index : Fin count) (frame : List UInt8) (r : Nat) :
    Bridge count :=
  if (bridge.channels index).getChannelType = .ipmb then
    match IpmbRequest.i2cToIpmbConstruct frame r with
    | some message => { bridge with
        signals := bridge.signals ++ [(message.netFn, message.cmd, message.data)] }
    | none => { bridge with fault := some .frameRange }
  else bridge

def processI2cEvent (bridge : Bridge count) (index : Fin count) (bytes : Option (List UInt8)) :
    Bridge count :=
  match bytes.bind receiveFrame with
  | none => bridge
  | some (frame, r) =>
      let announced := bridge.announce index frame r
      if ipmbIsResponse frame then
        match IpmbResponse.i2cToIpmbConstruct frame r with
        | some response => announced.responseMatch index response
        | none => { announced with fault := some .frameRange }
      else announced.requestReceived index frame r

/-- The host's reply becomes a response frame, and an unknown command enters the filter. -/
def executeReply (bridge : Bridge count) (position : Nat) (execution : Execution count)
    (reply : Option ExecuteReply) : Bridge count :=
  let finished := { bridge with executions := bridge.executions.eraseIdx position }
  match reply with
  | none => finished
  | some reply =>
      let response : IpmbResponse := {
        address := execution.request.rqSA
        netFn := reply.netfn
        rqLun := execution.request.rqLun
        rsSA := (bridge.channels execution.channel).ipmbBmcSlaveAddress
        seq := execution.request.seq
        rsLun := reply.lun
        cmd := reply.cmd
        completionCode := reply.cc
        data := reply.payload }
      if reply.payload.length > ipmbMaxDataSize then
        finished.sendResponse execution.channel { response with
          rsLun := ipmbRsLun, completionCode := ipmbIpmiCmdRespNotProvided, data := [] }
      else if reply.netfn &&& ipmbNetFnResponseMask = 0 then finished
      else
        let filtered :=
          if reply.cc = ipmbIpmiInvalidCmd then
            finished.addFilter (ipmbReqNetFnFromRespNetFn reply.netfn) reply.cmd
          else finished
        filtered.sendResponse execution.channel response

/-- The channel takes its new address only when the slave device could be reopened. -/
def updateBmcSlaveAddr (bridge : Bridge count) (reqChannel busId slaveAddr : UInt8)
    (opened : Bool) : Bridge count :=
  match bridge.getChannel reqChannel with
  | none => bridge
  | some index =>
      let channel := bridge.channels index
      if channel.getChannelType ≠ .ipmb ∨ busId ≠ channel.ipmbBusId ∨
          channel.ipmbBmcSlaveAddress = slaveAddr ∨ opened = false then bridge
      else bridge.setChannel index { channel with ipmbBmcSlaveAddress := slaveAddr }

def sendBroadcast (bridge : Bridge count) (reqChannel netFn lun cmd : UInt8)
    (dataReceived : List UInt8) : Bridge count :=
  match bridge.getChannel reqChannel with
  | none => bridge
  | some index =>
      let request : IpmbRequest := {
        address := broadcastAddress
        netFn := netFn
        rsLun := ipmbRsLun
        rqSA := (bridge.channels index).ipmbBmcSlaveAddress
        seq := 0
        rqLun := lun
        cmd := cmd
        data := dataReceived }
      match request.ipmbToi2cConstruct with
      | some buffer => bridge.ipmbSendI2cFrame index buffer 0
      | none => bridge

/-- An event is enabled only in the suspension it belongs to. A fault ends the process. -/
def step (bridge : Bridge count) (event : Event count) : Option (Bridge count) :=
  if bridge.fault.isSome then none
  else
    match event with
    | .sendRequest arguments => some (bridge.ipmbHandleRequest arguments)
    | .writeDone call ec =>
        match bridge.calls call with
        | some record =>
            match record.status with
            | .suspended (.writing attempt i2cRetryCnt) =>
                some (bridge.afterWrite call record attempt i2cRetryCnt ec)
            | _ => none
        | none => none
    | .timerDone call failed =>
        match bridge.calls call with
        | some record =>
            match record.status with
            | .suspended (.waiting attempt) =>
                some (bridge.setCall call { record with
                  status := .suspended (.resuming attempt (if failed then .failed else .expired)) })
            | _ => none
        | none => none
    | .resume call =>
        match bridge.calls call with
        | some record =>
            match record.status with
            | .suspended (.resuming attempt ec) => some (bridge.afterWait call record attempt ec)
            | _ => none
        | none => none
    | .i2cEvent index bytes => some (bridge.processI2cEvent index bytes)
    | .executeReply position reply =>
        bridge.executions[position]?.map fun execution =>
          bridge.executeReply position execution reply
    | .outgoingDone position ec =>
        bridge.outgoing[position]?.map fun frame => bridge.outgoingDone position frame ec
    | .updateBmcSlaveAddr reqChannel busId slaveAddr opened =>
        some (bridge.updateBmcSlaveAddr reqChannel busId slaveAddr opened)
    | .sendBroadcast reqChannel netFn lun cmd dataReceived =>
        some (bridge.sendBroadcast reqChannel netFn lun cmd dataReceived)

/-- A freshly started bridge has no calls and empty tables. -/
def initial (channels : Fin count → IpmbChannel) : Bridge count :=
  { channels := fun index => { channels index with outstandingRequests := fun _ => none } }

end Bridge

end Chassis.Ipmb
