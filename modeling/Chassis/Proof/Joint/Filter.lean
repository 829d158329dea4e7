import Chassis.Construction.Host
import Chassis.Construction.Manager.Command
import Chassis.Proof.Bridge.Answer

namespace Chassis.Ipmi

/-- The handler that the plain dispatch rule selects for a command. -/
def Server.handlerFor (server : Server) (netFn cmd : UInt8) : Option HandlerTuple :=
  (server.handlerMap (makeCmdKey netFn.toNat cmd)).or
    (server.handlerMap (makeCmdKey netFn.toNat cmdWildcard))

/-- The command is dispatched by the plain rule, and its handler, if it has one, refuses every
request. -/
structure Server.Unhandled (server : Server) (netFn cmd : UInt8) : Prop where
  group : netFn ≠ netFnGroup
  oem : netFn ≠ netFnOem
  refused : ∀ chosen lun data, server.handlerFor netFn cmd = some chosen →
    (callHandler (filterIpmiCommand ⟨netFn, lun, cmd, .admin, data⟩ server.filterList) chosen
      ⟨netFn, lun, cmd, .admin, data⟩).cc = ccInvalidCommand

theorem executeIpmiCommandCommon_eq (server : Server) (request : Request) :
    executeIpmiCommandCommon server server.handlerMap request.netFn.toNat request =
      match server.handlerFor request.netFn request.cmd with
      | some chosen => callHandler (filterIpmiCommand request server.filterList) chosen request
      | none => errorResponse ccInvalidCommand := by
  unfold executeIpmiCommandCommon Server.handlerFor
  dsimp only
  cases server.handlerMap (makeCmdKey request.netFn.toNat request.cmd) with
  | some chosen => rfl
  | none => rfl

section Dispatch

variable {server : Server} {netFn cmd : UInt8}

/-- Only a channel without sessions gets the answer of an unknown command. -/
theorem sessionless_of_invalid {lun : UInt8} {data : List UInt8}
    (invalid : (executionEntry server netFn lun cmd data).cc = ccInvalidCommand) :
    server.channel = .sessionless := by
  unfold executionEntry at invalid
  cases channel : server.channel with
  | invalid =>
      rw [channel] at invalid
      exact absurd (show ccDestinationUnavailable = ccInvalidCommand from invalid) (by decide)
  | session =>
      rw [channel] at invalid
      exact absurd (show ccUnspecifiedError = ccInvalidCommand from invalid) (by decide)
  | sessionless => rfl

/-- A command is unknown for all units and data exactly when the plain rule finds nothing that serves
it. The group and OEM rules refuse empty data with another code. -/
theorem unhandled_iff (channel : server.channel = .sessionless) :
    server.Unhandled netFn cmd ↔
      ∀ lun data, (executionEntry server netFn lun cmd data).cc = ccInvalidCommand := by
  have entry (lun : UInt8) (data : List UInt8) : (executionEntry server netFn lun cmd data).cc =
      (executeIpmiCommand server ⟨netFn, lun, cmd, .admin, data⟩).cc := by
    unfold executionEntry
    rw [channel]
  constructor
  · intro unhandled lun data
    rw [entry]
    unfold executeIpmiCommand
    rw [if_neg unhandled.group.symm, if_neg unhandled.oem.symm, executeIpmiCommandCommon_eq]
    dsimp only
    cases found : server.handlerFor netFn cmd with
    | none => rfl
    | some chosen => exact unhandled.refused chosen lun data found
  · intro refused
    have group : netFn ≠ netFnGroup := by
      rintro rfl
      have empty := refused 0 []
      rw [entry] at empty
      exact absurd (show ccReqDataLenInvalid = ccInvalidCommand from empty) (by decide)
    have oem : netFn ≠ netFnOem := by
      rintro rfl
      have empty := refused 0 []
      rw [entry] at empty
      exact absurd (show ccReqDataLenInvalid = ccInvalidCommand from empty) (by decide)
    refine ⟨group, oem, fun chosen lun data found => ?_⟩
    have answer := refused lun data
    rw [entry] at answer
    unfold executeIpmiCommand at answer
    rw [if_neg group.symm, if_neg oem.symm, executeIpmiCommandCommon_eq] at answer
    dsimp only at answer
    rwa [found] at answer

end Dispatch

end Chassis.Ipmi

namespace Chassis.Ipmb
open Automaton

variable {count : Nat}

/-- The commands that the bridge answers itself, and the requests that it has handed to the host. -/
def Bridge.hosting (bridge : Bridge count) : List (UInt8 × UInt8) × List (Execution count) :=
  (bridge.unhandledCommands, bridge.executions)

namespace Bridge

section Hosting

variable (bridge : Bridge count)

theorem selectSlave_hosting (index : Fin count) (addr : UInt8) :
    (bridge.selectSlave index addr).hosting = bridge.hosting := by
  unfold selectSlave
  split_ifs
  · rfl
  · rfl

theorem nextTry_hosting (call : Nat) (record : Call count) (attempt : Nat) :
    (bridge.nextTry call record attempt).hosting = bridge.hosting := by
  unfold nextTry
  split_ifs
  · rfl
  · rfl

theorem afterWrite_hosting (call : Nat) (record : Call count) (attempt i2cRetryCnt : Nat)
    (ec : Bool) : (bridge.afterWrite call record attempt i2cRetryCnt ec).hosting =
      bridge.hosting := by
  unfold afterWrite
  split_ifs
  · rfl
  · rfl

theorem afterWait_hosting (call : Nat) (record : Call count) (attempt : Nat) (ec : WaitResult) :
    (bridge.afterWait call record attempt ec).hosting = bridge.hosting := by
  unfold afterWait
  split_ifs
  · rfl
  · split
    · rfl
    · rfl
  · exact nextTry_hosting bridge call record (attempt + 1)

theorem requestAdd_hosting (call : Nat) (record : Call count) :
    (bridge.requestAdd call record).hosting = bridge.hosting := by
  unfold requestAdd
  dsimp only
  split
  · rfl
  · exact nextTry_hosting _ call _ 0

theorem ipmbHandleRequest_hosting (arguments : SendRequest) :
    (bridge.ipmbHandleRequest arguments).hosting = bridge.hosting := by
  unfold ipmbHandleRequest
  split
  · rfl
  · next index _ =>
    have selected := selectSlave_hosting bridge index arguments.addr
    dsimp only
    split
    · exact selected
    · rw [if_neg Bool.noConfusion]
      exact (requestAdd_hosting _ _ _).trans selected

theorem outgoingDone_hosting (position : Nat) (frame : Outgoing count) (ec : Bool) :
    (bridge.outgoingDone position frame ec).hosting = bridge.hosting := by
  unfold outgoingDone
  dsimp only
  split_ifs
  · rfl
  · rfl

theorem sendResponse_hosting (index : Fin count) (response : IpmbResponse) :
    (bridge.sendResponse index response).hosting = bridge.hosting := by
  unfold sendResponse
  split
  · rfl
  · rfl

theorem announce_hosting (index : Fin count) (frame : List UInt8) (r : Nat) :
    (bridge.announce index frame r).hosting = bridge.hosting := by
  unfold announce
  split_ifs
  · split
    · rfl
    · rfl
  · rfl

theorem responseMatch_hosting (index : Fin count) (response : IpmbResponse) :
    (bridge.responseMatch index response).hosting = bridge.hosting := by
  have cancelled (call : Nat) : (bridge.cancelTimer call).hosting = bridge.hosting := by
    unfold cancelTimer
    split
    · split
      · rfl
      · rfl
    · rfl
  unfold responseMatch
  split
  · next call _ =>
    dsimp only
    split_ifs
    · exact cancelled call
    · rfl
  · rfl

theorem updateBmcSlaveAddr_hosting (reqChannel busId slaveAddr : UInt8) (opened : Bool) :
    (bridge.updateBmcSlaveAddr reqChannel busId slaveAddr opened).hosting = bridge.hosting := by
  unfold updateBmcSlaveAddr
  split
  · rfl
  · dsimp only
    split_ifs
    · rfl
    · rfl

theorem sendBroadcast_hosting (reqChannel netFn lun cmd : UInt8) (dataReceived : List UInt8) :
    (bridge.sendBroadcast reqChannel netFn lun cmd dataReceived).hosting = bridge.hosting := by
  unfold sendBroadcast
  split
  · rfl
  · dsimp only
    split
    · rfl
    · rfl

end Hosting

end Bridge

/-- An accepted request frame is decoded. -/
def heardRequest (bytes : List UInt8) : Option IpmbRequest :=
  (Bridge.receiveFrame bytes).bind fun received =>
    if ipmbIsResponse received.1 then none
    else IpmbRequest.i2cToIpmbConstruct received.1 received.2

/-- The reply enters the filter. -/
def ExecuteReply.filtered (reply : ExecuteReply) : Prop :=
  reply.cc = ipmbIpmiInvalidCmd ∧ reply.payload.length ≤ ipmbMaxDataSize ∧
    reply.netfn &&& ipmbNetFnResponseMask ≠ 0

/-- These are all the effects that an event has on the filter and on the handed requests. -/
inductive Bridge.HostStep (bridge : Bridge count) :
    Event count → List (UInt8 × UInt8) × List (Execution count) → Prop where
  | kept (event : Event count) (other : ∀ position reply, event ≠ .executeReply position reply) :
      HostStep bridge event bridge.hosting
  | handed (index : Fin count) (bytes : List UInt8) (message : IpmbRequest)
      (heard : heardRequest bytes = some message) :
      HostStep bridge (.i2cEvent index (some bytes))
        (bridge.unhandledCommands, bridge.executions ++ [⟨index, message⟩])
  | answered (position : Nat) (execution : Execution count) (reply : Option ExecuteReply)
      (present : bridge.executions[position]? = some execution)
      (known : ∀ answer, reply = some answer → ¬answer.filtered) :
      HostStep bridge (.executeReply position reply)
        (bridge.unhandledCommands, bridge.executions.eraseIdx position)
  | blocked (position : Nat) (execution : Execution count) (reply : ExecuteReply)
      (present : bridge.executions[position]? = some execution) (unknown : reply.filtered) :
      HostStep bridge (.executeReply position (some reply))
        (bridge.unhandledCommands.insert (ipmbReqNetFnFromRespNetFn reply.netfn, reply.cmd),
          bridge.executions.eraseIdx position)

section Steps

variable {bridge after : Bridge count} {event : Event count}

theorem processI2cEvent_hosting (bridge : Bridge count) (index : Fin count)
    (bytes : Option (List UInt8)) :
    bridge.HostStep (.i2cEvent index bytes) (bridge.processI2cEvent index bytes).hosting := by
  have same : bridge.HostStep (.i2cEvent index bytes) bridge.hosting := .kept _ fun _ _ => nofun
  have processed := processI2cEvent_processed bridge index bytes
  generalize bridge.processI2cEvent index bytes = after at processed ⊢
  cases processed with
  | dropped rejected => exact same
  | @response frame r message received isResponse decoded =>
      rw [Bridge.responseMatch_hosting, Bridge.announce_hosting]
      exact same
  | @torn frame r received isResponse undecoded =>
      exact (Bridge.announce_hosting bridge index frame r).symm ▸ same
  | @request frame r accepted isRequest =>
      obtain ⟨bytes, rfl, received⟩ := Option.bind_eq_some_iff.mp accepted
      obtain ⟨message, decoded⟩ := receiveFrame_decoded received
      obtain ⟨signals, announced⟩ := announce_eq bridge index decoded
      rw [announced]
      cases status : bridge.isBlocked (ipmbNetFnGet (byteAt frame 1)) (byteAt frame 5) with
      | true =>
          rw [requestReceived_blocked { bridge with signals := signals } bridge 0 [] status,
            Bridge.sendResponse_hosting]
          exact same
      | false =>
          have asked : ¬ipmbIsResponse frame = true := Bool.eq_false_iff.mp isRequest
          have heard : heardRequest bytes = some message := by
            rw [heardRequest, received, Option.bind_some, if_neg asked, decoded]
          rw [requestReceived_free { bridge with signals := signals } decoded status]
          exact .handed index bytes message heard

theorem executeReply_hosting (position : Nat) (execution : Execution count)
    (reply : Option ExecuteReply) (present : bridge.executions[position]? = some execution) :
    bridge.HostStep (.executeReply position reply)
      (bridge.executeReply position execution reply).hosting := by
  unfold Bridge.executeReply
  cases reply with
  | none => exact .answered position execution none present (fun _ absent => by cases absent)
  | some reply =>
      have known (not : ¬reply.filtered) : bridge.HostStep (.executeReply position (some reply))
          (bridge.unhandledCommands, bridge.executions.eraseIdx position) :=
        .answered position execution (some reply) present
          fun answer same => Option.some.inj same ▸ not
      dsimp only
      split_ifs with oversize request unknown
      · rw [Bridge.sendResponse_hosting]
        exact known fun filtered => absurd filtered.2.1 (Nat.not_le_of_lt oversize)
      · exact known fun filtered => filtered.2.2 request
      · rw [Bridge.sendResponse_hosting]
        exact .blocked position execution reply present
          ⟨unknown, Nat.le_of_not_lt oversize, request⟩
      · rw [Bridge.sendResponse_hosting]
        exact known fun filtered => unknown filtered.1

theorem step_hosting (taken : bridge.step event = some after) :
    bridge.HostStep event after.hosting := by
  have kept {same : Bridge count} (hosting : same.hosting = bridge.hosting)
      (other : ∀ position reply, event ≠ .executeReply position reply) :
      bridge.HostStep event same.hosting := by
    rw [hosting]
    exact .kept event other
  cases (step_taken taken).2 with
  | sendRequest arguments =>
      exact kept (Bridge.ipmbHandleRequest_hosting bridge arguments) fun _ _ => nofun
  | writeDone ec present writing =>
      exact kept (Bridge.afterWrite_hosting bridge _ _ _ _ _) fun _ _ => nofun
  | timerDone failed present waiting =>
      apply kept rfl
      exact fun _ _ => nofun
  | resume present resuming =>
      exact kept (Bridge.afterWait_hosting bridge _ _ _ _) fun _ _ => nofun
  | i2cEvent index bytes => exact processI2cEvent_hosting bridge index bytes
  | executeReply reply present => exact executeReply_hosting _ _ reply present
  | outgoingDone ec present =>
      exact kept (Bridge.outgoingDone_hosting bridge _ _ ec) fun _ _ => nofun
  | updateBmcSlaveAddr =>
      exact kept (Bridge.updateBmcSlaveAddr_hosting bridge _ _ _ _) fun _ _ => nofun
  | sendBroadcast =>
      exact kept (Bridge.sendBroadcast_hosting bridge _ _ _ _ _) fun _ _ => nofun

end Steps

/-- The host's answer to a request that the bridge hands to it. -/
def answerOf (server : Ipmi.Server) (request : IpmbRequest) : ExecuteReply :=
  Ipmi.executionEntry server request.netFn request.rsLun request.cmd request.data

/-- Every reply is the host's answer to the request that it belongs to. -/
def Event.Hosted (server : Ipmi.Server) (bridge : Bridge count) : Event count → Prop
  | .executeReply position (some reply) => ∀ execution,
      bridge.executions[position]? = some execution → reply = answerOf server execution.request
  | _ => True

/-- Every reply that enters the filter belongs to a command that the host never serves. -/
def Event.Cacheable (server : Ipmi.Server) (bridge : Bridge count) : Event count → Prop
  | .executeReply position (some reply) => ∀ execution,
      bridge.executions[position]? = some execution → reply.cc = ipmbIpmiInvalidCmd →
      reply.payload.length ≤ ipmbMaxDataSize →
      server.Unhandled execution.request.netFn execution.request.cmd
  | _ => True

/-- The host would answer every blocked command as unknown, whatever its unit and data. -/
def Bridge.FilterSound (server : Ipmi.Server) (bridge : Bridge count) : Prop :=
  ∀ netFn cmd, bridge.isBlocked netFn cmd = true → ∀ lun data,
    (Ipmi.executionEntry server netFn lun cmd data).cc = Ipmi.ccInvalidCommand

/-- Only requests are handed to the host. -/
def Bridge.RequestsHanded (bridge : Bridge count) : Prop :=
  ∀ execution ∈ bridge.executions, execution.request.netFn.toNat % 2 = 0

section Filter

variable {server : Ipmi.Server} {bridge after : Bridge count} {event : Event count}

theorem heardRequest_spec {bytes : List UInt8} {message : IpmbRequest}
    (heard : heardRequest bytes = some message) :
    ∃ frame r, Bridge.receiveFrame bytes = some (frame, r) ∧ ipmbIsResponse frame = false ∧
      IpmbRequest.i2cToIpmbConstruct frame r = some message := by
  unfold heardRequest at heard
  obtain ⟨⟨frame, r⟩, received, heard⟩ := Option.bind_eq_some_iff.mp heard
  split_ifs at heard with kind
  exact ⟨frame, r, received, Bool.not_eq_true _ ▸ kind, heard⟩

theorem heardRequest_even {bytes : List UInt8} {message : IpmbRequest}
    (heard : heardRequest bytes = some message) : message.netFn.toNat % 2 = 0 := by
  obtain ⟨frame, r, _, kind, decoded⟩ := heardRequest_spec heard
  have odd := mt (ipmbIsResponse_iff frame).mpr (by rw [kind]; exact Bool.false_ne_true)
  rw [(IpmbRequest.fields_of_decoded decoded).1]
  omega

/-- The net function of a request is found again in its response. -/
theorem ipmbReqNetFnFromRespNetFn_respNetFn {netFn : UInt8} (even : netFn.toNat % 2 = 0) :
    ipmbReqNetFnFromRespNetFn (ipmbRespNetFn netFn) = netFn := by
  have all : ∀ byte : Fin 256, byte.val % 2 = 0 → ((byte.val ||| 1) &&& 254) = byte.val := by
    decide +kernel
  apply UInt8.toNat.inj
  exact all ⟨netFn.toNat, netFn.toNat_lt⟩ even

theorem Bridge.RequestsHanded.step (handed : bridge.RequestsHanded)
    (taken : bridge.step event = some after) : after.RequestsHanded := by
  have hosted := step_hosting taken
  generalize hosting : after.hosting = result at hosted
  have same : after.executions = result.2 := congrArg Prod.snd hosting
  intro execution member
  rw [same] at member
  cases hosted with
  | kept => exact handed execution member
  | handed index bytes message heard =>
      rw [List.mem_append, List.mem_singleton] at member
      cases member with
      | inl older => exact handed execution older
      | inr newest =>
          rw [newest]
          exact heardRequest_even heard
  | answered => exact handed execution (List.mem_of_mem_eraseIdx member)
  | blocked => exact handed execution (List.mem_of_mem_eraseIdx member)

/-- A new entry keeps the filter sound exactly when the host never serves its command. -/
theorem filterSound_insert_iff {netFn cmd : UInt8} (sound : bridge.FilterSound server)
    (channel : server.channel = .sessionless)
    (inserted : after.unhandledCommands = bridge.unhandledCommands.insert (netFn, cmd)) :
    after.FilterSound server ↔ server.Unhandled netFn cmd := by
  have blocked (other code : UInt8) : after.isBlocked other code = true ↔
      (other, code) = (netFn, cmd) ∨ bridge.isBlocked other code = true := by
    unfold Bridge.isBlocked
    rw [inserted, List.contains_iff_mem, List.contains_iff_mem, List.mem_insert_iff]
  rw [Ipmi.unhandled_iff channel]
  constructor
  · intro kept
    exact kept netFn cmd ((blocked _ _).mpr (.inl rfl))
  · intro refused other code entered
    cases (blocked other code).mp entered with
    | inl newest =>
        cases newest
        exact refused
    | inr older => exact sound other code older

/-- A step keeps the filter sound exactly when the reply that enters it belongs to a command that the
host never serves. -/
theorem step_filterSound_iff (handed : bridge.RequestsHanded) (sound : bridge.FilterSound server)
    (hosted : event.Hosted server bridge) (taken : bridge.step event = some after) :
    after.FilterSound server ↔ event.Cacheable server bridge := by
  have effect := step_hosting taken
  generalize hosting : after.hosting = result at effect
  have same : after.unhandledCommands = result.1 := congrArg Prod.fst hosting
  have kept (unchanged : result.1 = bridge.unhandledCommands) : after.FilterSound server := by
    intro netFn cmd blocked
    unfold Bridge.isBlocked at blocked
    rw [same, unchanged] at blocked
    exact sound netFn cmd blocked
  cases effect with
  | kept event other =>
      refine ⟨fun _ => ?_, fun _ => kept rfl⟩
      cases event with
      | executeReply position reply => exact absurd rfl (other position reply)
      | _ => trivial
  | handed => exact ⟨fun _ => trivial, fun _ => kept rfl⟩
  | answered position execution reply present known =>
      refine ⟨fun _ => ?_, fun _ => kept rfl⟩
      cases reply with
      | none => trivial
      | some reply =>
          intro other present' unknown fits
          have answer := hosted other present'
          have odd : reply.netfn &&& ipmbNetFnResponseMask ≠ 0 := by
            rw [answer]
            exact ipmbRespNetFn_masked other.request.netFn
          exact absurd ⟨unknown, fits, odd⟩ (known reply rfl)
  | blocked position execution reply present unknown =>
      have answer := hosted execution present
      have even := handed execution (List.mem_of_getElem? present)
      have key : (ipmbReqNetFnFromRespNetFn reply.netfn, reply.cmd) =
          (execution.request.netFn, execution.request.cmd) := by
        rw [answer]
        exact congrArg (·, execution.request.cmd) (ipmbReqNetFnFromRespNetFn_respNetFn even)
      rw [key] at same
      have invalid := unknown.1
      rw [answer] at invalid
      rw [filterSound_insert_iff sound (Ipmi.sessionless_of_invalid invalid) same]
      constructor
      · intro unhandled other present' _ _
        cases present.symm.trans present'
        exact unhandled
      · intro cacheable
        exact cacheable execution present unknown.1 unknown.2.1

theorem reach_filterSound {channels : Fin count → IpmbChannel}
    (reach : Reach Bridge.step
      (fun bridge event => event.Hosted server bridge ∧ event.Cacheable server bridge)
      (.initial channels) bridge) : bridge.RequestsHanded ∧ bridge.FilterSound server := by
  refine reach.invariant (fun bridge => bridge.RequestsHanded ∧ bridge.FilterSound server) ?_ ?_
  · constructor
    · intro execution member
      cases member
    · intro netFn cmd blocked
      cases blocked
  · intro before event next kept own taken
    exact ⟨kept.1.step taken, (step_filterSound_iff kept.1 kept.2 own.1 taken).mpr own.2⟩

/-- In every run whose replies are those of the host and enter the filter only for commands that the
host never serves, each request is answered with the completion code of the host, if its payload fits
in a frame. From such a state a step keeps the filter sound exactly when it meets the condition. -/
theorem filter_transparent (server : Ipmi.Server) (channels : Fin count → IpmbChannel)
    (reach : Reach Bridge.step
      (fun bridge event => event.Hosted server bridge ∧ event.Cacheable server bridge)
      (.initial channels) bridge) :
    (∀ index bytes message later buffer, heardRequest bytes = some message →
        (bridge.isBlocked message.netFn message.cmd = false →
          (answerOf server message).payload.length ≤ ipmbMaxDataSize ∨
            (answerOf server message).cc = ipmbIpmiCmdRespNotProvided) →
        bridge.Emits index bytes later (answerOf server message).cc
          (answerOf server message).payload buffer →
        byteAt buffer 7 = (answerOf server message).cc) ∧
      ∀ event after, event.Hosted server bridge → bridge.step event = some after →
        (after.FilterSound server ↔ event.Cacheable server bridge) := by
  obtain ⟨handed, sound⟩ := reach_filterSound reach
  refine ⟨?_, fun event after hosted taken => step_filterSound_iff handed sound hosted taken⟩
  intro index bytes message later buffer heard fits emitted
  obtain ⟨frame, r, received, kind, decoded⟩ := heardRequest_spec heard
  obtain ⟨netFn, _, _, _, _, cmd⟩ := IpmbRequest.fields_of_decoded decoded
  rw [netFn, cmd] at fits
  rw [emits_eq received kind decoded emitted]
  change (bridge.responseTo index frame later _ _).completionCode = _
  cases status : bridge.isBlocked (ipmbNetFnGet (byteAt frame 1)) (byteAt frame 5) with
  | true =>
      rw [responseTo_blocked bridge later _ _ status]
      rw [← netFn, ← cmd] at status
      exact (sound message.netFn message.cmd status message.rsLun message.data).symm
  | false =>
      rw [responseTo_free status]
      dsimp only
      split_ifs with oversize
      · cases fits status with
        | inl short => exact absurd short (Nat.not_le_of_lt oversize)
        | inr substitute => exact substitute.symm
      · rfl

end Filter

section Group

/-- The host has one handler, which serves Get VSO Capabilities of the VSO group. -/
abbrev vsoServer : Ipmi.Server where
  handlerMap := fun _ => none
  groupHandlerMap := fun key =>
    if key = Ipmi.makeCmdKey 0x03 0x00 then
      some ⟨.user, fun request =>
        if request.payload = [] then ⟨Ipmi.ccSuccess, Vita4611.getShmcVsoCaps⟩
        else Ipmi.errorResponse Ipmi.ccReqDataLenInvalid⟩
    else none
  oemHandlerMap := fun _ => none
  filterList := []
  channel := .sessionless

theorem vsoServer_unhandled : vsoServer.Unhandled 0x06 0x99 where
  group := by decide
  oem := by decide
  refused := by
    intro chosen lun data found
    cases found

theorem filteredBridge_transparent :
    Reach Bridge.step
      (fun bridge event => event.Hosted vsoServer bridge ∧ event.Cacheable vsoServer bridge)
      loneBridge filteredBridge := by
  have ran : run Bridge.step loneBridge filterCommand = some filteredBridge :=
    (Option.some_get _).symm
  rw [run_cons, Option.bind_eq_some_iff] at ran
  obtain ⟨received, taken, ran⟩ := ran
  have waits : received.executions[0]? = some ⟨0, unknownRequest 1⟩ := by
    rw [← Option.some.inj taken]
    decide +kernel
  rw [run_cons, Option.bind_eq_some_iff] at ran
  obtain ⟨answered, taken', ran⟩ := ran
  rw [← Option.some.inj ran]
  apply Reach.next (Reach.next .start ⟨trivial, trivial⟩ taken) _ taken'
  constructor
  · intro execution present
    rw [waits] at present
    cases present
    decide
  · intro execution present _ _
    rw [waits] at present
    cases present
    exact vsoServer_unhandled

/-- The command that is blocked is one that the host does not serve. -/
theorem filter_transparent_plain :
    ∃ buffer, filteredBridge.Emits 0 (unknownCommand 1) filteredBridge 0xc1 [] buffer ∧
      byteAt buffer 7 = (answerOf vsoServer (unknownRequest 1)).cc := by
  have written : (⟨0, none, [0x08, 0x82, 0x1c, 0x62, 0x20, 0x08, 0x99, 0xc1, 0x7e]⟩ : Sent 1) ∈
      (filteredBridge.processI2cEvent 0 (some (unknownCommand 1))).sent.drop
        filteredBridge.sent.length := by decide +kernel
  have heard : heardRequest (unknownCommand 1) = some (unknownRequest 1) := by decide +kernel
  refine ⟨_, .filtered written, ?_⟩
  exact (filter_transparent vsoServer _ filteredBridge_transparent).1 0 (unknownCommand 1)
    (unknownRequest 1) filteredBridge _ heard (fun _ => .inl (by decide)) (.filtered written)

/-- A requester at `0x82` sends command zero of the given group. -/
abbrev groupCommand (group : UInt8) : List UInt8 :=
  [0x08, 0x20, 0xb0, 0x30, 0x82, 0x08, 0x00, group,
    ipmbChecksumCompute [0x82, 0x08, 0x00, group] 4]

abbrev groupRequest (group : UInt8) : IpmbRequest where
  address := 0
  netFn := 0x2c
  rsLun := 0
  rqSA := 0x82
  seq := 2
  rqLun := 0
  cmd := 0x00
  data := [group]
  timer := false

/-- The host answers the PICMG group's command zero, which it does not know. -/
abbrev filterGroup : List (Event 1) :=
  [.i2cEvent (Fin.last 0) (some (groupCommand 0x00)),
    .executeReply 0 (some (answerOf vsoServer (groupRequest 0x00)))]

/-- The bridge that blocks command zero of all groups. -/
def groupBridge : Bridge 1 :=
  (run Bridge.step loneBridge filterGroup).get (by decide +kernel)

/-- Get VSO Capabilities, which the host serves, is then answered as unknown. -/
theorem addFilter_blocks_group :
    run Bridge.step loneBridge filterGroup = some groupBridge ∧
      heardRequest (groupCommand 0x00) = some (groupRequest 0x00) ∧
      heardRequest (groupCommand 0x03) = some (groupRequest 0x03) ∧
      (answerOf vsoServer (groupRequest 0x00)).cc = 0xc1 ∧
      (answerOf vsoServer (groupRequest 0x03)).cc = 0x00 ∧
      ∃ buffer, groupBridge.Emits 0 (groupCommand 0x03) groupBridge
          (answerOf vsoServer (groupRequest 0x03)).cc
          (answerOf vsoServer (groupRequest 0x03)).payload buffer ∧
        byteAt buffer 7 = 0xc1 := by
  have written : (⟨0, none, [0x08, 0x82, 0xb4, 0xca, 0x20, 0x08, 0x00, 0xc1, 0x17]⟩ : Sent 1) ∈
      (groupBridge.processI2cEvent 0 (some (groupCommand 0x03))).sent.drop
        groupBridge.sent.length := by decide +kernel
  exact ⟨(Option.some_get _).symm, by decide +kernel, by decide +kernel, by decide +kernel,
    by decide +kernel, _, .filtered written, by decide⟩

end Group

end Chassis.Ipmb
