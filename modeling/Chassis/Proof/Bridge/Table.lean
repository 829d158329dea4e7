import Chassis.Construction.Bridge.Channel
import Mathlib.Data.Finset.Card

namespace Chassis.Ipmb

variable {count : Nat}

/-- The abstract table keeps what the calls of the bridge share and forgets the rest. -/
structure Table (count : Nat) where
  channelIdx : Fin count → UInt8
  slots : Fin count → Fin ipmbMaxOutstandingRequestsCount → Option Nat
  remote : Fin count → UInt8
  requests : Nat → IpmbRequest
  calls : Nat → Option (Call count)
  nextCall : Nat
  frames : List (Sent count)

/-- Only the frames of calls appear in the table. -/
def Bridge.table (bridge : Bridge count) : Table count where
  channelIdx index := (bridge.channels index).channelIdx
  slots index := (bridge.channels index).outstandingRequests
  remote index := (bridge.channels index).ipmbRqSlaveAddress
  requests := bridge.heap
  calls := bridge.calls
  nextCall := bridge.nextCall
  frames := bridge.sent.filter fun frame => frame.call.isSome

/-- The bare request is what its frame carries, without the marks of the channel. -/
def IpmbRequest.bare (request : IpmbRequest) : IpmbRequest :=
  { request with state := .valid, matchedResponse := none }

namespace Table

variable (table : Table count)

/-- These frames were written for one call. -/
def framesOf (call : Nat) : List (Sent count) :=
  table.frames.filter fun frame => frame.call == some call

def getChannel (reqChannel : UInt8) : Option (Fin count) :=
  (List.finRange count).find? fun index => table.channelIdx index == reqChannel

def setSlot (index : Fin count) (seq : UInt8) (owner : Option Nat) : Table count :=
  { table with
    slots := Function.update table.slots index
      (Function.update (table.slots index) (slotOf seq) owner) }

def setRequest (call : Nat) (request : IpmbRequest) : Table count :=
  { table with requests := Function.update table.requests call request }

def setCall (call : Nat) (record : Call count) : Table count :=
  { table with calls := Function.update table.calls call (some record) }

/-- The call writes its frame once more. -/
def write (call : Nat) (record : Call count) (attempt i2cRetryCnt : Nat) : Table count :=
  { table.setCall call { record with status := .suspended (.writing attempt i2cRetryCnt) } with
    frames := table.frames ++ [⟨record.channel, some call, record.buffer⟩] }

/-- Every address but `0x40` replaces the remote address of the channel. -/
def select (index : Fin count) (addr : UInt8) : Table count :=
  { table with
    remote := Function.update table.remote index
      (if addr = 0x40 then table.remote index else addr) }

/-- A call without a slot is recorded under the next identifier. -/
def reject (arguments : SendRequest) (index : Fin count) : Table count :=
  { (table.select index arguments.addr).setCall table.nextCall
      ⟨arguments, index, [], .returned (.status .busy)⟩ with nextCall := table.nextCall + 1 }

/-- The request of a new call names the remote address of its channel. -/
def request (arguments : SendRequest) (index : Fin count) (seq rqSA : UInt8) : IpmbRequest where
  address := (table.select index arguments.addr).remote index
  netFn := arguments.netfn
  rsLun := ipmbRsLun
  rqSA := rqSA
  seq := seq
  rqLun := arguments.lun
  cmd := arguments.cmd
  data := arguments.dataReceived
  state := .valid

/-- A new call enters its request in a free slot. -/
def enter (arguments : SendRequest) (index : Fin count) (seq rqSA : UInt8) : Table count :=
  { ((table.select index arguments.addr).setRequest table.nextCall
      (table.request arguments index seq rqSA)).setSlot index seq (some table.nextCall) with
    nextCall := table.nextCall + 1 }

/-- The request leaves its slot. -/
def release (call : Nat) (record : Call count) : Table count :=
  (table.setRequest call { table.requests call with state := .invalid }).setSlot record.channel
    (table.requests call).seq none

/-- A matched request keeps the response for its coroutine. -/
def keep (call : Nat) (response : IpmbResponse) : Table count :=
  table.setRequest call
    { table.requests call with state := .matched, matchedResponse := some response }

variable {table} in
theorem setCall_eq_some {call other : Nat} {record found : Call count} :
    (table.setCall call record).calls other = some found ↔
      other = call ∧ found = record ∨ other ≠ call ∧ table.calls other = some found := by
  unfold setCall
  by_cases same : other = call
  · simp only [same, Function.update_self, Option.some.injEq, true_and, ne_eq, not_true_eq_false,
      false_and, or_false]
    exact eq_comm
  · simp only [same, ne_eq, not_false_eq_true, Function.update_of_ne, false_and, true_and, false_or]

variable {table} in
theorem setSlot_apply (index other : Fin count) (seq : UInt8) (owner : Option Nat)
    (slot : Fin ipmbMaxOutstandingRequestsCount) :
    (table.setSlot index seq owner).slots other slot =
      if other = index ∧ slot = slotOf seq then owner else table.slots other slot := by
  unfold setSlot
  by_cases same : other = index
  · subst same
    simp only [Function.update_self, true_and, Function.update_apply]
  · simp only [same, false_and, if_false, ne_eq, not_false_eq_true, Function.update_of_ne]

@[simp] theorem setCall_slots (call : Nat) (record : Call count) :
    (table.setCall call record).slots = table.slots := rfl

@[simp] theorem setCall_requests (call : Nat) (record : Call count) :
    (table.setCall call record).requests = table.requests := rfl

@[simp] theorem setRequest_slots (call : Nat) (request : IpmbRequest) :
    (table.setRequest call request).slots = table.slots := rfl

section Entry

variable (arguments : SendRequest) (index : Fin count) (seq rqSA : UInt8)

theorem enter_slots (other : Fin count) (slot : Fin ipmbMaxOutstandingRequestsCount) :
    (table.enter arguments index seq rqSA).slots other slot =
      if other = index ∧ slot = slotOf seq then some table.nextCall else table.slots other slot :=
  setSlot_apply _ _ _ _ _

theorem enter_new : (table.enter arguments index seq rqSA).requests table.nextCall =
    table.request arguments index seq rqSA := Function.update_self _ _ _

theorem enter_old {call : Nat} (older : call ≠ table.nextCall) :
    (table.enter arguments index seq rqSA).requests call = table.requests call :=
  Function.update_of_ne older _ _

end Entry

section Mark

variable (call : Nat) (record : Call count) (response : IpmbResponse)

theorem keep_apply (other : Nat) : (table.keep call response).requests other =
    if other = call then
      { table.requests call with state := .matched, matchedResponse := some response }
    else table.requests other := Function.update_apply _ _ _ _

theorem release_apply (other : Nat) : (table.release call record).requests other =
    if other = call then { table.requests call with state := .invalid }
    else table.requests other := Function.update_apply _ _ _ _

theorem release_slots (other : Fin count) (slot : Fin ipmbMaxOutstandingRequestsCount) :
    (table.release call record).slots other slot =
      if other = record.channel ∧ slot = slotOf (table.requests call).seq then none
      else table.slots other slot := setSlot_apply _ _ _ _ _

/-- A response marks its request. -/
theorem keep_bare (other : Nat) :
    ((table.keep call response).requests other).bare = (table.requests other).bare := by
  rw [keep_apply]
  split_ifs with same
  · rw [same]
    rfl
  · rfl

/-- A release marks its request. -/
theorem release_bare (other : Nat) :
    ((table.release call record).requests other).bare = (table.requests other).bare := by
  rw [release_apply]
  split_ifs with same
  · rw [same]
    rfl
  · rfl

theorem keep_seq (other : Nat) :
    ((table.keep call response).requests other).seq = (table.requests other).seq :=
  show (IpmbRequest.bare _).seq = (IpmbRequest.bare _).seq by rw [keep_bare]

theorem release_seq (other : Nat) :
    ((table.release call record).requests other).seq = (table.requests other).seq :=
  show (IpmbRequest.bare _).seq = (IpmbRequest.bare _).seq by rw [release_bare]

theorem keep_matchedResponse :
    ((table.keep call response).requests call).matchedResponse = some response := by
  rw [keep_apply, if_pos rfl]

theorem keep_matchedResponse_of_ne {other : Nat} (distinct : other ≠ call) :
    ((table.keep call response).requests other).matchedResponse =
      (table.requests other).matchedResponse := by
  rw [keep_apply, if_neg distinct]

theorem release_matchedResponse (other : Nat) :
    ((table.release call record).requests other).matchedResponse =
      (table.requests other).matchedResponse := by
  rw [release_apply]
  split_ifs with same
  · rw [same]
  · rfl

theorem write_framesOf (attempt i2cRetryCnt : Nat) :
    (table.write call record attempt i2cRetryCnt).framesOf call =
      table.framesOf call ++ [⟨record.channel, some call, record.buffer⟩] := by
  simp [framesOf, write]

theorem write_framesOf_of_ne {other : Nat} (distinct : other ≠ call) (attempt i2cRetryCnt : Nat) :
    (table.write call record attempt i2cRetryCnt).framesOf other = table.framesOf other := by
  simp [framesOf, write, distinct.symm]

end Mark

end Table

/-- A frame is heard as a response when it is valid and can be decoded. -/
def heardResponse (bytes : Option (List UInt8)) : Option IpmbResponse :=
  (bytes.bind Bridge.receiveFrame).bind fun received =>
    if ipmbIsResponse received.1 then IpmbResponse.i2cToIpmbConstruct received.1 received.2
    else none

/-- These are all the effects that an event of the bridge has on the table. -/
inductive Table.Step (table : Table count) : Event count → Table count → Prop where
  | idle (event : Event count) : Step table event table
  | reject (arguments : SendRequest) (index : Fin count)
      (served : table.getChannel arguments.reqChannel = some index)
      (full : ∀ slot, table.slots index slot ≠ none) :
      Step table (.sendRequest arguments) (table.reject arguments index)
  | strand (arguments : SendRequest) (index : Fin count) (seq rqSA : UInt8)
      (served : table.getChannel arguments.reqChannel = some index)
      (free : table.slots index (slotOf seq) = none) (bounded : seq.toNat < 64)
      (long : (table.request arguments index seq rqSA).ipmbToi2cConstruct = none) :
      Step table (.sendRequest arguments) ((table.enter arguments index seq rqSA).setCall
        table.nextCall ⟨arguments, index, [], .returned (.status .error)⟩)
  | accept (arguments : SendRequest) (index : Fin count) (seq rqSA : UInt8) (buffer : List UInt8)
      (served : table.getChannel arguments.reqChannel = some index)
      (free : table.slots index (slotOf seq) = none) (bounded : seq.toNat < 64)
      (encoded : (table.request arguments index seq rqSA).ipmbToi2cConstruct = some buffer) :
      Step table (.sendRequest arguments) ((table.enter arguments index seq rqSA).write
        table.nextCall ⟨arguments, index, buffer, .returned (.status .busy)⟩ 0 0)
  | write (event : Event count) (call : Nat) (record : Call count) (suspension : Suspension)
      (attempt i2cRetryCnt : Nat) (present : table.calls call = some record)
      (suspended : record.status = .suspended suspension) :
      Step table event (table.write call record attempt i2cRetryCnt)
  | wait (event : Event count) (call : Nat) (record : Call count) (before after : Suspension)
      (present : table.calls call = some record) (suspended : record.status = .suspended before) :
      Step table event (table.setCall call { record with status := .suspended after })
  | finish (event : Event count) (call : Nat) (record : Call count) (suspension : Suspension)
      (outcome : RequestOutcome) (present : table.calls call = some record)
      (suspended : record.status = .suspended suspension)
      (settled : outcome = .status .error ∨ outcome = .status .timeout ∨
        ∃ response, outcome = .matched response ∧
          (table.requests call).matchedResponse = some response) :
      Step table event
        ((table.release call record).setCall call { record with status := .returned outcome })
  | abort (event : Event count) (call : Nat) (record : Call count)
      (matched : (table.requests call).state = .matched)
      (absent : (table.requests call).matchedResponse = none) :
      Step table event (table.release call record)
  | hear (index : Fin count) (bytes : Option (List UInt8)) (response : IpmbResponse) (call : Nat)
      (heard : heardResponse bytes = some response)
      (held : table.slots index (slotOf response.seq) = some call)
      (agrees : Bridge.matchesRequest (table.requests call) response = true) :
      Step table (.i2cEvent index bytes) (table.keep call response)
  | wake (index : Fin count) (bytes : Option (List UInt8)) (response : IpmbResponse) (call : Nat)
      (record : Call count) (attempt : Nat) (heard : heardResponse bytes = some response)
      (held : table.slots index (slotOf response.seq) = some call)
      (agrees : Bridge.matchesRequest (table.requests call) response = true)
      (present : table.calls call = some record)
      (waiting : record.status = .suspended (.waiting attempt)) :
      Step table (.i2cEvent index bytes) ((table.keep call response).setCall call
        { record with status := .suspended (.resuming attempt .aborted) })

/-- The record that a step leaves for a call tells what happened to the call. -/
inductive Table.Fate (table : Table count) (event : Event count) (next : Table count)
    (call : Nat) : Call count → Prop where
  | untouched {record : Call count} (present : table.calls call = some record)
      (bare : (next.requests call).bare = (table.requests call).bare)
      (response : (next.requests call).matchedResponse = (table.requests call).matchedResponse)
      (frames : next.framesOf call = table.framesOf call) : Fate table event next call record
  | rejected (arguments : SendRequest) (index : Fin count) (new : call = table.nextCall)
      (frames : next.framesOf call = table.framesOf call) :
      Fate table event next call ⟨arguments, index, [], .returned (.status .busy)⟩
  | stranded {arguments : SendRequest} {index : Fin count} {seq rqSA : UInt8}
      (new : call = table.nextCall) (asked : event = .sendRequest arguments)
      (served : table.getChannel arguments.reqChannel = some index)
      (free : table.slots index (slotOf seq) = none)
      (long : (table.request arguments index seq rqSA).ipmbToi2cConstruct = none)
      (frames : next.framesOf call = table.framesOf call) :
      Fate table event next call ⟨arguments, index, [], .returned (.status .error)⟩
  | admitted {arguments : SendRequest} {index : Fin count} {seq rqSA : UInt8}
      {buffer : List UInt8} (new : call = table.nextCall) (asked : event = .sendRequest arguments)
      (served : table.getChannel arguments.reqChannel = some index)
      (free : table.slots index (slotOf seq) = none) (bounded : seq.toNat < 64)
      (encoded : (table.request arguments index seq rqSA).ipmbToi2cConstruct = some buffer)
      (request : next.requests call = table.request arguments index seq rqSA)
      (frames : next.framesOf call = table.framesOf call ++ [⟨index, some call, buffer⟩]) :
      Fate table event next call ⟨arguments, index, buffer, .suspended (.writing 0 0)⟩
  | moved {record : Call count} {before after : Suspension}
      (present : table.calls call = some record) (suspended : record.status = .suspended before)
      (bare : (next.requests call).bare = (table.requests call).bare)
      (response : (next.requests call).matchedResponse = (table.requests call).matchedResponse)
      (frames : next.framesOf call = table.framesOf call ∨ next.framesOf call =
        table.framesOf call ++ [⟨record.channel, some call, record.buffer⟩]) :
      Fate table event next call { record with status := .suspended after }
  | answered {index : Fin count} {bytes : Option (List UInt8)} {response : IpmbResponse}
      {record : Call count} {status : CallStatus} (arrived : event = .i2cEvent index bytes)
      (heard : heardResponse bytes = some response)
      (held : table.slots index (slotOf response.seq) = some call)
      (agrees : Bridge.matchesRequest (table.requests call) response = true)
      (present : table.calls call = some record)
      (woken : status = record.status ∨
        ∃ before after, record.status = .suspended before ∧ status = .suspended after)
      (bare : (next.requests call).bare = (table.requests call).bare)
      (kept : (next.requests call).matchedResponse = some response)
      (frames : next.framesOf call = table.framesOf call) :
      Fate table event next call { record with status := status }
  | finished {record : Call count} {suspension : Suspension} {outcome : RequestOutcome}
      (present : table.calls call = some record)
      (suspended : record.status = .suspended suspension)
      (settled : outcome = .status .error ∨ outcome = .status .timeout ∨
        ∃ response, outcome = .matched response ∧
          (table.requests call).matchedResponse = some response)
      (bare : (next.requests call).bare = (table.requests call).bare)
      (frames : next.framesOf call = table.framesOf call) :
      Fate table event next call { record with status := .returned outcome }

/-- Every record of the next table has one of these fates. -/
theorem Table.Step.fate {table next : Table count} {event : Event count}
    (step : table.Step event next) {call : Nat} {record : Call count}
    (present : next.calls call = some record) : table.Fate event next call record := by
  cases step with
  | idle => exact .untouched present rfl rfl rfl
  | reject arguments index served full =>
      rcases setCall_eq_some.mp present with ⟨rfl, rfl⟩ | ⟨_, present⟩
      · exact .rejected arguments index rfl rfl
      · exact .untouched present rfl rfl rfl
  | strand arguments index seq rqSA served free bounded long =>
      rcases setCall_eq_some.mp present with ⟨rfl, rfl⟩ | ⟨older, present⟩
      · exact .stranded rfl rfl served free long rfl
      · have kept := enter_old table arguments index seq rqSA older
        exact .untouched present (congrArg IpmbRequest.bare kept)
          (congrArg IpmbRequest.matchedResponse kept) rfl
  | accept arguments index seq rqSA buffer served free bounded encoded =>
      rcases setCall_eq_some.mp present with ⟨rfl, rfl⟩ | ⟨older, present⟩
      · exact .admitted rfl rfl served free bounded encoded (enter_new table arguments index seq rqSA)
          (write_framesOf _ _ _ _ _)
      · have kept := enter_old table arguments index seq rqSA older
        exact .untouched present (congrArg IpmbRequest.bare kept)
          (congrArg IpmbRequest.matchedResponse kept) (write_framesOf_of_ne _ _ _ older _ _)
  | write _ moved record suspension attempt i2cRetryCnt recorded suspended =>
      rcases setCall_eq_some.mp present with ⟨rfl, rfl⟩ | ⟨distinct, present⟩
      · exact .moved recorded suspended rfl rfl (.inr (write_framesOf _ _ _ _ _))
      · exact .untouched present rfl rfl (write_framesOf_of_ne _ _ _ distinct _ _)
  | wait _ moved record before after recorded suspended =>
      rcases setCall_eq_some.mp present with ⟨rfl, rfl⟩ | ⟨_, present⟩
      · exact .moved recorded suspended rfl rfl (.inl rfl)
      · exact .untouched present rfl rfl rfl
  | finish _ moved record suspension outcome recorded suspended settled =>
      rcases setCall_eq_some.mp present with ⟨rfl, rfl⟩ | ⟨_, present⟩
      · exact .finished recorded suspended settled (release_bare _ _ record _) rfl
      · exact .untouched present (release_bare _ _ record _) (release_matchedResponse _ _ record _)
          rfl
  | abort =>
      exact .untouched present (release_bare _ _ _ _) (release_matchedResponse _ _ _ _) rfl
  | hear index bytes response heard' heard held agrees =>
      by_cases same : call = heard'
      · subst same
        exact .answered rfl heard held agrees present (.inl rfl) (keep_bare _ _ _ _)
          (keep_matchedResponse _ _ response) rfl
      · exact .untouched present (keep_bare _ _ _ _) (keep_matchedResponse_of_ne _ _ _ same) rfl
  | wake index bytes response woken record attempt heard held agrees recorded waiting =>
      rcases setCall_eq_some.mp present with ⟨rfl, rfl⟩ | ⟨distinct, present⟩
      · exact .answered rfl heard held agrees recorded (.inr ⟨_, _, waiting, rfl⟩)
          (keep_bare _ _ response _) (keep_matchedResponse _ _ response) rfl
      · exact .untouched present (keep_bare _ _ response _)
          (keep_matchedResponse_of_ne _ _ response distinct) rfl

theorem Table.Step.nextCall_le {table next : Table count} {event : Event count}
    (step : table.Step event next) : table.nextCall ≤ next.nextCall := by
  cases step with
  | reject | strand | accept => exact Nat.le_succ _
  | idle | write | wait | finish | abort | hear | wake => exact Nat.le_refl _

section Effects

variable (bridge : Bridge count)

theorem setChannel_table {index : Fin count} {channel : IpmbChannel}
    (same : channel.channelIdx = (bridge.channels index).channelIdx) :
    (bridge.setChannel index channel).table =
      { bridge.table with
        slots := Function.update bridge.table.slots index channel.outstandingRequests
        remote := Function.update bridge.table.remote index channel.ipmbRqSlaveAddress } := by
  unfold Bridge.table Bridge.setChannel
  congr 1
  · have numbered := Function.comp_update IpmbChannel.channelIdx bridge.channels index channel
    rw [same] at numbered
    exact numbered.trans (Function.update_eq_self index _)
  · exact Function.comp_update IpmbChannel.outstandingRequests bridge.channels index channel
  · exact Function.comp_update IpmbChannel.ipmbRqSlaveAddress bridge.channels index channel

@[simp] theorem setSlot_table (index : Fin count) (seq : UInt8) (owner : Option Nat) :
    (bridge.setSlot index seq owner).table = bridge.table.setSlot index seq owner := by
  unfold Bridge.setSlot
  rw [setChannel_table]
  · exact congrArg (fun remote => { bridge.table.setSlot index seq owner with remote := remote })
      (Function.update_eq_self index bridge.table.remote)
  · rfl

@[simp] theorem setRequest_table (call : Nat) (request : IpmbRequest) :
    (bridge.setRequest call request).table = bridge.table.setRequest call request := rfl

@[simp] theorem setCall_table (call : Nat) (record : Call count) :
    (bridge.setCall call record).table = bridge.table.setCall call record := rfl

theorem makeRequestInvalid_table (call : Nat) (record : Call count) :
    (bridge.makeRequestInvalid record.channel call).table = bridge.table.release call record := by
  unfold Bridge.makeRequestInvalid
  rw [setSlot_table]
  rfl

theorem startWrite_table (call : Nat) (record : Call count) (attempt i2cRetryCnt : Nat) :
    (bridge.startWrite call record attempt i2cRetryCnt).table =
      bridge.table.write call record attempt i2cRetryCnt := by
  unfold Bridge.startWrite Bridge.table Bridge.setCall Table.write
  simp only [List.filter_append]
  rfl

theorem updateRqSlaveAddress_table (index : Fin count) (addr : UInt8) :
    (bridge.updateRqSlaveAddress index addr).table =
      { bridge.table with remote := Function.update bridge.table.remote index addr } := by
  unfold Bridge.updateRqSlaveAddress
  rw [setChannel_table]
  · exact congrArg (fun slots => { bridge.table with
      slots := slots, remote := Function.update bridge.table.remote index addr })
      (Function.update_eq_self index bridge.table.slots)
  · rfl

/-- The channel's own comparison with the old address changes nothing. -/
theorem selectSlave_table (index : Fin count) (addr : UInt8) :
    (bridge.selectSlave index addr).table = bridge.table.select index addr := by
  unfold Bridge.selectSlave Table.select
  by_cases own : addr = 0x40
  · simp only [own, ne_eq, not_true_eq_false, and_false, if_false, if_true,
      Function.update_eq_self]
  · by_cases same : (bridge.channels index).ipmbRqSlaveAddress = addr
    · have remote : Function.update bridge.table.remote index addr = bridge.table.remote :=
        same ▸ Function.update_eq_self index bridge.table.remote
      simp only [own, same, ne_eq, not_true_eq_false, false_and, if_false, remote]
    · simp only [own, same, ne_eq, not_false_eq_true, and_self, if_true, if_false,
        updateRqSlaveAddress_table]

theorem ipmbSendI2cFrame_table (index : Fin count) (buffer : List UInt8)
    (retriesAttempted : Nat) :
    (bridge.ipmbSendI2cFrame index buffer retriesAttempted).table = bridge.table := by
  simp [Bridge.ipmbSendI2cFrame, Bridge.table]

theorem sendResponse_table (index : Fin count) (response : IpmbResponse) :
    (bridge.sendResponse index response).table = bridge.table := by
  unfold Bridge.sendResponse
  split
  · exact ipmbSendI2cFrame_table bridge _ _ _
  · rfl

theorem outgoingDone_table (position : Nat) (frame : Outgoing count) (ec : Bool) :
    (bridge.outgoingDone position frame ec).table = bridge.table := by
  unfold Bridge.outgoingDone
  split_ifs
  · exact ipmbSendI2cFrame_table _ _ _ _
  · rfl

theorem executeReply_table (position : Nat) (execution : Execution count)
    (reply : Option ExecuteReply) :
    (bridge.executeReply position execution reply).table = bridge.table := by
  unfold Bridge.executeReply
  rcases reply with _ | reply
  · rfl
  · dsimp only
    split_ifs
    · exact sendResponse_table _ _ _
    · rfl
    · exact sendResponse_table _ _ _
    · exact sendResponse_table _ _ _

theorem requestReceived_table (index : Fin count) (frame : List UInt8) (r : Nat) :
    (bridge.requestReceived index frame r).table = bridge.table := by
  unfold Bridge.requestReceived
  dsimp only
  split_ifs
  · exact sendResponse_table _ _ _
  · split <;> rfl

theorem announce_table (index : Fin count) (frame : List UInt8) (r : Nat) :
    (bridge.announce index frame r).table = bridge.table := by
  unfold Bridge.announce
  split_ifs
  · split <;> rfl
  · rfl

theorem sendBroadcast_table (reqChannel netFn lun cmd : UInt8) (dataReceived : List UInt8) :
    (bridge.sendBroadcast reqChannel netFn lun cmd dataReceived).table = bridge.table := by
  unfold Bridge.sendBroadcast
  split
  · rfl
  · dsimp only
    split
    · exact ipmbSendI2cFrame_table bridge _ _ _
    · rfl

/-- The bridge's own address is not part of the table. -/
theorem updateBmcSlaveAddr_table (reqChannel busId slaveAddr : UInt8) (opened : Bool) :
    (bridge.updateBmcSlaveAddr reqChannel busId slaveAddr opened).table = bridge.table := by
  unfold Bridge.updateBmcSlaveAddr
  split
  · rfl
  · dsimp only
    split_ifs
    · rfl
    · rw [setChannel_table]
      · exact congrArg₂ (fun slots remote => { bridge.table with slots := slots, remote := remote })
          (Function.update_eq_self _ bridge.table.slots)
          (Function.update_eq_self _ bridge.table.remote)
      · rfl

end Effects

section Search

theorem slotOf_val (seq : UInt8) : (slotOf seq).val = seq.toNat % 64 := rfl

theorem next_toNat (seqNum : UInt8) :
    ((seqNum + 1) % UInt8.ofNat ipmbMaxOutstandingRequestsCount).toNat =
      (seqNum.toNat + 1) % 64 := by
  rw [UInt8.toNat_mod, UInt8.toNat_add]
  change (seqNum.toNat + 1) % 256 % 64 = _
  omega

variable {outstanding : Fin ipmbMaxOutstandingRequestsCount → Option Nat}

/-- The search returns a free slot. -/
theorem seqNumSearch_some {tries : Nat} {seqNum seq : UInt8}
    (found : (Bridge.seqNumSearch outstanding tries seqNum).2 = some seq) :
    outstanding (slotOf seq) = none ∧ seq.toNat < 64 := by
  induction tries generalizing seqNum with
  | zero => cases found
  | succ tries ih =>
      unfold Bridge.seqNumSearch at found
      dsimp only at found
      split_ifs at found with free
      · cases found
        refine ⟨free, ?_⟩
        rw [next_toNat]
        exact Nat.mod_lt _ (by decide)
      · exact ih found

/-- A failed search has looked at one slot in each try. -/
theorem seqNumSearch_none {tries : Nat} {seqNum : UInt8}
    (failed : (Bridge.seqNumSearch outstanding tries seqNum).2 = none) {offset : Nat}
    (tried : offset < tries) {slot : Fin ipmbMaxOutstandingRequestsCount}
    (place : slot.val = (seqNum.toNat + offset + 1) % 64) : outstanding slot ≠ none := by
  induction tries generalizing seqNum offset with
  | zero => omega
  | succ tries ih =>
      unfold Bridge.seqNumSearch at failed
      dsimp only at failed
      split_ifs at failed with free
      rcases offset with _ | offset
      · have first : slotOf ((seqNum + 1) % UInt8.ofNat ipmbMaxOutstandingRequestsCount) = slot :=
          Fin.ext (by rw [slotOf_val, next_toNat]; omega)
        rwa [first] at free
      · exact ih failed (Nat.lt_of_succ_lt_succ tried) (by rw [next_toNat]; omega)

/-- A failed search finds every slot taken. -/
theorem seqNumSearch_full {seqNum : UInt8}
    (failed : (Bridge.seqNumSearch outstanding ipmbMaxOutstandingRequestsCount seqNum).2 = none)
    (slot : Fin ipmbMaxOutstandingRequestsCount) : outstanding slot ≠ none := by
  have bounded : slot.val < 64 := slot.isLt
  refine seqNumSearch_none failed
    (show (slot.val + 63 + 64 * 4 - seqNum.toNat) % 64 < 64 from Nat.mod_lt _ (by decide)) ?_
  have := seqNum.toNat_lt
  omega

end Search

section Calls

variable (bridge : Bridge count)

theorem selectSlave_seqNum (index : Fin count) (addr : UInt8) :
    (bridge.selectSlave index addr).seqNum = bridge.seqNum := by
  unfold Bridge.selectSlave
  split_ifs <;> rfl

/-- A constructed request is entered before it is encoded. -/
theorem requestAdd_table (call : Nat) (request : IpmbRequest) (record : Call count) :
    ((bridge.setRequest call request).requestAdd call record).table =
      let valid := { request with state := .valid }
      let entered := (bridge.table.setRequest call valid).setSlot record.channel valid.seq (some call)
      match valid.ipmbToi2cConstruct with
      | none => entered.setCall call { record with status := .returned (.status .error) }
      | some buffer => entered.write call { record with buffer := buffer } 0 0 := by
  have constructed : (bridge.setRequest call request).heap call = request :=
    Function.update_self _ _ _
  have entered : ((bridge.setRequest call request).makeRequestValid record.channel call).table =
      (bridge.table.setRequest call { request with state := .valid }).setSlot record.channel
        request.seq (some call) := by
    unfold Bridge.makeRequestValid
    rw [constructed, setSlot_table, setRequest_table, setRequest_table]
    exact congrArg (fun requests => Table.setSlot { bridge.table with requests := requests }
      record.channel request.seq (some call)) (Function.update_idem _ _ _)
  have stored : ((bridge.setRequest call request).makeRequestValid record.channel call).heap call =
      { request with state := .valid } := by
    unfold Bridge.makeRequestValid
    rw [constructed]
    exact Function.update_self _ _ _
  unfold Bridge.requestAdd
  dsimp only
  rw [stored, ← entered]
  cases IpmbRequest.ipmbToi2cConstruct { request with state := .valid } with
  | none => rfl
  | some buffer => exact startWrite_table _ _ _ _ _

/-- The search of a new call starts from the shared counter. -/
def Bridge.nextSeq (bridge : Bridge count) (index : Fin count) : Option UInt8 :=
  (seqNumSearch (bridge.table.slots index) ipmbMaxOutstandingRequestsCount bridge.seqNum).2

/-- The requester address of a new request is the bridge's own. -/
def Bridge.requester (bridge : Bridge count) (arguments : SendRequest) (index : Fin count) :
    UInt8 :=
  ((bridge.selectSlave index arguments.addr).channels index).ipmbBmcSlaveAddress

/-- A call that found its channel is rejected, stranded or admitted. -/
theorem ipmbHandleRequest_table {arguments : SendRequest} {index : Fin count}
    (served : bridge.getChannel arguments.reqChannel = some index) :
    (bridge.ipmbHandleRequest arguments).table =
      match bridge.nextSeq index with
      | none => bridge.table.reject arguments index
      | some seq =>
          let rqSA := bridge.requester arguments index
          match (bridge.table.request arguments index seq rqSA).ipmbToi2cConstruct with
          | none => (bridge.table.enter arguments index seq rqSA).setCall bridge.nextCall
              ⟨arguments, index, [], .returned (.status .error)⟩
          | some buffer => (bridge.table.enter arguments index seq rqSA).write bridge.nextCall
              ⟨arguments, index, buffer, .returned (.status .busy)⟩ 0 0 := by
  have selected := selectSlave_table bridge index arguments.addr
  have slots : ((bridge.selectSlave index arguments.addr).channels index).outstandingRequests =
      bridge.table.slots index := congrFun (congrArg Table.slots selected) index
  have remote : ((bridge.selectSlave index arguments.addr).channels index).ipmbRqSlaveAddress =
      (bridge.table.select index arguments.addr).remote index :=
    congrFun (congrArg Table.remote selected) index
  have started (seqNum : UInt8) : Bridge.table { bridge.selectSlave index arguments.addr with
      seqNum := seqNum, nextCall := bridge.nextCall + 1 } =
      { bridge.table.select index arguments.addr with nextCall := bridge.nextCall + 1 } :=
    congrArg (fun table : Table count => { table with nextCall := bridge.nextCall + 1 }) selected
  unfold Bridge.ipmbHandleRequest Bridge.nextSeq Bridge.seqNumGet
  simp only [served, slots, selectSlave_seqNum]
  cases (Bridge.seqNumSearch (bridge.table.slots index) ipmbMaxOutstandingRequestsCount
      bridge.seqNum).2 with
  | none =>
      simp only [setCall_table, started]
      rfl
  | some seq =>
      simp only [Bool.true_eq_false, if_false, requestAdd_table, started, remote]
      rfl

end Calls

section Refinement

variable {bridge : Bridge count} {call : Nat} {record : Call count}

theorem sendRequest_step (arguments : SendRequest) :
    bridge.table.Step (.sendRequest arguments) (bridge.ipmbHandleRequest arguments).table := by
  cases served : bridge.getChannel arguments.reqChannel with
  | none =>
      unfold Bridge.ipmbHandleRequest
      rw [served]
      exact .idle _
  | some index =>
      rw [ipmbHandleRequest_table bridge served]
      cases found : bridge.nextSeq index with
      | none => exact .reject _ _ served (seqNumSearch_full found)
      | some seq =>
          have ⟨free, bounded⟩ := seqNumSearch_some found
          dsimp only
          split
          · next long => exact .strand _ _ _ _ served free bounded long
          · next buffer encoded => exact .accept _ _ _ _ _ served free bounded encoded

theorem afterWrite_step (event : Event count) {suspension : Suspension}
    (present : bridge.calls call = some record)
    (suspended : record.status = .suspended suspension) (attempt i2cRetryCnt : Nat) (ec : Bool) :
    bridge.table.Step event (bridge.afterWrite call record attempt i2cRetryCnt ec).table := by
  unfold Bridge.afterWrite
  split_ifs
  · rw [startWrite_table]
    exact .write _ _ _ _ _ _ present suspended
  · exact .wait _ _ _ _ _ present suspended

/-- A coroutine that wakes up fails, delivers its response, tries again or gives up. -/
theorem afterWait_step (event : Event count) {suspension : Suspension}
    (present : bridge.calls call = some record)
    (suspended : record.status = .suspended suspension) (attempt : Nat) (ec : WaitResult) :
    bridge.table.Step event (bridge.afterWait call record attempt ec).table := by
  have finished (outcome : RequestOutcome) :
      ((bridge.makeRequestInvalid record.channel call).returnWith call record outcome).table =
        (bridge.table.release call record).setCall call
          { record with status := .returned outcome } := by
    unfold Bridge.returnWith
    rw [setCall_table, makeRequestInvalid_table]
  unfold Bridge.afterWait
  split_ifs with failed matched
  · rw [finished]
    exact .finish _ _ _ _ _ present suspended (.inl rfl)
  · split
    · next response delivered =>
      rw [finished]
      exact .finish _ _ _ _ _ present suspended (.inr (.inr ⟨response, rfl, delivered⟩))
    · next absent =>
      rw [show Bridge.table { bridge.makeRequestInvalid record.channel call with
        fault := some .nullResponse } = _ from makeRequestInvalid_table bridge call record]
      exact .abort _ _ _ matched absent
  · unfold Bridge.nextTry
    split_ifs
    · rw [startWrite_table]
      exact .write _ _ _ _ _ _ present suspended
    · rw [finished]
      exact .finish _ _ _ _ _ present suspended (.inr (.inl rfl))

theorem responseMatch_step (index : Fin count) {bytes : Option (List UInt8)}
    {response : IpmbResponse} (heard : heardResponse bytes = some response) :
    bridge.table.Step (.i2cEvent index bytes) (bridge.responseMatch index response).table := by
  unfold Bridge.responseMatch
  split
  · next call held =>
    dsimp only
    split_ifs with agrees
    · unfold Bridge.cancelTimer
      split
      · next record present =>
        split
        · next attempt waiting =>
          exact .wake index bytes response call record attempt heard held agrees present waiting
        · exact .hear index bytes response call heard held agrees
      · exact .hear index bytes response call heard held agrees
    · exact .idle _
  · exact .idle _

/-- These are all the ways in which the bytes of an event are processed. -/
inductive Bridge.Processed (bridge : Bridge count) (index : Fin count)
    (bytes : Option (List UInt8)) : Bridge count → Prop where
  | dropped (rejected : bytes.bind receiveFrame = none) : Processed bridge index bytes bridge
  | response {frame : List UInt8} {r : Nat} {message : IpmbResponse}
      (received : bytes.bind receiveFrame = some (frame, r)) (isResponse : ipmbIsResponse frame = true)
      (decoded : IpmbResponse.i2cToIpmbConstruct frame r = some message) :
      Processed bridge index bytes ((bridge.announce index frame r).responseMatch index message)
  | torn {frame : List UInt8} {r : Nat} (received : bytes.bind receiveFrame = some (frame, r))
      (isResponse : ipmbIsResponse frame = true)
      (undecoded : IpmbResponse.i2cToIpmbConstruct frame r = none) :
      Processed bridge index bytes
        { bridge.announce index frame r with fault := some .frameRange }
  | request {frame : List UInt8} {r : Nat} (received : bytes.bind receiveFrame = some (frame, r))
      (isRequest : ipmbIsResponse frame = false) :
      Processed bridge index bytes ((bridge.announce index frame r).requestReceived index frame r)

theorem processI2cEvent_processed (bridge : Bridge count) (index : Fin count)
    (bytes : Option (List UInt8)) :
    bridge.Processed index bytes (bridge.processI2cEvent index bytes) := by
  unfold Bridge.processI2cEvent
  split
  · next rejected => exact .dropped rejected
  · next frame r received =>
    dsimp only
    split_ifs with isResponse
    · split
      · next message decoded => exact .response received isResponse decoded
      · next undecoded => exact .torn received isResponse undecoded
    · exact .request received (Bool.eq_false_iff.mpr isResponse)

theorem processI2cEvent_step (index : Fin count) (bytes : Option (List UInt8)) :
    bridge.table.Step (.i2cEvent index bytes) (bridge.processI2cEvent index bytes).table := by
  have processed := processI2cEvent_processed bridge index bytes
  generalize bridge.processI2cEvent index bytes = after at processed ⊢
  cases processed with
  | dropped rejected => exact .idle _
  | @response frame r message received isResponse decoded =>
      have heard : heardResponse bytes = some message := by
        rw [heardResponse, received, Option.bind_some, if_pos isResponse, decoded]
      rw [← announce_table bridge index frame r]
      exact responseMatch_step index heard
  | @torn frame r received isResponse undecoded =>
      rw [← announce_table bridge index frame r]
      exact .idle _
  | @request frame r received isRequest =>
      rw [requestReceived_table, announce_table]
      exact .idle _

/-- These are all the ways in which an event is taken. -/
inductive Bridge.Taken (bridge : Bridge count) : Event count → Bridge count → Prop where
  | sendRequest (arguments : SendRequest) :
      Taken bridge (.sendRequest arguments) (bridge.ipmbHandleRequest arguments)
  | writeDone {call : Nat} {record : Call count} {attempt i2cRetryCnt : Nat} (ec : Bool)
      (present : bridge.calls call = some record)
      (writing : record.status = .suspended (.writing attempt i2cRetryCnt)) :
      Taken bridge (.writeDone call ec) (bridge.afterWrite call record attempt i2cRetryCnt ec)
  | timerDone {call : Nat} {record : Call count} {attempt : Nat} (failed : Bool)
      (present : bridge.calls call = some record)
      (waiting : record.status = .suspended (.waiting attempt)) :
      Taken bridge (.timerDone call failed) (bridge.setCall call { record with
        status := .suspended (.resuming attempt (if failed then .failed else .expired)) })
  | resume {call : Nat} {record : Call count} {attempt : Nat} {ec : WaitResult}
      (present : bridge.calls call = some record)
      (resuming : record.status = .suspended (.resuming attempt ec)) :
      Taken bridge (.resume call) (bridge.afterWait call record attempt ec)
  | i2cEvent (index : Fin count) (bytes : Option (List UInt8)) :
      Taken bridge (.i2cEvent index bytes) (bridge.processI2cEvent index bytes)
  | executeReply {position : Nat} {execution : Execution count} (reply : Option ExecuteReply)
      (present : bridge.executions[position]? = some execution) :
      Taken bridge (.executeReply position reply) (bridge.executeReply position execution reply)
  | outgoingDone {position : Nat} {frame : Outgoing count} (ec : Bool)
      (present : bridge.outgoing[position]? = some frame) :
      Taken bridge (.outgoingDone position ec) (bridge.outgoingDone position frame ec)
  | updateBmcSlaveAddr (reqChannel busId slaveAddr : UInt8) (opened : Bool) :
      Taken bridge (.updateBmcSlaveAddr reqChannel busId slaveAddr opened)
        (bridge.updateBmcSlaveAddr reqChannel busId slaveAddr opened)
  | sendBroadcast (reqChannel netFn lun cmd : UInt8) (dataReceived : List UInt8) :
      Taken bridge (.sendBroadcast reqChannel netFn lun cmd dataReceived)
        (bridge.sendBroadcast reqChannel netFn lun cmd dataReceived)

/-- Only a running bridge takes an event. -/
theorem step_taken {event : Event count} {after : Bridge count}
    (taken : bridge.step event = some after) :
    bridge.fault = none ∧ bridge.Taken event after := by
  unfold Bridge.step at taken
  split_ifs at taken with faulty
  refine ⟨Option.not_isSome_iff_eq_none.mp faulty, ?_⟩
  cases event with
  | sendRequest arguments =>
      cases taken
      exact .sendRequest arguments
  | writeDone call ec =>
      dsimp only at taken
      split at taken <;> try contradiction
      next record present =>
      split at taken <;> try contradiction
      next attempt i2cRetryCnt writing =>
      cases taken
      exact .writeDone ec present writing
  | timerDone call failed =>
      dsimp only at taken
      split at taken <;> try contradiction
      next record present =>
      split at taken <;> try contradiction
      next attempt waiting =>
      cases taken
      exact .timerDone failed present waiting
  | resume call =>
      dsimp only at taken
      split at taken <;> try contradiction
      next record present =>
      split at taken <;> try contradiction
      next attempt ec resuming =>
      cases taken
      exact .resume present resuming
  | i2cEvent index bytes =>
      cases taken
      exact .i2cEvent index bytes
  | executeReply position reply =>
      obtain ⟨execution, present, rfl⟩ := Option.map_eq_some_iff.mp taken
      exact .executeReply reply present
  | outgoingDone position ec =>
      obtain ⟨frame, present, rfl⟩ := Option.map_eq_some_iff.mp taken
      exact .outgoingDone ec present
  | updateBmcSlaveAddr reqChannel busId slaveAddr opened =>
      cases taken
      exact .updateBmcSlaveAddr reqChannel busId slaveAddr opened
  | sendBroadcast reqChannel netFn lun cmd dataReceived =>
      cases taken
      exact .sendBroadcast reqChannel netFn lun cmd dataReceived

/-- Every step of the bridge is a step of its table. -/
theorem step_table {event : Event count} {after : Bridge count}
    (taken : bridge.step event = some after) : bridge.table.Step event after.table := by
  cases (step_taken taken).2 with
  | sendRequest arguments => exact sendRequest_step arguments
  | writeDone ec present writing => exact afterWrite_step _ present writing _ _ _
  | timerDone failed present waiting => exact .wait _ _ _ _ _ present waiting
  | resume present resuming => exact afterWait_step _ present resuming _ _
  | i2cEvent index bytes => exact processI2cEvent_step index bytes
  | executeReply reply present =>
      rw [executeReply_table]
      exact .idle _
  | outgoingDone ec present =>
      rw [outgoingDone_table]
      exact .idle _
  | updateBmcSlaveAddr reqChannel busId slaveAddr opened =>
      rw [updateBmcSlaveAddr_table]
      exact .idle _
  | sendBroadcast reqChannel netFn lun cmd dataReceived =>
      rw [sendBroadcast_table]
      exact .idle _

end Refinement

end Chassis.Ipmb
