import Chassis.Proof.Bridge.Frames
import Chassis.Proof.Bridge.Leak

namespace Chassis.Ipmb
open Automaton

variable {count : Nat}

section Responses

variable {table next : Table count} {event : Event count} {call : Nat} {record : Call count}
  {response : IpmbResponse}

/-- The response was delivered to the call or is kept for it. -/
def Table.Owes (table : Table count) (call : Nat) (record : Call count)
    (response : IpmbResponse) : Prop :=
  record.status = .returned (.matched response) ∨
    record.suspended = true ∧ (table.requests call).matchedResponse = some response

/-- The frame was heard as a response that agrees with the request in its slot. -/
def Table.Hears (table : Table count) (event : Event count) (call : Nat)
    (response : IpmbResponse) : Prop :=
  ∃ index bytes, event = .i2cEvent index bytes ∧ heardResponse bytes = some response ∧
    table.slots index (slotOf response.seq) = some call ∧
    Bridge.matchesRequest (table.requests call) response = true

/-- A response that a call is owed was owed before or has just been heard. -/
theorem Table.Step.owes (step : table.Step event next) (present : next.calls call = some record)
    (owes : next.Owes call record response) :
    ∃ old, table.calls call = some old ∧
      (next.requests call).bare = (table.requests call).bare ∧
      (table.Owes call old response ∨
        old.suspended = true ∧ table.Hears event call response) := by
  cases step.fate present with
  | untouched old bare response frames =>
      refine ⟨record, old, bare, .inl ?_⟩
      unfold Owes at owes
      rwa [response] at owes
  | rejected => simp [Owes, Call.suspended] at owes
  | stranded => simp [Owes, Call.suspended] at owes
  | admitted new asked served free bounded encoded request frames =>
      rw [Owes, request] at owes
      simp [Table.request] at owes
  | moved old suspended bare response frames =>
      refine ⟨_, old, bare, .inl (.inr ⟨Call.suspended_of_status suspended, ?_⟩)⟩
      rw [← response]
      exact (owes.resolve_left (by simp)).2
  | answered arrived heard held agrees old woken bare kept frames =>
      refine ⟨_, old, bare, ?_⟩
      rcases woken with rfl | ⟨before, after, suspended, rfl⟩
      · rcases owes with delivered | ⟨suspended, owed⟩
        · exact .inl (.inl delivered)
        · cases kept.symm.trans owed
          exact .inr ⟨suspended, _, _, arrived, heard, held, agrees⟩
      · have owed := (owes.resolve_left (by simp)).2
        cases kept.symm.trans owed
        exact .inr ⟨Call.suspended_of_status suspended, _, _, arrived, heard, held, agrees⟩
  | finished old suspended settled bare frames =>
      refine ⟨_, old, bare, .inl (.inr ⟨Call.suspended_of_status suspended, ?_⟩)⟩
      rcases owes with delivered | ⟨returned, _⟩
      · cases delivered
        rcases settled with failed | failed | ⟨_, same, owed⟩
        · cases failed
        · cases failed
        · cases same
          exact owed
      · cases returned

/-- The response carries the number, units and command of the request and its response function. -/
structure Answers (request : IpmbRequest) (response : IpmbResponse) : Prop where
  seq : response.seq = request.seq
  netFn : response.netFn = ipmbRespNetFn request.netFn
  rqLun : response.rqLun = request.rqLun
  rsLun : response.rsLun = request.rsLun
  cmd : response.cmd = request.cmd

/-- Every response that a call is owed answers its request. -/
def Table.Answered (table : Table count) : Prop :=
  ∀ call record response, table.calls call = some record → table.Owes call record response →
    Answers (table.requests call).bare response

/-- Every response that a call is owed came from the address of its request. -/
def Table.Attributed (table : Table count) : Prop :=
  ∀ call record response, table.calls call = some record → table.Owes call record response →
    response.rsSA = (table.requests call).bare.address

/-- A slot number decides the request number because both have six bits. -/
theorem Table.Hears.answers (sound : table.Sound) (framed : table.Framed)
    (hears : table.Hears event call response) (present : table.calls call = some record)
    (suspended : record.suspended = true) : Answers (table.requests call).bare response := by
  obtain ⟨index, bytes, _, heard, held, agrees⟩ := hears
  obtain ⟨_, _, _, place, _⟩ := sound.owned _ _ _ held
  have admitted := framed.active call record present (.inl suspended)
  have bounded := (framed.told call record present admitted).carried.bounded
  simp only [Bridge.matchesRequest, Bool.and_eq_true, beq_iff_eq] at agrees
  exact ⟨(slotOf_inj bounded (heardResponse_seq heard) place).symm, agrees.1.1.1.symm,
    agrees.1.1.2.symm, agrees.1.2.symm, agrees.2.symm⟩

theorem Table.Answered.step (answered : table.Answered) (sound : table.Sound)
    (framed : table.Framed) (step : table.Step event next) : next.Answered := by
  intro call record response present owes
  obtain ⟨old, before, bare, owes | ⟨suspended, hears⟩⟩ := step.owes present owes
  · rw [bare]
    exact answered call old response before owes
  · rw [bare]
    exact hears.answers sound framed before suspended

theorem Table.Attributed.step (attributed : table.Attributed)
    (own : ∀ call record response, table.calls call = some record → record.suspended = true →
      table.Hears event call response → response.rsSA = (table.requests call).address)
    (step : table.Step event next) : next.Attributed := by
  intro call record response present owes
  obtain ⟨old, before, bare, owes | ⟨suspended, hears⟩⟩ := step.owes present owes
  · rw [bare]
    exact attributed call old response before owes
  · rw [bare]
    exact own call old response before suspended hears

end Responses

section Runs

variable {bridge after : Bridge count} {event : Event count} {call : Nat} {record : Call count}
  {response : IpmbResponse}

/-- A response heard for a suspended call comes from the address of its request. -/
def Event.Attributed (event : Event count) (bridge : Bridge count) : Prop :=
  ∀ call record response, bridge.calls call = some record → record.suspended = true →
    bridge.table.Hears event call response → response.rsSA = (bridge.heap call).address

theorem responseMatch_owes {index : Fin count}
    (held : (bridge.channels index).outstandingRequests (slotOf response.seq) = some call)
    (agrees : Bridge.matchesRequest (bridge.heap call) response = true)
    (present : bridge.calls call = some record) (suspended : record.suspended = true) :
    ∃ woken, (bridge.responseMatch index response).calls call = some woken ∧
      woken.suspended = true ∧ (bridge.responseMatch index response).heap call =
        { bridge.heap call with state := .matched, matchedResponse := some response } := by
  unfold Bridge.responseMatch Bridge.cancelTimer
  rw [held]
  simp only [agrees, if_true, present]
  split
  · exact ⟨_, Function.update_self _ _ _, rfl, Function.update_self _ _ _⟩
  · exact ⟨record, present, suspended, Function.update_self _ _ _⟩

/-- A heard response is handled after its announcement. -/
theorem processI2cEvent_of_heard (bridge : Bridge count) {bytes : Option (List UInt8)}
    (index : Fin count) (heard : heardResponse bytes = some response) :
    ∃ frame r, bridge.processI2cEvent index bytes =
      (bridge.announce index frame r).responseMatch index response := by
  unfold heardResponse at heard
  obtain ⟨⟨frame, r⟩, received, heard⟩ := Option.bind_eq_some_iff.mp heard
  split_ifs at heard with isResponse
  refine ⟨frame, r, ?_⟩
  unfold Bridge.processI2cEvent
  rw [received]
  dsimp only
  rw [if_pos isResponse]
  generalize IpmbResponse.i2cToIpmbConstruct frame r = decoded at heard
  rw [heard]

/-- A suspended call is owed the response that was heard last. -/
theorem hears_owes (present : bridge.calls call = some record)
    (suspended : record.suspended = true) (hears : bridge.table.Hears event call response)
    (taken : bridge.step event = some after) :
    ∃ woken, after.calls call = some woken ∧ after.table.Owes call woken response ∧
      (after.heap call).address = (bridge.heap call).address := by
  obtain ⟨index, bytes, rfl, heard, held, agrees⟩ := hears
  obtain ⟨frame, r, handled⟩ := processI2cEvent_of_heard bridge index heard
  have announced := announce_table bridge index frame r
  have same : after = (bridge.announce index frame r).responseMatch index response := by
    cases (step_taken taken).2
    exact handled
  rw [← announced] at held agrees
  rw [show bridge.calls = _ from congrArg Table.calls announced.symm] at present
  rw [show bridge.heap = _ from congrArg Table.requests announced.symm, same]
  obtain ⟨woken, recorded, suspended, stored⟩ := responseMatch_owes held agrees present suspended
  refine ⟨woken, recorded, .inr ⟨suspended, congrArg IpmbRequest.matchedResponse stored⟩, ?_⟩
  rw [stored]
  rfl

/-- A step keeps the responses attributed exactly when it meets the condition. -/
theorem step_attributed_iff (attributed : bridge.table.Attributed)
    (taken : bridge.step event = some after) :
    after.table.Attributed ↔ event.Attributed bridge := by
  refine ⟨fun kept call record response present suspended hears => ?_,
    fun own => attributed.step own (step_table taken)⟩
  obtain ⟨woken, recorded, owes, address⟩ := hears_owes present suspended hears taken
  exact (kept call woken response recorded owes).trans address

/-- The call has written its request to the device that answered it. -/
structure Bridge.Delivers (bridge : Bridge count) (call : Nat) (record : Call count)
    (response : IpmbResponse) : Prop where
  written : ∃ frame ∈ bridge.sent, frame.call = some call
  channel : ∀ frame ∈ bridge.sent, frame.call = some call → frame.channel = record.channel
  address : ∀ frame ∈ bridge.sent, frame.call = some call →
    destination frame.buffer = response.rsSA
  seq : ∀ frame ∈ bridge.sent, frame.call = some call →
    ipmbSeqGet (byteAt frame.buffer 5) = response.seq
  netFn : response.netFn = ipmbRespNetFn record.arguments.netfn
  rqLun : response.rqLun = record.arguments.lun
  rsLun : response.rsLun = ipmbRsLun
  cmd : response.cmd = record.arguments.cmd

section Reached

variable {channels : Fin count → IpmbChannel}
  (reach : Reach Bridge.step (fun bridge event => event.Attributed bridge) (.initial channels)
    bridge)

include reach

theorem reach_attributed : bridge.table.Answered ∧ bridge.table.Attributed := by
  have invariant := reach.invariant (fun bridge => (bridge.table.Sound ∧ bridge.table.Framed) ∧
    bridge.table.Answered ∧ bridge.table.Attributed)
    ⟨⟨initial_sound channels, initial_framed channels⟩, fun _ _ _ => nofun, fun _ _ _ => nofun⟩
    fun _ _ _ kept own taken => ⟨⟨kept.1.1.step (step_table taken),
      kept.1.2.step kept.1.1 (step_table taken)⟩,
      kept.2.1.step kept.1.1 kept.1.2 (step_table taken), kept.2.2.step own (step_table taken)⟩
  exact invariant.2

/-- A delivered response comes from the device that its request was sent to. -/
theorem reach_delivers (present : bridge.calls call = some record)
    (returned : record.status = .returned (.matched response)) :
    bridge.Delivers call record response := by
  have framed := reachable_framed reach.reachable
  have kept := reach_attributed reach
  have told := framed.told call record present
    (framed.active call record present (.inr ⟨response, returned⟩))
  have answers := kept.1 call record response present (.inl returned)
  have address := kept.2 call record response present (.inl returned)
  have encoded := destination_of_encoded told.carried.encoded
  have own (frame : Sent count) (sent : frame ∈ bridge.sent) (written : frame.call = some call) :=
    told.framed frame (mem_framesOf.mpr ⟨sent, written⟩)
  obtain ⟨frame, member⟩ := List.exists_mem_of_ne_nil _ told.written
  exact {
    written := ⟨frame, mem_framesOf.mp member⟩
    channel := fun frame sent written => (own frame sent written).1
    address := fun frame sent written => by
      rw [(own frame sent written).2, encoded.1, address]
    seq := fun frame sent written => by
      rw [(own frame sent written).2, encoded.2, ipmbSeqGet_seqLunSet told.carried.bounded,
        answers.seq]
    netFn := by rw [answers.netFn, told.carried.netFn]
    rqLun := by rw [answers.rqLun, told.carried.rqLun]
    rsLun := by rw [answers.rsLun, told.carried.rsLun]
    cmd := by rw [answers.cmd, told.carried.cmd] }

end Reached

/-- Along every run whose steps meet the condition a delivered response comes from the device that
its request was sent to, and the next step keeps it so exactly when it meets the condition. -/
theorem response_attributed (channels : Fin count → IpmbChannel)
    (reach : Reach Bridge.step (fun bridge event => event.Attributed bridge) (.initial channels)
      bridge) :
    (∀ call record response, bridge.calls call = some record →
        record.status = .returned (.matched response) → bridge.Delivers call record response) ∧
      ∀ event after, bridge.step event = some after →
        (after.table.Attributed ↔ event.Attributed bridge) :=
  ⟨fun _ _ _ present returned => reach_delivers reach present returned,
    fun _ _ taken => step_attributed_iff (reach_attributed reach).2 taken⟩

/-- Only a received frame can break the attribution. -/
theorem Event.attributed_of_ne (other : ∀ index bytes, event ≠ .i2cEvent index bytes) :
    event.Attributed bridge := by
  rintro call record response _ _ ⟨index, bytes, same, _⟩
  exact absurd same (other index bytes)

end Runs

section Example

/-- A device answers the Get Device ID request with number one. -/
abbrev deviceIdResponse (rsSA checksum : UInt8) : List UInt8 :=
  [0x08, 0x20, 0x1c, 0xc4, rsSA, 0x04, 0x01, 0x00, checksum]

/-- The request has been written and its call waits. -/
def waitingBridge : Bridge 1 :=
  (run Bridge.step loneBridge [.sendRequest (deviceIdRequest 0x82), .writeDone 0 false]).get
    (by decide +kernel)

/-- The addressed device has answered, and its response was delivered. -/
def servedBridge : Bridge 1 :=
  (run Bridge.step waitingBridge [.i2cEvent 0 (some (deviceIdResponse 0x82 0x79)), .resume 0]).get
    (by decide +kernel)

theorem waitingBridge_run :
    run Bridge.step loneBridge [.sendRequest (deviceIdRequest 0x82), .writeDone 0 false] =
      some waitingBridge :=
  (Option.some_get _).symm

theorem servedBridge_run :
    run Bridge.step waitingBridge
      [.i2cEvent 0 (some (deviceIdResponse 0x82 0x79)), .resume 0] = some servedBridge :=
  (Option.some_get _).symm

/-- The heard response comes from the device that the only outstanding request names. -/
theorem waitingBridge_attributed :
    (Event.i2cEvent 0 (some (deviceIdResponse 0x82 0x79))).Attributed waitingBridge := by
  rintro call record response _ _ ⟨index, bytes, same, heard, held, _⟩
  cases same
  have decoded : heardResponse (some (deviceIdResponse 0x82 0x79)) =
      some ⟨0, 0x07, 0, 0x82, 1, 0, 0x01, 0, []⟩ := by decide +kernel
  cases decoded.symm.trans heard
  have owner : (waitingBridge.channels 0).outstandingRequests (slotOf 1) = some 0 := by
    decide +kernel
  cases owner.symm.trans held
  decide +kernel

theorem servedBridge_reach :
    Reach Bridge.step (fun bridge event => event.Attributed bridge) loneBridge servedBridge := by
  have ran := servedBridge_run
  rw [run_cons, Option.bind_eq_some_iff] at ran
  obtain ⟨answered, taken, ran⟩ := ran
  have waits : Reach Bridge.step (fun bridge event => event.Attributed bridge) loneBridge
      waitingBridge := reach_of_run waitingBridge_run fun event member before =>
    Event.attributed_of_ne (by rintro index bytes rfl; simp at member)
  exact (waits.next waitingBridge_attributed taken).trans
    (reach_of_run ran fun event member before =>
      Event.attributed_of_ne (by rintro index bytes rfl; simp at member))

theorem servedBridge_status : (servedBridge.calls 0).map Call.status =
    some (.returned (.matched ⟨0, 0x07, 0, 0x82, 1, 0, 0x01, 0, []⟩)) := by decide +kernel

/-- The response of the addressed device is delivered to the call. -/
theorem response_attributed_served :
    ∃ record response, servedBridge.calls 0 = some record ∧
      record.status = .returned (.matched response) ∧ servedBridge.Delivers 0 record response := by
  obtain ⟨record, present, returned⟩ := Option.map_eq_some_iff.mp servedBridge_status
  exact ⟨record, _, present, returned,
    (response_attributed _ servedBridge_reach).1 0 record _ present returned⟩

/-- The response of another device is delivered to the call. -/
theorem responseMatch_ignores_address :
    ∃ bridge, run Bridge.step loneBridge [.sendRequest (deviceIdRequest 0x82), .writeDone 0 false,
        .i2cEvent 0 (some (deviceIdResponse 0x84 0x77)), .resume 0] = some bridge ∧
      (bridge.calls 0).map Call.status =
        some (.returned (.matched ⟨0, 0x07, 0, 0x84, 1, 0, 0x01, 0, []⟩)) ∧
      bridge.sent.map (fun frame => (frame.call, destination frame.buffer)) = [(some 0, 0x82)] := by
  have seen : (run Bridge.step loneBridge [.sendRequest (deviceIdRequest 0x82), .writeDone 0 false,
      .i2cEvent 0 (some (deviceIdResponse 0x84 0x77)), .resume 0]).map (fun bridge =>
        ((bridge.calls 0).map Call.status,
          bridge.sent.map (fun frame => (frame.call, destination frame.buffer)))) =
      some (some (.returned (.matched ⟨0, 0x07, 0, 0x84, 1, 0, 0x01, 0, []⟩)),
        [(some 0, 0x82)]) := by decide +kernel
  obtain ⟨bridge, ran, seen⟩ := Option.map_eq_some_iff.mp seen
  simp only [Prod.mk.injEq] at seen
  exact ⟨bridge, ran, seen⟩

end Example

end Chassis.Ipmb
