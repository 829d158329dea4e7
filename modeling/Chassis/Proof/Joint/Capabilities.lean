import Chassis.Proof.Joint.Reply
import Chassis.Proof.Manager.Outline

namespace Chassis
open Effect Program Automaton Vita4611

section Constructor

/-- The request that the constructor sends for the capabilities of its device. -/
abbrev vsoRequest : Ipmb.SendRequest :=
  ⟨0, 0x40, netfnVita4611, 0, vita4611GetVsoCapsCmd, [0x03]⟩

/-- The first seven bytes of the payload are the capabilities. -/
def capsOf (data : List UInt8) : VsoCaps :=
  let byte (index : Nat) : UInt8 := ((data.take 7).drop 0).getD index 0
  ⟨byte 0, byte 1, byte 2, byte 3, byte 4, byte 5, byte 6⟩

/-- Every stored capability was read from an answer to the request. -/
def Sourced {Value : Type} (run : Run interface Vita4611Device Value) : Prop :=
  ∀ caps, run.state.vsocaps = some caps → ∃ device result,
    (⟨device, .sendRequest vsoRequest, DBusReply.reply result⟩ : Call interface Vita4611Device) ∈
      run.calls ∧ 7 ≤ result.data.length ∧ caps = capsOf result.data

theorem Sourced.of_none {Value : Type} {run : Run interface Vita4611Device Value}
    (none : run.state.vsocaps = none) : Sourced run := by
  intro caps stored
  rw [none] at stored
  cases stored

/-- The second run may be the source, or else it must keep the capabilities. -/
theorem Sourced.andThen {Value Result : Type} {first : Run interface Vita4611Device Value}
    {next : Value → Vita4611Device → Run interface Vita4611Device Result} (sourced : Sourced first)
    (rest : ∀ value, first.outcome = .value value → Sourced (next value first.state) ∨
      (next value first.state).state.vsocaps = first.state.vsocaps) :
    Sourced (first.andThen next) := by
  unfold Run.andThen
  split
  · next value returned =>
    rcases rest value returned with later | kept
    · intro caps stored
      obtain ⟨device, result, member, long, same⟩ := later caps stored
      exact ⟨device, result, List.mem_append_right _ member, long, same⟩
    · intro caps stored
      obtain ⟨device, result, member, long, same⟩ := sourced caps (kept ▸ stored)
      exact ⟨device, result, List.mem_append_left _ member, long, same⟩
  · exact sourced
  · exact sourced

variable (environment : Environment interface) (device : Vita4611Device) (position : Nat)

theorem run_ofBytes (data : List UInt8) :
    (Vita4611Device.VsoCaps.ofBytes data).run environment device position =
      if 7 ≤ data.length then ⟨.value (capsOf data), device, []⟩
      else ⟨.fault .payloadRange, device, []⟩ := by
  unfold Vita4611Device.VsoCaps.ofBytes payloadRange
  by_cases long : 7 ≤ data.length
  · simp only [Nat.zero_le, long, and_self, if_true]
    rfl
  · simp only [Nat.zero_le, long, and_false, if_false]
    rfl

theorem readReply_eq_some {reply : DBusReply} {result : Ipmb.SendRequestReply}
    {cc : Option UInt8} (read : readReply reply = (some result, cc)) : reply = .reply result := by
  cases reply with
  | reply other =>
      simp only [readReply] at read
      split_ifs at read
      · cases read
        rfl
      · cases read
  | methodError => cases read
  | exception => cases read

/-- A long enough answer is stored, and nothing else is. -/
theorem queryVsoCapabilities_sourced (channel : device.channel = 0)
    (empty : device.vsocaps = none) :
    Sourced (Vita4611Device.queryVsoCapabilities.run environment device position) := by
  have sent : (sendIpmbRequest device.channel 0x40 netfnVita4611 0 vita4611GetVsoCapsCmd
      [0x03]).run environment device position =
      ⟨.value (readReply (environment position (.sendRequest vsoRequest))), device,
        [⟨device, .sendRequest vsoRequest, environment position (.sendRequest vsoRequest)⟩]⟩ := by
    rw [channel]
    rfl
  unfold Vita4611Device.queryVsoCapabilities
  rw [run_bind, run_read]
  simp only [Run.andThen, run_bind, List.length_nil, Nat.add_zero, sent, List.nil_append]
  rcases read : readReply (environment position (.sendRequest vsoRequest)) with ⟨_ | response, cc⟩
  · exact .of_none empty
  · have answered := readReply_eq_some read
    simp only [run_bind, run_modify, run_ofBytes, Run.andThen]
    by_cases long : 7 ≤ response.data.length
    · simp only [long, if_true, List.append_nil]
      intro caps stored
      refine ⟨device, response, ?_, long, (Option.some.inj stored).symm⟩
      rw [answered]
      exact List.mem_singleton_self _
    · simp only [long, if_false]
      exact .of_none empty

theorem queryDeviceId_identity (addr : UInt8) :
    ((Vita4611Device.queryDeviceId addr).run environment device position).state.identity =
      device.identity :=
  ((Vita4611Device.queryDeviceId_steady addr).sound environment device position rfl).2.1

/-- The enumeration of the FRUs keeps the capabilities. -/
theorem discoverFrus_vsocaps [Libm] :
    (Vita4611Device.discoverFrus.run environment device position).state.vsocaps =
      device.vsocaps :=
  congrArg Identity.vsocaps
    (Vita4611Device.discoverFrus_steady.sound environment device position rfl).2.1

theorem query_sourced [Libm] (ipmiAddress : UInt8) (channel : device.channel = 0)
    (empty : device.vsocaps = none) :
    Sourced ((Vita4611Device.query ipmiAddress).run environment device position) := by
  have same := queryDeviceId_identity environment device position ipmiAddress
  have channel' := (congrArg Identity.channel same).trans channel
  have empty' := (congrArg Identity.vsocaps same).trans empty
  unfold Vita4611Device.query
  rw [run_bind]
  refine Sourced.andThen (.of_none empty') fun _ _ => .inl ?_
  rw [run_bind, run_read]
  refine Sourced.andThen (.of_none empty') fun _ same => .inl ?_
  cases same
  rw [run_ite]
  split_ifs
  · rw [run_bind]
    refine Sourced.andThen (queryVsoCapabilities_sourced environment _ _ channel' empty')
      fun _ _ => .inr ?_
    rw [run_bind, run_read]
    simp only [Run.andThen, run_ite]
    split_ifs
    · exact discoverFrus_vsocaps environment _ _
    · rfl
  · exact .of_none empty'

/-- The capabilities of a constructed device were read from an answer to the request. -/
theorem construct_sourced [Libm] (ipmiAddress : UInt8) (junk : Vita4611Device) :
    Sourced ((Vita4611Device.construct 0 ipmiAddress).run environment
      (Vita4611Device.blank junk) 0) := by
  unfold Vita4611Device.construct
  rw [run_bind, run_modify]
  exact Sourced.andThen (.of_none rfl) fun _ _ => .inl (query_sourced environment _ _ _ rfl rfl)

end Constructor

section Moves

variable {count : Nat} {joint after : Joint count} {event : JointEvent count}

/-- These are all the moves of the bridge and the constructor. -/
inductive Joint.Move (joint : Joint count) : JointEvent count → Joint count → Prop where
  | serve {event : Ipmb.Event count} {bridge : Ipmb.Bridge count}
      (taken : joint.bridge.step event = some bridge) :
      Move joint (.bridge event) { joint with bridge := bridge }
  | ask {arguments : Ipmb.SendRequest} {bridge : Ipmb.Bridge count}
      (waiting : joint.thread.waiting = some (.sendRequest arguments))
      (taken : joint.bridge.step (.sendRequest arguments) = some bridge) :
      Move joint .ask { joint with
        bridge := bridge
        pending := some joint.bridge.nextCall
        asked := joint.asked ++ [(joint.bridge.nextCall, arguments)] }
  | resume {event : JointEvent count} (answers : (op : Op) → op.Answer) (other : event ≠ .ask)
      (genuine : ∀ arguments result, joint.thread.waiting = some (.sendRequest arguments) →
        answers (.sendRequest arguments) = DBusReply.reply result →
        ∃ call record outcome, joint.pending = some call ∧
          joint.bridge.calls call = some record ∧ record.status = .returned outcome ∧
          result = outcome.reply) :
      Move joint event { joint with thread := joint.thread.resume answers, pending := none }

theorem Joint.step_move (taken : joint.step event = some after) : joint.Move event after := by
  cases event with
  | bridge event =>
      obtain ⟨bridge, served, rfl⟩ := Option.map_eq_some_iff.mp taken
      exact .serve served
  | ask =>
      simp only [step, Joint.ask] at taken
      split at taken
      · next waiting =>
        obtain ⟨bridge, served, rfl⟩ := Option.map_eq_some_iff.mp taken
        exact .ask waiting served
      · cases taken
  | reply =>
      simp only [step, Joint.reply] at taken
      split at taken
      · cases taken
      · next call pending =>
        split at taken
        · next outcome status =>
          cases taken
          obtain ⟨record, present, returned⟩ := Option.map_eq_some_iff.mp status
          refine .resume _ nofun fun arguments result _ replied => ?_
          cases replied
          exact ⟨call, record, outcome, pending, present, returned, rfl⟩
        · cases taken
  | lose failed =>
      simp only [step, Joint.lose] at taken
      split at taken
      · cases taken
      · cases taken
        refine .resume _ nofun fun arguments result _ replied => ?_
        cases failed <;> cases replied
  | answer answers =>
      simp only [step, Joint.answer] at taken
      split at taken
      · cases taken
      · next op other idle waiting =>
        cases taken
        have move : joint.Move (.answer answers)
            { joint with thread := joint.thread.resume answers, pending := none } := by
          refine .resume _ nofun fun arguments result waits _ => ?_
          rw [waiting] at waits
          cases waits
          exact absurd rfl (other arguments)
        rwa [← idle] at move
      · cases taken

end Moves

section Invariant

variable {count : Nat} [Libm] {junk : Vita4611Device} {ipmiAddress : UInt8}
  {joint after : Joint count} {event : JointEvent count}

/-- The constructor follows its program, and every answer it used came from its own call. -/
structure Joint.Sound (junk : Vita4611Device) (ipmiAddress : UInt8) (joint : Joint count) :
    Prop where
  table : joint.bridge.table.Sound
  framed : joint.bridge.table.Framed
  replays : joint.thread.Replays (Vita4611Device.construct 0 ipmiAddress)
    (Vita4611Device.blank junk)
  numbered : joint.bridge.fault = none → ∀ call arguments, (call, arguments) ∈ joint.asked →
    call < joint.bridge.nextCall
  pending : ∀ call, joint.pending = some call → ∃ arguments,
    (call, arguments) ∈ joint.asked ∧ joint.thread.waiting = some (.sendRequest arguments)
  origin : ∀ device arguments result,
    (⟨device, .sendRequest arguments, DBusReply.reply result⟩ : Call interface Vita4611Device) ∈
      joint.thread.calls →
    ∃ call record outcome, (call, arguments) ∈ joint.asked ∧
      joint.bridge.calls call = some record ∧ record.status = .returned outcome ∧
      result = outcome.reply

omit [Libm] in
/-- A request gets the next identifier unless it ends the bridge. -/
theorem sendRequest_nextCall (bridge : Ipmb.Bridge count) (arguments : Ipmb.SendRequest)
    (sane : (bridge.ipmbHandleRequest arguments).fault = none) :
    bridge.nextCall < (bridge.ipmbHandleRequest arguments).nextCall := by
  cases served : bridge.getChannel arguments.reqChannel with
  | none =>
      unfold Ipmb.Bridge.ipmbHandleRequest at sane
      rw [served] at sane
      cases sane
  | some index =>
      rw [Ipmb.served_nextCall served]
      exact Nat.lt_succ_self _

namespace Joint.Sound

variable (sound : joint.Sound junk ipmiAddress)

include sound

theorem serve {bridge : Ipmb.Bridge count} {event : Ipmb.Event count}
    (taken : joint.bridge.step event = some bridge) :
    Joint.Sound junk ipmiAddress { joint with bridge := bridge } where
  table := sound.table.step (Ipmb.step_table taken)
  framed := sound.framed.step sound.table (Ipmb.step_table taken)
  replays := sound.replays
  numbered _ call arguments asked :=
    Nat.lt_of_lt_of_le (sound.numbered (Ipmb.step_taken taken).1 call arguments asked)
      (Ipmb.step_table taken).nextCall_le
  pending := sound.pending
  origin device arguments result member := by
    obtain ⟨call, record, outcome, asked, present, returned, same⟩ :=
      sound.origin device arguments result member
    exact ⟨call, record, outcome, asked,
      sound.table.returned (Ipmb.step_table taken) present returned, returned, same⟩

theorem ask {bridge : Ipmb.Bridge count} {arguments : Ipmb.SendRequest}
    (waiting : joint.thread.waiting = some (.sendRequest arguments))
    (taken : joint.bridge.step (.sendRequest arguments) = some bridge) :
    Joint.Sound junk ipmiAddress { joint with
      bridge := bridge
      pending := some joint.bridge.nextCall
      asked := joint.asked ++ [(joint.bridge.nextCall, arguments)] } where
  table := (sound.serve taken).table
  framed := (sound.serve taken).framed
  replays := sound.replays
  numbered sane call other asked := by
    rcases List.mem_append.mp asked with asked | asked
    · exact (sound.serve taken).numbered sane call other asked
    · cases List.mem_singleton.mp asked
      rw [Ipmb.step_sendRequest taken] at sane ⊢
      exact sendRequest_nextCall _ _ sane
  pending call same := by
    cases same
    exact ⟨arguments, List.mem_append_right _ (List.mem_singleton_self _), waiting⟩
  origin device other result member := by
    obtain ⟨call, record, outcome, asked, rest⟩ := (sound.serve taken).origin device other result member
    exact ⟨call, record, outcome, List.mem_append_left _ asked, rest⟩

theorem resume {answers : (op : Op) → op.Answer}
    (genuine : ∀ arguments result, joint.thread.waiting = some (.sendRequest arguments) →
      answers (.sendRequest arguments) = DBusReply.reply result →
      ∃ call record outcome, joint.pending = some call ∧
        joint.bridge.calls call = some record ∧ record.status = .returned outcome ∧
        result = outcome.reply) :
    Joint.Sound junk ipmiAddress
      { joint with thread := joint.thread.resume answers, pending := none } where
  table := sound.table
  framed := sound.framed
  replays := sound.replays.resume answers
  numbered := sound.numbered
  pending _ := nofun
  origin device arguments result member := by
    rcases joint.thread.resume_calls answers with same | ⟨op, waiting, recorded⟩
    · exact sound.origin device arguments result (same ▸ member)
    · rw [recorded, List.mem_append, List.mem_singleton] at member
      rcases member with member | last
      · exact sound.origin device arguments result member
      · injection last with _ same answered
        subst same
        obtain ⟨call, record, outcome, pending, rest⟩ :=
          genuine arguments result waiting (eq_of_heq answered).symm
        obtain ⟨other, asked, waits⟩ := sound.pending call pending
        cases waiting.symm.trans waits
        exact ⟨call, record, outcome, asked, rest⟩

theorem step (taken : joint.step event = some after) : after.Sound junk ipmiAddress := by
  cases Joint.step_move taken with
  | serve served => exact sound.serve served
  | ask waiting served => exact sound.ask waiting served
  | resume answers other genuine => exact sound.resume genuine

end Joint.Sound

theorem initial_joint_sound (channels : Fin count → Ipmb.IpmbChannel) :
    (Joint.initial channels junk ipmiAddress).Sound junk ipmiAddress where
  table := Ipmb.initial_sound channels
  framed := Ipmb.initial_framed channels
  replays := Thread.start_replays _ _
  numbered _ _ _ := nofun
  pending _ := nofun
  origin _ _ _ := nofun

end Invariant

section Aim

variable {count : Nat} {bridge next : Ipmb.Bridge count}

/-- A call that existed before a step keeps its request. -/
theorem step_bare {event : Ipmb.Event count} (taken : bridge.step event = some next) {call : Nat}
    {record : Ipmb.Call count} (older : call < bridge.nextCall)
    (present : next.calls call = some record) (admitted : record.admitted = true) :
    ∃ old, bridge.calls call = some old ∧ old.admitted = true ∧
      (next.heap call).bare = (bridge.heap call).bare := by
  obtain ⟨old, before, same, bare⟩ := (Ipmb.step_table taken).kept (Nat.ne_of_lt older) present
  rw [same] at admitted
  exact ⟨old, before, admitted, bare⟩

/-- An admitted request names the remote address that its channel has after the selection. -/
theorem sendRequest_address (sound : bridge.table.Sound) {arguments : Ipmb.SendRequest}
    (taken : bridge.step (.sendRequest arguments) = some next) {record : Ipmb.Call count}
    (present : next.calls bridge.nextCall = some record) (admitted : record.admitted = true) :
    ∃ index, bridge.getChannel arguments.reqChannel = some index ∧
      (∃ slot, (bridge.channels index).outstandingRequests slot = none) ∧
      (next.heap bridge.nextCall).bare.address =
        (bridge.table.select index arguments.addr).remote index := by
  have fresh : bridge.calls bridge.nextCall = none := sound.fresh _ (Nat.le_refl _)
  cases (Ipmb.step_table taken).fate present with
  | untouched old => cases fresh.symm.trans old
  | rejected => cases admitted
  | stranded => cases admitted
  | admitted new asked served free bounded encoded request =>
      cases asked
      exact ⟨_, served, ⟨_, free⟩, congrArg (fun request => request.bare.address) request⟩
  | moved old => cases fresh.symm.trans old
  | answered arrived heard held agrees old => cases fresh.symm.trans old
  | finished old => cases fresh.symm.trans old

variable {joint after : Joint count} {event : JointEvent count} {ipmiAddress : UInt8}

/-- Every frame of the constructor's request for capabilities goes to the address. -/
def Joint.Aims (ipmiAddress : UInt8) (joint : Joint count) : Prop :=
  ∀ call, (call, vsoRequest) ∈ joint.asked → ∀ frame ∈ joint.bridge.sent,
    frame.call = some call → Ipmb.destination frame.buffer = ipmiAddress

/-- Every admitted request for capabilities names the address. -/
def Joint.Addresses (ipmiAddress : UInt8) (joint : Joint count) : Prop :=
  ∀ call record, (call, vsoRequest) ∈ joint.asked → joint.bridge.calls call = some record →
    record.admitted = true → (joint.bridge.heap call).bare.address = ipmiAddress

/-- The channel used the address last when it takes the request for capabilities. -/
def JointEvent.Aimed (ipmiAddress : UInt8) (joint : Joint count) : JointEvent count → Prop
  | .ask => joint.thread.waiting = some (.sendRequest vsoRequest) →
      ∀ index, joint.bridge.getChannel 0 = some index →
        (∃ slot, (joint.bridge.channels index).outstandingRequests slot = none) →
        (joint.bridge.channels index).ipmbRqSlaveAddress = ipmiAddress
  | _ => True

/-- The frames of a call go where its request says. -/
theorem aims_iff (framed : joint.bridge.table.Framed) :
    joint.Aims ipmiAddress ↔ joint.Addresses ipmiAddress := by
  have aimed {call : Nat} {record : Ipmb.Call count} {frame : Ipmb.Sent count}
      (present : joint.bridge.calls call = some record) (admitted : record.admitted = true)
      (member : frame ∈ joint.bridge.table.framesOf call) :
      Ipmb.destination frame.buffer = (joint.bridge.heap call).bare.address := by
    have told := framed.told call record present admitted
    rw [(told.framed frame member).2]
    exact (Ipmb.destination_of_encoded told.carried.encoded).1
  constructor
  · intro aims call record asked present admitted
    obtain ⟨frame, member⟩ :=
      List.exists_mem_of_ne_nil _ (framed.told call record present admitted).written
    have sent := Ipmb.mem_framesOf.mp member
    rw [← aimed present admitted member]
    exact aims call asked frame sent.1 sent.2
  · intro addresses call asked frame sent written
    have member : frame ∈ joint.bridge.table.framesOf call := Ipmb.mem_framesOf.mpr ⟨sent, written⟩
    cases present : joint.bridge.calls call with
    | none =>
        rw [framed.silent call present] at member
        cases member
    | some record =>
        cases admitted : record.admitted with
        | false =>
            rw [framed.quiet call record present admitted] at member
            cases member
        | true =>
            rw [aimed present admitted member]
            exact addresses call record asked present admitted

variable [Libm] {junk : Vita4611Device} (sound : joint.Sound junk ipmiAddress)

include sound

theorem Joint.Addresses.serve (addresses : joint.Addresses ipmiAddress) {event : Ipmb.Event count}
    (taken : joint.bridge.step event = some next) {call : Nat} {record : Ipmb.Call count}
    (asked : (call, vsoRequest) ∈ joint.asked) (present : next.calls call = some record)
    (admitted : record.admitted = true) : (next.heap call).bare.address = ipmiAddress := by
  obtain ⟨old, before, admitted, bare⟩ := step_bare taken
    (sound.numbered (Ipmb.step_taken taken).1 call _ asked) present admitted
  rw [bare]
  exact addresses call old asked before admitted

/-- A step keeps the address exactly when it meets the condition. -/
theorem step_addresses_iff (addresses : joint.Addresses ipmiAddress)
    (taken : joint.step event = some after) :
    after.Addresses ipmiAddress ↔ event.Aimed ipmiAddress joint := by
  cases Joint.step_move taken with
  | serve served =>
      exact ⟨fun _ => trivial, fun _ call record asked present admitted =>
        addresses.serve sound served asked present admitted⟩
  | resume answers other genuine =>
      refine ⟨fun _ => ?_, fun _ => addresses⟩
      cases event with
      | ask => exact absurd rfl other
      | bridge | reply | lose | answer => trivial
  | @ask arguments bridge waiting served =>
      constructor
      · rintro after waits index found ⟨slot, free⟩
        cases waiting.symm.trans waits
        replace found : joint.bridge.getChannel vsoRequest.reqChannel = some index := found
        obtain ⟨buffer, recorded⟩ := Ipmb.sendRequest_record found free
        rw [← Ipmb.step_sendRequest served, if_neg (by decide)] at recorded
        have admitted := (sound.serve served).framed.active _ _ recorded (.inl rfl)
        obtain ⟨place, found', _, address⟩ :=
          sendRequest_address sound.table served recorded admitted
        cases found.symm.trans found'
        have named := after _ _ (List.mem_append_right _ (List.mem_singleton_self _)) recorded
          admitted
        exact (Function.update_self _ _ _).symm.trans (address.symm.trans named)
      · intro aimed call record asked present admitted
        rcases List.mem_append.mp asked with asked | asked
        · exact addresses.serve sound served asked present admitted
        · cases List.mem_singleton.mp asked
          obtain ⟨index, found, free, address⟩ :=
            sendRequest_address sound.table served present admitted
          refine address.trans (Eq.trans ?_ (aimed waiting index found free))
          exact Function.update_self _ _ _

end Aim

section Runs

variable {count : Nat} [Libm] {joint : Joint count} {junk : Vita4611Device} {ipmiAddress : UInt8}
  {channels : Fin count → Ipmb.IpmbChannel}

theorem reachable_joint_sound
    (reachable : Reachable Joint.step (.initial channels junk ipmiAddress) joint) :
    joint.Sound junk ipmiAddress :=
  reachable.invariant (fun joint => joint.Sound junk ipmiAddress) (initial_joint_sound channels)
    fun _ _ _ sound _ taken => sound.step taken

/-- The bridge hears only responses of the devices that its suspended calls address. -/
def JointEvent.Attributed (joint : Joint count) : JointEvent count → Prop
  | .bridge event => event.Attributed joint.bridge
  | _ => True

/-- The bridge of a joint run takes a run of its own. -/
theorem reach_bridge (reach : Reach Joint.step (fun joint event => event.Attributed joint)
      (.initial channels junk ipmiAddress) joint) :
    Reach Ipmb.Bridge.step (fun bridge event => event.Attributed bridge) (.initial channels)
      joint.bridge := by
  induction reach with
  | start => exact .start
  | next before met taken ih =>
      cases Joint.step_move taken with
      | serve served => exact ih.next met served
      | ask waiting served =>
          refine ih.next (Ipmb.Event.attributed_of_ne ?_) served
          intro index bytes same
          cases same
      | resume => exact ih

/-- The stored capabilities are those of a response to the constructor's own request. -/
theorem stored_capabilities (sound : joint.Sound junk ipmiAddress)
    {outcome : Outcome interface Unit} (ended : joint.thread.residual = .ended outcome)
    {caps : VsoCaps} (stored : joint.thread.state.vsocaps = some caps) :
    ∃ call record response, (call, vsoRequest) ∈ joint.asked ∧
      joint.bridge.calls call = some record ∧ record.status = .returned (.matched response) ∧
      caps = capsOf response.data := by
  have ran := sound.replays.ended ended
  have sourced := construct_sourced (Thread.replaying joint.thread.calls) ipmiAddress junk
  rw [ran] at sourced
  obtain ⟨device, result, member, long, same⟩ := sourced caps stored
  obtain ⟨call, record, outcome, asked, present, returned, rfl⟩ :=
    sound.origin device vsoRequest result member
  cases outcome with
  | matched response => exact ⟨call, record, response, asked, present, returned, same⟩
  | status code =>
      change 7 ≤ 0 at long
      omega

/-- Along every run whose steps meet the condition the request for capabilities goes to the device,
the stored capabilities come from a response to it, which is the device's own if the bridge
attributes its responses, and the next step keeps the aim exactly when it meets the condition. -/
theorem capabilities_aimed (channels : Fin count → Ipmb.IpmbChannel) (junk : Vita4611Device)
    (ipmiAddress : UInt8)
    (reach : Reach Joint.step (fun joint event => event.Aimed ipmiAddress joint)
      (.initial channels junk ipmiAddress) joint) :
    joint.Aims ipmiAddress ∧
      (∀ outcome caps, joint.thread.residual = .ended outcome →
        joint.thread.state.vsocaps = some caps →
        ∃ call record response, (call, vsoRequest) ∈ joint.asked ∧
          joint.bridge.calls call = some record ∧
          record.status = .returned (.matched response) ∧ caps = capsOf response.data ∧
          (Reach Joint.step (fun joint event => event.Attributed joint)
            (.initial channels junk ipmiAddress) joint → response.rsSA = ipmiAddress)) ∧
      ∀ event after, joint.step event = some after →
        (after.Aims ipmiAddress ↔ event.Aimed ipmiAddress joint) := by
  have sound := reachable_joint_sound reach.reachable
  have addresses : joint.Addresses ipmiAddress := by
    refine (reach.invariant (fun joint => joint.Sound junk ipmiAddress ∧
      joint.Addresses ipmiAddress) ⟨initial_joint_sound channels, fun _ _ => nofun⟩ ?_).2
    exact fun _ _ _ kept aimed taken =>
      ⟨kept.1.step taken, (step_addresses_iff kept.1 kept.2 taken).mpr aimed⟩
  have aims : joint.Aims ipmiAddress := (aims_iff sound.framed).mpr addresses
  refine ⟨aims, fun outcome caps ended stored => ?_, fun event after taken =>
    (aims_iff (sound.step taken).framed).trans (step_addresses_iff sound addresses taken)⟩
  obtain ⟨call, record, response, asked, present, returned, same⟩ :=
    stored_capabilities sound ended stored
  refine ⟨call, record, response, asked, present, returned, same, fun attributed => ?_⟩
  have delivers := Ipmb.reach_delivers (reach_bridge attributed) present returned
  obtain ⟨frame, sent, written⟩ := delivers.written
  exact (delivers.address frame sent written).symm.trans (aims call asked frame sent written)

end Runs

section Example

/-- A device at `0x84` is constructed on a channel that used `0x82` last. -/
def startedJoint : Joint 1 :=
  @Joint.initial 1 silentLibm (fun _ => ⟨0x20, 0x82, 3, 0, fun _ => none⟩) default 0x84

/-- The request for the identifier has been sent to `0x84`. -/
def askedJoint : Joint 1 := (startedJoint.step .ask).get (by decide +kernel)

/-- The device answers, and the constructor goes on. -/
abbrev identified : List (JointEvent 1) :=
  [.bridge (.writeDone 0 false),
    .bridge (.i2cEvent (Fin.last 0) (some (Ipmb.deviceIdResponse 0x84 0x77))), .bridge (.resume 0), .reply]

def identifiedJoint : Joint 1 :=
  (run Joint.step askedJoint identified).get (by decide +kernel)

/-- The request for the capabilities has been sent. -/
def aimedJoint : Joint 1 := (identifiedJoint.step .ask).get (by decide +kernel)

/-- No other client named an address in between. -/
theorem capabilities_aimed_undisturbed :
    (1, vsoRequest) ∈ aimedJoint.asked ∧
      aimedJoint.bridge.sent.map (fun frame => frame.call) = [some 0, some 1] ∧
      aimedJoint.Aims 0x84 := by
  let _ := silentLibm
  have first : (JointEvent.ask : JointEvent 1).Aimed 0x84 startedJoint := by
    intro waits
    exact absurd waits (by decide +kernel)
  have second : (JointEvent.ask : JointEvent 1).Aimed 0x84 identifiedJoint := by
    intro _ index _ _
    rw [Subsingleton.elim index 0]
    decide +kernel
  have between : Reach Joint.step (fun joint event => event.Aimed 0x84 joint) askedJoint
      identifiedJoint := by
    apply reach_of_run (Option.some_get _).symm
    intro event member before
    simp only [identified, List.mem_cons, List.not_mem_nil, or_false] at member
    rcases member with rfl | rfl | rfl | rfl <;> trivial
  have reach : Reach Joint.step (fun joint event => event.Aimed 0x84 joint) startedJoint
      aimedJoint :=
    .next ((Reach.next .start first (Option.some_get _).symm).trans between) second
      (Option.some_get _).symm
  exact ⟨by decide +kernel, by decide +kernel, (capabilities_aimed _ default 0x84 reach).1⟩

/-- Another client names `0x86` in between, and the request for the capabilities goes there. -/
theorem queryVsoCapabilities_misses :
    ∃ joint, run Joint.step identifiedJoint
        [.bridge (.sendRequest (Ipmb.deviceIdRequest 0x86)), .ask] = some joint ∧
      joint.asked.map Prod.fst = [0, 2] ∧ (2, vsoRequest) ∈ joint.asked ∧
      joint.bridge.sent.map (fun frame => (frame.call, Ipmb.destination frame.buffer)) =
        [(some 0, 0x84), (some 1, 0x86), (some 2, 0x86)] := by
  have seen : (run Joint.step identifiedJoint
      [.bridge (.sendRequest (Ipmb.deviceIdRequest 0x86)), .ask]).map (fun joint =>
        (joint.asked, joint.bridge.sent.map fun frame =>
          (frame.call, Ipmb.destination frame.buffer))) =
      some ([(0, ⟨0, 0x84, 0x06, 0, 0x01, []⟩), (2, vsoRequest)],
        [(some 0, 0x84), (some 1, 0x86), (some 2, 0x86)]) := by decide +kernel
  obtain ⟨joint, ran, seen⟩ := Option.map_eq_some_iff.mp seen
  simp only [Prod.mk.injEq] at seen
  exact ⟨joint, ran, by rw [seen.1]; rfl, by rw [seen.1]; decide, seen.2⟩

end Example

end Chassis
