import Chassis.Construction.Joint
import Chassis.Proof.Bridge.Attribution

namespace Chassis
open Effect Automaton Vita4611

variable {count : Nat} {bridge : Ipmb.Bridge count}

/-- No call returns the status of a success without a response. -/
theorem returned_ne_success {channels : Fin count → Ipmb.IpmbChannel}
    (reachable : Reachable Ipmb.Bridge.step (.initial channels) bridge) {call : Nat}
    {record : Ipmb.Call count} (present : bridge.calls call = some record) :
    record.status ≠ .returned (.status .success) := by
  refine reachable.invariant (fun bridge => ∀ call record, bridge.calls call = some record →
    record.status ≠ .returned (.status .success)) (fun _ _ => nofun) ?_ call record present
  intro before event after kept _ taken call record present
  cases (Ipmb.step_table taken).fate present with
  | untouched old => exact kept call record old
  | rejected => simp
  | stranded => simp
  | admitted => simp
  | moved => simp
  | answered arrived heard held agrees old woken =>
      rcases woken with rfl | ⟨_, _, _, rfl⟩
      · exact kept call _ old
      · simp
  | finished old suspended settled =>
      rcases settled with rfl | rfl | ⟨response, rfl, _⟩ <;> simp

/-- One request of the chassis manager, with the arguments of the bridge's method. -/
def request {State : Type} (arguments : Ipmb.SendRequest) :
    Program interface State (Option Ipmb.SendRequestReply × Option UInt8) :=
  sendIpmbRequest arguments.reqChannel arguments.addr arguments.netfn arguments.lun arguments.cmd
    arguments.dataReceived

/-- The caller gets a value exactly for a successful status with completion code zero. -/
def Classifies {State : Type}
    (run : Run interface State (Option Ipmb.SendRequestReply × Option UInt8))
    (reply : Ipmb.SendRequestReply) : Prop :=
  ∃ value, run.outcome = .value value ∧
    (value.1.isSome = true ↔
      reply.status = Ipmb.IpmbResponseStatus.success.code ∧ reply.cc = 0)

theorem run_request {State : Type} (arguments : Ipmb.SendRequest)
    (environment : Environment interface) (state : State) (position : Nat) :
    ((request arguments).run environment state position).outcome =
      .value (readReply (environment position (.sendRequest arguments))) := rfl

theorem readReply_isSome (reply : Ipmb.SendRequestReply) :
    (readReply (.reply reply)).1.isSome = true ↔ reply.cc = 0 := by
  simp only [readReply]
  split_ifs with zero
  · simp [zero]
  · simp [zero]

theorem code_eq_success (status : Ipmb.IpmbResponseStatus) :
    status.code = Ipmb.IpmbResponseStatus.success.code ↔ status = .success := by
  cases status <;> decide

/-- No call of a bridge returns a bare success, and for every other outcome the caller gets the
value it should exactly when the outcome is a matched response. -/
theorem sendIpmbRequest_classifies_iff {State : Type} {channels : Fin count → Ipmb.IpmbChannel}
    (reachable : Reachable Ipmb.Bridge.step (.initial channels) bridge) :
    (∀ call record, bridge.calls call = some record →
        record.status ≠ .returned (.status .success)) ∧
      ∀ (arguments : Ipmb.SendRequest) (outcome : Ipmb.RequestOutcome)
        (environment : Environment interface) (state : State) (position : Nat),
        outcome ≠ .status .success →
        environment position (.sendRequest arguments) = DBusReply.reply outcome.reply →
        (Classifies ((request arguments).run environment state position) outcome.reply ↔
          ∃ response, outcome = .matched response) := by
  refine ⟨fun call record present => returned_ne_success reachable present, ?_⟩
  intro arguments outcome environment state position genuine answered
  have value : Classifies ((request arguments).run environment state position) outcome.reply ↔
      (outcome.reply.cc = 0 ↔ outcome.reply.status = Ipmb.IpmbResponseStatus.success.code ∧
        outcome.reply.cc = 0) := by
    unfold Classifies
    rw [run_request, answered]
    simp only [Outcome.value.injEq, exists_eq_left', readReply_isSome]
  rw [value]
  cases outcome with
  | matched response =>
      have success : (Ipmb.RequestOutcome.matched response).reply.status =
        Ipmb.IpmbResponseStatus.success.code := rfl
      simp only [success, true_and, Ipmb.RequestOutcome.matched.injEq, exists_eq']
  | status code =>
      have failed : (Ipmb.RequestOutcome.status code).reply.status ≠
          Ipmb.IpmbResponseStatus.success.code := fun same =>
        genuine (congrArg Ipmb.RequestOutcome.status ((code_eq_success code).mp same))
      have zero : (Ipmb.RequestOutcome.status code).reply.cc = 0 := rfl
      simp only [failed, zero, false_and, reduceCtorEq, exists_false, true_iff]

/-- The delivered response of the served bridge reaches the caller as it should. -/
theorem sendIpmbRequest_classifies_served :
    ∃ record response, Ipmb.servedBridge.calls 0 = some record ∧
      record.status = .returned (.matched response) ∧
      Classifies ((request record.arguments).run
        (fun _ => replying (.reply (Ipmb.RequestOutcome.matched response).reply))
        (default : Vita4611Device) 0) (Ipmb.RequestOutcome.matched response).reply := by
  obtain ⟨record, present, returned⟩ := Option.map_eq_some_iff.mp Ipmb.servedBridge_status
  exact ⟨record, _, present, returned,
    ((sendIpmbRequest_classifies_iff Ipmb.servedBridge_reach.reachable).2 record.arguments
      (.matched _) _ _ 0 nofun rfl).mpr ⟨_, rfl⟩⟩

/-- The call writes its request six times and no response comes. -/
abbrev unanswered : List (Ipmb.Event 1) :=
  .sendRequest (Ipmb.deviceIdRequest 0x82) ::
    (List.replicate 6 [.writeDone 0 false, .timerDone 0 false, .resume 0]).flatten

/-- A call that timed out reaches the caller as a value with an empty payload. -/
theorem sendIpmbRequest_returns_timeout :
    ∃ bridge, run Ipmb.Bridge.step Ipmb.loneBridge unanswered = some bridge ∧
      (bridge.calls 0).map Ipmb.Call.status = some (.returned (.status .timeout)) ∧
      ((request (Ipmb.deviceIdRequest 0x82)).run
        (fun _ => replying (.reply (Ipmb.RequestOutcome.status .timeout).reply))
        (default : Vita4611Device) 0).outcome = .value (some ⟨4, 0, 0, 0, 0, []⟩, some 0) := by
  have seen : (run Ipmb.Bridge.step Ipmb.loneBridge unanswered).map
      (fun bridge => (bridge.calls 0).map Ipmb.Call.status) =
      some (some (.returned (.status .timeout))) := by decide +kernel
  obtain ⟨bridge, ran, seen⟩ := Option.map_eq_some_iff.mp seen
  exact ⟨bridge, ran, seen, rfl⟩

end Chassis
