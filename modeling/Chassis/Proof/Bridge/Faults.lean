import Chassis.Proof.Bridge.Receive

namespace Chassis.Ipmb
open Automaton

variable {count : Nat}

/-- An event with undefined behaviour: a call to a channel that is not configured, and a valid frame
of the minimum length that is a response. -/
def Event.Faults (event : Event count) (bridge : Bridge count) : Prop :=
  match event with
  | .sendRequest arguments => bridge.getChannel arguments.reqChannel = none
  | .i2cEvent _ bytes => ∃ received ∈ bytes, ShortestResponse received
  | _ => False

section Operations

variable (bridge : Bridge count) (call : Nat) (record : Call count) (index : Fin count)

theorem selectSlave_fault (addr : UInt8) :
    (bridge.selectSlave index addr).fault = bridge.fault := by
  unfold Bridge.selectSlave
  split_ifs <;> rfl

theorem nextTry_fault (attempt : Nat) :
    (bridge.nextTry call record attempt).fault = bridge.fault := by
  unfold Bridge.nextTry
  split_ifs <;> rfl

theorem requestAdd_fault : (bridge.requestAdd call record).fault = bridge.fault := by
  unfold Bridge.requestAdd
  dsimp only
  split
  · rfl
  · exact nextTry_fault _ _ _ _

theorem afterWrite_fault (attempt i2cRetryCnt : Nat) (ec : Bool) :
    (bridge.afterWrite call record attempt i2cRetryCnt ec).fault = bridge.fault := by
  unfold Bridge.afterWrite
  split_ifs <;> rfl

/-- A matched request has kept its response. -/
theorem afterWait_fault (sound : bridge.table.Sound) (attempt : Nat) (ec : WaitResult) :
    (bridge.afterWait call record attempt ec).fault = bridge.fault := by
  unfold Bridge.afterWait
  split_ifs with failed matched
  · rfl
  · obtain ⟨response, kept⟩ := Option.isSome_iff_exists.mp (sound.answered call matched)
    change (bridge.heap call).matchedResponse = some response at kept
    rw [kept]
    rfl
  · exact nextTry_fault _ _ _ _

theorem sendResponse_fault (response : IpmbResponse) :
    (bridge.sendResponse index response).fault = bridge.fault := by
  unfold Bridge.sendResponse
  split <;> rfl

theorem executeReply_fault (position : Nat) (execution : Execution count)
    (reply : Option ExecuteReply) :
    (bridge.executeReply position execution reply).fault = bridge.fault := by
  unfold Bridge.executeReply
  cases reply with
  | none => rfl
  | some reply =>
      dsimp only
      split_ifs <;> first | rfl | exact sendResponse_fault _ _ _

theorem outgoingDone_fault (position : Nat) (frame : Outgoing count) (ec : Bool) :
    (bridge.outgoingDone position frame ec).fault = bridge.fault := by
  unfold Bridge.outgoingDone
  dsimp only
  split_ifs <;> rfl

theorem updateBmcSlaveAddr_fault (reqChannel busId slaveAddr : UInt8) (opened : Bool) :
    (bridge.updateBmcSlaveAddr reqChannel busId slaveAddr opened).fault = bridge.fault := by
  unfold Bridge.updateBmcSlaveAddr
  split
  · rfl
  · dsimp only
    split_ifs <;> rfl

theorem sendBroadcast_fault (reqChannel netFn lun cmd : UInt8) (dataReceived : List UInt8) :
    (bridge.sendBroadcast reqChannel netFn lun cmd dataReceived).fault = bridge.fault := by
  unfold Bridge.sendBroadcast
  split
  · rfl
  · dsimp only
    split <;> rfl

theorem responseMatch_fault (response : IpmbResponse) :
    (bridge.responseMatch index response).fault = bridge.fault := by
  unfold Bridge.responseMatch Bridge.cancelTimer
  split
  · dsimp only
    split_ifs
    · split
      · split <;> rfl
      · rfl
    · rfl
  · rfl

theorem requestReceived_fault {frame : List UInt8} {r : Nat} {message : IpmbRequest}
    (decoded : IpmbRequest.i2cToIpmbConstruct frame r = some message) :
    (bridge.requestReceived index frame r).fault = bridge.fault := by
  unfold Bridge.requestReceived
  dsimp only
  rw [decoded]
  split_ifs
  · exact sendResponse_fault _ _ _
  · rfl

/-- A call is defined just when its channel is configured. -/
theorem ipmbHandleRequest_fault_iff {bridge : Bridge count} (running : bridge.fault = none)
    (arguments : SendRequest) : (bridge.ipmbHandleRequest arguments).fault = none ↔
      bridge.getChannel arguments.reqChannel ≠ none := by
  unfold Bridge.ipmbHandleRequest
  cases bridge.getChannel arguments.reqChannel with
  | none => simp
  | some index =>
      have selected := (selectSlave_fault bridge index arguments.addr).trans running
      refine iff_of_true ?_ nofun
      unfold Bridge.seqNumGet
      dsimp only
      split
      · exact selected
      · rw [if_neg (by simp), requestAdd_fault]
        exact selected

end Operations

section Frames

variable {bytes frame : List UInt8} {r : Nat}

/-- A response of the minimum length has a length of data that wraps around. -/
theorem IpmbResponse.undecoded (length : frame.length = 264) :
    IpmbResponse.i2cToIpmbConstruct frame ipmbMinFrameLength = none := by
  have size : sizeSub ipmbMinFrameLength (ipmbConnectionHeaderLength +
      ipmbResponseDataHeaderLength + ipmbChecksumSize) = 2 ^ 64 - 1 := by decide
  have outside : copyData frame 7 (2 ^ 64 - 1) = none := by
    unfold copyData
    exact if_neg (by omega)
  unfold IpmbResponse.i2cToIpmbConstruct
  rw [size]
  dsimp only
  rw [show copyData frame _ _ = none from outside]
  rfl

/-- The bytes of an event are processed without a fault unless they are the shortest response. -/
theorem processI2cEvent_fault_iff {bridge : Bridge count} (running : bridge.fault = none)
    (index : Fin count) (received : Option (List UInt8)) :
    (bridge.processI2cEvent index received).fault = none ↔
      ¬∃ bytes ∈ received, ShortestResponse bytes := by
  cases received with
  | none => exact iff_of_true running fun ⟨_, absent, _⟩ => nomatch absent
  | some bytes =>
      simp only [Option.mem_some_iff, exists_eq_left']
      have processed := processI2cEvent_processed bridge index (some bytes)
      generalize bridge.processI2cEvent index (some bytes) = after at processed ⊢
      cases processed with
      | dropped rejected =>
          refine iff_of_true running fun shortest => ?_
          obtain ⟨frame, accepted, _⟩ := receiveFrame_shortest shortest
          cases accepted.symm.trans rejected
      | response accepted isResponse decoded =>
          obtain ⟨message, announced⟩ := receiveFrame_decoded accepted
          obtain ⟨signals, announced⟩ := announce_eq bridge index announced
          rw [announced, responseMatch_fault]
          refine iff_of_true running fun shortest => ?_
          obtain ⟨frame, found, _⟩ := receiveFrame_shortest shortest
          cases found.symm.trans accepted
          cases decoded.symm.trans (IpmbResponse.undecoded (receiveFrame_spec found).2.2)
      | torn accepted isResponse undecoded =>
          refine iff_of_false nofun (not_not_intro ?_)
          by_contra longer
          obtain ⟨message, decoded, _⟩ := response_decodes accepted longer isResponse
          cases decoded.symm.trans undecoded
      | request accepted isRequest =>
          obtain ⟨message, decoded⟩ := receiveFrame_decoded accepted
          obtain ⟨signals, announced⟩ := announce_eq bridge index decoded
          rw [announced, requestReceived_fault _ _ decoded]
          refine iff_of_true running fun shortest => ?_
          obtain ⟨frame, found, isResponse⟩ := receiveFrame_shortest shortest
          cases found.symm.trans accepted
          cases isResponse.symm.trans isRequest

end Frames

variable {bridge after : Bridge count} {event : Event count}

/-- A step ends the process just when its event faults. -/
theorem step_fault_iff (sound : bridge.table.Sound) (taken : bridge.step event = some after) :
    after.fault = none ↔ ¬event.Faults bridge := by
  obtain ⟨running, taken⟩ := step_taken taken
  cases taken with
  | sendRequest arguments => exact ipmbHandleRequest_fault_iff running arguments
  | writeDone ec => exact iff_of_true ((afterWrite_fault _ _ _ _ _ _).trans running) not_false
  | timerDone failed => exact iff_of_true running not_false
  | resume => exact iff_of_true ((afterWait_fault _ _ _ sound _ _).trans running) not_false
  | i2cEvent index bytes => exact processI2cEvent_fault_iff running index bytes
  | executeReply reply =>
      exact iff_of_true ((executeReply_fault _ _ _ _).trans running) not_false
  | outgoingDone ec => exact iff_of_true ((outgoingDone_fault _ _ _ _).trans running) not_false
  | updateBmcSlaveAddr reqChannel busId slaveAddr opened =>
      exact iff_of_true ((updateBmcSlaveAddr_fault _ _ _ _ _).trans running) not_false
  | sendBroadcast reqChannel netFn lun cmd dataReceived =>
      exact iff_of_true ((sendBroadcast_fault _ _ _ _ _ _).trans running) not_false

/-- An event that faults leaves the calls and their requests alone. -/
theorem faults_table (taken : bridge.step event = some after) (faults : event.Faults bridge) :
    after.table = bridge.table := by
  obtain ⟨_, taken⟩ := step_taken taken
  cases taken with
  | sendRequest arguments =>
      unfold Bridge.ipmbHandleRequest
      rw [show bridge.getChannel arguments.reqChannel = none from faults]
      rfl
  | i2cEvent index bytes =>
      obtain ⟨received, rfl, shortest⟩ := faults
      obtain ⟨frame, accepted, isResponse⟩ := receiveFrame_shortest shortest
      have undecoded := IpmbResponse.undecoded (receiveFrame_spec accepted).2.2
      unfold Bridge.processI2cEvent
      rw [Option.bind_some, accepted]
      dsimp only
      rw [if_pos isResponse, undecoded]
      exact announce_table bridge index frame ipmbMinFrameLength
  | writeDone => cases faults
  | timerDone => cases faults
  | resume => cases faults
  | executeReply => cases faults
  | outgoingDone => cases faults
  | updateBmcSlaveAddr => cases faults
  | sendBroadcast => cases faults

end Chassis.Ipmb
