import Chassis.Construction.Client
import Chassis.Proof.Manager.FruControl

namespace Chassis.Ipmitool
open Effect Program Vita4611

/-- The command has set the flag of the device, and no device is reset. -/
structure Activates (fruId command : UInt8) (run : Run interface ChassisManager Int) : Prop where
  flag : ∃ device, run.state.deviceMap fruId = some (some device) ∧
    device.fruActivationFlag = command
  spared : ∀ entry ∈ run.calls, ∀ arguments, entry.op = .sendRequest arguments →
    isReset arguments = false

section Activation

variable {manager : ChassisManager} {device : Vita4611Device} {fruId command : UInt8}

/-- The chassis manager reads the client's message as a FRU Control command. -/
theorem run_passthrough_control (environment : Environment interface) (position : Nat)
    {channel reset : UInt8}
    (selected : selectChannel manager.mIpmbAEnable manager.mIpmbBEnable = some channel)
    (found : manager.deviceMap fruId = some (some device))
    (chosen : resetCommand command = some reset) :
    (executePassthroughCmd [chmcIpmiAddress, netfnVita4611, 0, vita4611FruControl, fruId,
      command]).run environment manager position = ⟨.value (responseSuccess [0x03]), manager,
        [⟨manager, .sendRequest (resetRequest reset),
          environment position (.sendRequest (resetRequest reset))⟩]⟩ := by
  set reqdata := [chmcIpmiAddress, netfnVita4611, 0, vita4611FruControl, fruId, command] with spelled
  have long : 6 ≤ reqdata.length := Nat.le_refl 6
  have short : ¬reqdata.length < 4 := by omega
  have handled := run_fruControl environment position long found
  rw [← run_handleChmCommand environment position long rfl rfl,
    show reqdata.getD 5 0 = command from rfl, controlReply_of_reset chosen, chosen] at handled
  have addressed : reqdata.getD 0 0 = chmcIpmiAddress := rfl
  simp (disch := omega) only [executePassthroughCmd, run_bind, run_read, Run.andThen, selected,
    run_ite, short, if_false, run_reqByte, addressed, if_true, List.length_nil, Nat.add_zero,
    List.nil_append, handled]
  rfl

variable {intf : IpmiIntf} {argument : List Char}

/-- The message of the client reaches the chassis manager as it stands. -/
theorem run_activation (environment : Environment interface) (position : Nat)
    (addressed : intf.address = chmcIpmiAddress) (spelled : isFruId argument = some fruId) :
    (ipmiVitaSetFruActivation intf argument command).run environment manager position =
      ((executePassthroughCmd [chmcIpmiAddress, netfnVita4611, 0, vita4611FruControl, fruId,
        command]).run environment manager position).andThen fun rsp after =>
          ⟨.value (responseStatus rsp), after, []⟩ := by
  have sent : (activationRequest intf fruId command).data =
      [chmcIpmiAddress, netfnVita4611, 0, vita4611FruControl, fruId, command] :=
    congrArg (· :: _) addressed
  unfold ipmiVitaSetFruActivation sendrecv
  rw [spelled]
  dsimp only
  rw [run_bind, sent]
  rfl

/-- The client's command does what it says only when the chassis manager refuses it and the flag has
the wanted value already. -/
theorem activation_sets_iff (environment : Environment interface) (position : Nat)
    (addressed : intf.address = chmcIpmiAddress) (spelled : isFruId argument = some fruId)
    (directive : command = 0 ∨ command = 1) (found : manager.deviceMap fruId = some (some device)) :
    Activates fruId command
        ((ipmiVitaSetFruActivation intf argument command).run environment manager position) ↔
      selectChannel manager.mIpmbAEnable manager.mIpmbBEnable = none ∧
        device.fruActivationFlag = command := by
  rw [run_activation environment position addressed spelled]
  obtain ⟨reset, chosen⟩ : ∃ reset, resetCommand command = some reset := by
    rcases directive with rfl | rfl
    · exact ⟨0x02, rfl⟩
    · exact ⟨0x03, rfl⟩
  cases selected : selectChannel manager.mIpmbAEnable manager.mIpmbBEnable with
  | none =>
      have refused : (executePassthroughCmd [chmcIpmiAddress, netfnVita4611, 0, vita4611FruControl,
          fruId, command]).run environment manager position =
          ⟨.value responseIllegalCommand, manager, []⟩ := by
        simp only [executePassthroughCmd, run_bind, run_read, Run.andThen, selected, run_pure,
          List.append_nil]
      rw [refused]
      constructor
      · intro activates
        obtain ⟨other, present, flag⟩ := activates.flag
        cases found.symm.trans present
        exact ⟨rfl, flag⟩
      · intro holds
        exact ⟨⟨device, found, holds.2⟩, fun entry member => by cases member⟩
  | some channel =>
      rw [run_passthrough_control environment position selected found chosen]
      constructor
      · intro activates
        have spared := activates.spared _ (List.mem_singleton_self _) (resetRequest reset) rfl
        rw [resetRequest_resets chosen] at spared
        cases spared
      · intro holds
        cases holds.1

/-- The user names no target address. -/
abbrev localIntf : IpmiIntf := ⟨false, 0⟩

/-- Set IPMB State has turned both links off. -/
def closedManager : ChassisManager :=
  (@Event.run silentLibm ⟨.passthrough [0x40, 0x2c, 0, 0x09, 0, 0], loneModule⟩ loneManager).state

/-- A refused command keeps a flag that is zero already. -/
theorem activation_sets_refused :
    Activates 1 0 ((ipmiVitaSetFruActivation localIntf ['1'] 0).run loneModule closedManager 0) := by
  have seen : (closedManager.deviceMap 1).map (fun slot => slot.map fun device =>
      device.fruActivationFlag) = some (some 0) := by decide +kernel
  obtain ⟨slot, present, seen⟩ := Option.map_eq_some_iff.mp seen
  obtain ⟨device, rfl, flag⟩ := Option.map_eq_some_iff.mp seen
  have closed : selectChannel closedManager.mIpmbAEnable closedManager.mIpmbBEnable = none := by
    decide +kernel
  have spelled : isFruId ['1'] = some 1 := by decide +kernel
  exact (activation_sets_iff loneModule 0 rfl spelled (.inl rfl) present).mpr ⟨closed, flag⟩

/-- The activation of module 1 resets the device at `0x8a`, keeps the flag at zero, and is reported as
done. -/
theorem activate_resets :
    @Started silentLibm loneManager ∧ isFruId ['1'] = some 1 ∧
      ((ipmiVitaSetFruActivation localIntf ['1'] 1).run loneModule loneManager 0).outcome = .value 0 ∧
      ((ipmiVitaSetFruActivation localIntf ['1'] 1).run loneModule loneManager 0).calls.map
        (fun entry => entry.op) = [.sendRequest (resetRequest 0x03)] ∧
      ¬Activates 1 1
        ((ipmiVitaSetFruActivation localIntf ['1'] 1).run loneModule loneManager 0) := by
  have sent : ((ipmiVitaSetFruActivation localIntf ['1'] 1).run loneModule loneManager 0).calls.map
      (fun entry => entry.op) = [.sendRequest (resetRequest 0x03)] := by decide +kernel
  refine ⟨loneManager_started, by decide +kernel, by decide +kernel, sent, ?_⟩
  intro activates
  obtain ⟨entry, member, op⟩ :=
    List.mem_map.mp (show _ ∈ _ from sent.symm ▸ List.mem_singleton_self _)
  exact absurd (activates.spared entry member _ op) (by decide)

end Activation

end Chassis.Ipmitool
