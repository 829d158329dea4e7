import Chassis.Proof.Manager.System

namespace Chassis.Vita4611
open Effect Program Automaton

variable {reqdata : List UInt8}

/-- A reply with any byte starts with the identifier of the standard. -/
def Identified (reply : List UInt8) : Prop :=
  reply ≠ [] → reply.head? = some vita4611VsoIdentifier

theorem identified_nil : Identified [] := fun some => absurd rfl some

theorem identified_cons (rest : List UInt8) : Identified (0x03 :: rest) := fun _ => rfl

section Handlers

theorem getAddTable_identified : Returns Identified (getAddTable reqdata) := by
  apply returns_ite (fun _ => returns_pure identified_nil)
  intro _
  apply returns_bind
  intro fruDevId
  apply returns_bind
  intro addrKeyType
  apply returns_bind
  intro addrKey
  apply returns_bind
  intro siteType
  apply returns_bind
  intro manager
  refine returns_ite (fun _ => returns_pure identified_nil) fun _ => ?_
  refine returns_ite (fun _ => returns_bind fun _ => returns_pure (identified_cons _)) fun _ => ?_
  apply returns_bind
  intro found
  refine returns_ite (fun _ => ?_) fun _ => returns_bind fun _ => returns_pure (identified_cons _)
  apply returns_bind
  intro device
  apply returns_bind
  rintro ⟨_ | response, _⟩
  · exact returns_bind fun _ => returns_pure (identified_cons _)
  · exact returns_bind fun _ => returns_pure (identified_cons _)

theorem withArgument_identified {handler : UInt8 → Program interface ChassisManager (List UInt8)}
    (identified : ∀ argument, Returns Identified (handler argument)) :
    Returns Identified (withArgument reqdata handler) :=
  returns_ite (fun _ => returns_bind identified) fun _ => returns_pure identified_nil

theorem getChassisManagerIpAddresses_identified (addrNum : UInt8) :
    Returns Identified (getChassisManagerIpAddresses addrNum) :=
  returns_bind fun _ => returns_ite (fun _ => returns_pure identified_nil)
    fun _ => returns_pure (identified_cons _)

theorem getChassisIdentifier_identified : Returns Identified getChassisIdentifier :=
  returns_bind fun _ => returns_pure (identified_cons _)

theorem setChassisIdentifier_identified : Returns Identified (setChassisIdentifier reqdata) := by
  apply returns_bind
  intro chIdentifier
  apply returns_bind
  intro chIdField
  apply returns_ite (fun _ => returns_pure identified_nil)
  exact fun _ => returns_bind fun _ => returns_pure (identified_cons _)

theorem fruControl_identified : Returns Identified (fruControl reqdata) := by
  apply returns_ite (fun _ => returns_pure identified_nil)
  intro _
  apply returns_bind
  intro fruDevId
  apply returns_bind
  intro fruControlByte
  apply returns_bind
  intro device
  refine returns_ite (fun _ => returns_bind fun _ => returns_pure (identified_cons _)) fun _ => ?_
  refine returns_ite (fun _ => returns_bind fun _ => returns_pure (identified_cons _)) fun _ => ?_
  exact returns_ite (fun _ => returns_pure (identified_cons _)) fun _ => returns_pure identified_nil

theorem setIpmbState_identified : Returns Identified (setIpmbState reqdata) := by
  apply returns_ite (fun _ => returns_pure identified_nil)
  intro _
  apply returns_bind
  intro ipmbAState
  apply returns_bind
  intro ipmbBState
  exact returns_bind fun _ => returns_pure (identified_cons _)

theorem setFruStatePolicyBits_identified : Returns Identified (setFruStatePolicyBits reqdata) := by
  apply returns_ite (fun _ => returns_pure identified_nil)
  intro _
  apply returns_bind
  intro fruDevId
  apply returns_bind
  intro fruMaskBits
  apply returns_bind
  intro fruPolicyBits
  apply returns_bind
  intro manager
  apply returns_ite (fun _ => returns_pure identified_nil)
  intro _
  apply returns_bind
  intro found
  apply returns_bind
  intro device
  exact returns_bind fun _ => returns_pure (identified_cons _)

theorem getFruStatePolicyBits_identified (devId : UInt8) :
    Returns Identified (getFruStatePolicyBits devId) := by
  apply returns_bind
  intro manager
  apply returns_ite (fun _ => returns_pure identified_nil)
  intro _
  apply returns_bind
  intro found
  exact returns_bind fun _ => returns_pure (identified_cons _)

theorem setFruActivation_identified : Returns Identified (setFruActivation reqdata) := by
  apply returns_ite (fun _ => returns_pure identified_nil)
  intro _
  apply returns_bind
  intro devId
  apply returns_bind
  intro fruDirective
  apply returns_bind
  intro manager
  apply returns_ite (fun _ => returns_pure identified_nil)
  intro _
  apply returns_bind
  intro found
  refine returns_ite (fun _ => ?_) fun _ => returns_pure identified_nil
  exact returns_bind fun _ => returns_bind fun _ => returns_pure (identified_cons _)

theorem getDeviceLocatorRecordId_identified :
    Returns Identified (getDeviceLocatorRecordId reqdata) := by
  apply returns_ite (fun _ => returns_pure identified_nil)
  intro _
  apply returns_bind
  intro devId
  apply returns_bind
  intro manager
  apply returns_ite (fun _ => returns_pure identified_nil)
  intro _
  apply returns_bind
  intro found
  exact returns_bind fun _ => returns_pure (identified_cons _)

theorem getFanSpeedProperties_identified : Identified (getFanSpeedProperties reqdata) := by
  unfold getFanSpeedProperties
  split
  · exact identified_nil
  · exact identified_cons _

theorem setFanLevel_identified : Returns Identified (setFanLevel reqdata) := by
  apply returns_ite (fun _ => returns_pure identified_nil)
  intro _
  apply returns_bind
  intro fanLevel
  apply returns_bind
  intro localControlEnableState
  apply returns_ite
  · exact fun _ => returns_bind fun _ => returns_pure (identified_cons _)
  · exact fun _ => returns_bind fun _ => returns_pure (identified_cons _)

theorem getFanLevel_identified : Returns Identified (getFanLevel reqdata) := by
  apply returns_ite (fun _ => returns_pure identified_nil)
  intro _
  apply returns_bind
  intro target
  exact returns_bind fun _ => returns_pure (identified_cons _)

theorem setFanPolicy_identified : Returns Identified (setFanPolicy reqdata) := by
  apply returns_ite (fun _ => returns_pure identified_nil)
  intro _
  apply returns_bind
  intro traySiteNum
  apply returns_bind
  intro fanEnableState
  apply returns_bind
  intro fanPolicyTimeout
  refine returns_ite (fun _ => returns_pure identified_nil) fun _ => ?_
  refine returns_ite (fun _ => returns_pure identified_nil) fun _ => ?_
  apply returns_bind
  intro _
  apply returns_ite
  · exact fun _ => returns_bind fun _ => returns_pure (identified_cons _)
  · exact fun _ => returns_bind fun _ => returns_pure (identified_cons _)

theorem getFanPolicy_identified : Returns Identified (getFanPolicy reqdata) := by
  apply returns_ite (fun _ => returns_pure identified_nil)
  intro _
  apply returns_bind
  intro traySiteNumber
  apply returns_bind
  intro siteNumber
  apply returns_bind
  intro siteType
  apply returns_ite
  · exact fun _ => returns_bind fun _ => returns_bind fun _ => returns_pure (identified_cons _)
  · exact fun _ => returns_bind fun _ => returns_bind fun _ => returns_pure (identified_cons _)

theorem getFruAddressInfo_identified : Returns Identified (getFruAddressInfo reqdata) := by
  refine returns_ite (fun _ => returns_pure identified_nil) fun _ => ?_
  refine returns_ite (fun _ => returns_pure (identified_cons _)) fun _ => ?_
  apply returns_bind
  intro fruDevId
  apply returns_bind
  intro addrKeyType
  apply returns_bind
  intro addrKey
  apply returns_bind
  intro siteType
  refine returns_ite (fun _ => returns_pure identified_nil) fun _ => ?_
  refine returns_ite (fun _ => returns_pure identified_nil) fun _ => ?_
  refine returns_ite (fun _ => ?_) fun _ => returns_pure (identified_cons _)
  apply returns_bind
  intro manager
  exact returns_bind fun _ => returns_pure (identified_cons _)

/-- Every case of the dispatcher but the first puts the identifier in front. -/
theorem chmHandler_identified {cmd : UInt8} (other : cmd ≠ vita4611GetVsoCapsCmd) :
    Returns Identified (chmHandler reqdata cmd) := by
  refine returns_ite (fun caps => absurd caps other) fun _ => ?_
  refine returns_ite (fun _ => getAddTable_identified) fun _ => ?_
  refine returns_ite
    (fun _ => withArgument_identified getChassisManagerIpAddresses_identified) fun _ => ?_
  refine returns_ite (fun _ => getChassisIdentifier_identified) fun _ => ?_
  refine returns_ite (fun _ => setChassisIdentifier_identified) fun _ => ?_
  refine returns_ite (fun _ => fruControl_identified) fun _ => ?_
  refine returns_ite (fun _ => setIpmbState_identified) fun _ => ?_
  refine returns_ite (fun _ => setFruStatePolicyBits_identified) fun _ => ?_
  refine returns_ite (fun _ => withArgument_identified getFruStatePolicyBits_identified) fun _ => ?_
  refine returns_ite (fun _ => setFruActivation_identified) fun _ => ?_
  refine returns_ite (fun _ => getDeviceLocatorRecordId_identified) fun _ => ?_
  refine returns_ite (fun _ => returns_pure getFanSpeedProperties_identified) fun _ => ?_
  refine returns_ite (fun _ => setFanLevel_identified) fun _ => ?_
  refine returns_ite (fun _ => getFanLevel_identified) fun _ => ?_
  refine returns_ite (fun _ => setFanPolicy_identified) fun _ => ?_
  refine returns_ite (fun _ => getFanPolicy_identified) fun _ => ?_
  refine returns_ite (fun _ => returns_pure (identified_cons _)) fun _ => ?_
  refine returns_ite (fun _ => getFruAddressInfo_identified) fun _ => ?_
  exact returns_ite (fun _ => getDeviceLocatorRecordId_identified)
    fun _ => returns_pure identified_nil

end Handlers

/-- The request asks the chassis manager for its own capabilities. -/
def AsksCapabilities (reqdata : List UInt8) : Prop :=
  4 ≤ reqdata.length ∧ IsCommand reqdata vita4611GetVsoCapsCmd

/-- The capabilities are the whole reply. -/
theorem run_capabilities (asks : AsksCapabilities reqdata) (environment : Environment interface)
    (manager : ChassisManager) (position : Nat) :
    ((handleChmCommand reqdata).run environment manager position).outcome =
      .value getShmcVsoCaps := by
  rw [run_command asks.2 asks.1]
  rfl

theorem handleChmCommand_identified (other : ¬AsksCapabilities reqdata)
    (manager : ChassisManager) :
    (handleChmCommand reqdata).pre (fun _ _ => True)
      ⟨fun reply _ => Identified reply, fun _ _ => True, fun _ _ => True⟩ manager := by
  by_cases long : 4 ≤ reqdata.length
  · rw [pre_handleChmCommand long]
    apply ite_intro (fun _ => identified_nil)
    intro netFn
    apply Returns.pre
    apply chmHandler_identified
    exact fun code => other ⟨long, not_not.mp netFn, code⟩
  · exact pre_handleChmCommand_short (by omega) trivial

/-- Every reply starts with the identifier, except that of Get VSO Capabilities. -/
theorem reply_identified_iff (manager : ChassisManager) (reqdata : List UInt8)
    (environment : Environment interface) :
    (∀ reply, ((handleChmCommand reqdata).run environment manager 0).outcome = .value reply →
      Identified reply) ↔ ¬AsksCapabilities reqdata := by
  constructor
  · intro identified asks
    have starts := identified _ (run_capabilities asks environment manager 0) (List.cons_ne_nil _ _)
    cases starts
  · intro other reply returned
    have ended := (pre_sound _ environment manager 0 (handleChmCommand_identified other manager)).2
    rw [returned] at ended
    exact ended

/-- The reply with the capabilities starts with the identifier of the controller. -/
theorem reply_unidentified : ¬∀ (_ : Libm) (start : ChassisManager) (system : System),
    Started start → Reachable System.step ⟨start, none⟩ system →
    ∀ reqdata environment reply,
      ((handleChmCommand reqdata).run environment system.manager 0).outcome = .value reply →
      Identified reply := by
  intro always
  have asks : AsksCapabilities [0x40, 0x2c, 0, 0] := ⟨by decide, by decide⟩
  let system : System := ⟨loneManager, none⟩
  have ran := run_capabilities asks loneModule system.manager 0
  have starts := always silentLibm loneManager system loneManager_started .start
    [0x40, 0x2c, 0, 0] loneModule getShmcVsoCaps ran
  have first := starts (List.cons_ne_nil _ _)
  exact absurd first (by decide)

end Chassis.Vita4611
