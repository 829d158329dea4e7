import Chassis.Proof.Manager.System

namespace Chassis.Vita4611
open Effect Program Automaton

/-- An invariant of the manager that no single change of a running manager breaks. -/
structure ManagerRules (invariant : ChassisManager → Prop) : Prop where
  devices : ∀ manager key device, invariant manager → invariant (manager.setDevice key device)
  identifier : ∀ manager idType field, invariant manager →
    invariant { manager with chassisAddressTable := { manager.chassisAddressTable with
      chassisIdType := idType
      chassisIdField := field } }
  links : ∀ manager ipmbAState ipmbBState, invariant manager →
    invariant (applyIpmbState manager ipmbAState ipmbBState)
  timer : ∀ manager fanRestartTimer, invariant manager →
    invariant { manager with fanRestartTimer := fanRestartTimer }

namespace ManagerRules

variable {invariant : ChassisManager → Prop} {reqdata : List UInt8}

/-- A program keeps the invariant at each of its endings. -/
abbrev Kept {Value : Type} (invariant : ChassisManager → Prop)
    (program : Program interface ChassisManager Value) : Prop :=
  Keeps (fun _ _ => True) invariant (fun _ => True) program

section Calls

theorem reqByte (index : Nat) : Kept invariant (Vita4611.reqByte reqdata index) := by
  unfold Vita4611.reqByte
  split
  · exact keeps_pure _
  · exact keeps_fault trivial

theorem reqRange (first : Nat) : Kept invariant (Vita4611.reqRange reqdata first) :=
  keeps_ite (fun _ => keeps_pure _) fun _ => keeps_fault trivial

theorem sendIpmbRequest (channel addr netfn lun cmd : UInt8) (data : List UInt8) :
    Kept invariant (Vita4611.sendIpmbRequest channel addr netfn lun cmd data) :=
  keeps_bind (keeps_ask fun _ _ => trivial) fun _ => keeps_pure _

theorem derefDevice (device : Option Vita4611Device) :
    Kept invariant (Vita4611.derefDevice device) := by
  cases device with
  | none => exact keeps_fault trivial
  | some device => exact keeps_pure _

theorem derefAssigned (found : Option (Option Vita4611Device)) :
    Kept invariant (Vita4611.derefAssigned found) := by
  cases found with
  | none => exact keeps_fault trivial
  | some device => exact derefDevice device

theorem dbusCall (op : Op) (answer : op.Answer → Bool) :
    Kept invariant (Vita4611.dbusCall op answer) := by
  apply keeps_bind (keeps_ask fun _ _ => trivial)
  intro result
  cases answer result with
  | true => exact keeps_pure _
  | false => exact keeps_throw _

theorem isServiceActive : Kept invariant Vita4611.isServiceActive :=
  keeps_bind (keeps_ask fun _ _ => trivial) fun _ => keeps_pure _

theorem withArgument {handler : UInt8 → Program interface ChassisManager (List UInt8)}
    (kept : ∀ argument, Kept invariant (handler argument)) :
    Kept invariant (Vita4611.withArgument reqdata handler) :=
  keeps_ite (fun _ => keeps_bind (reqByte _) kept) fun _ => keeps_pure _

theorem getAddTable : Kept invariant (Vita4611.getAddTable reqdata) := by
  apply keeps_ite (fun _ => keeps_pure _)
  intro _
  apply keeps_bind (reqByte _)
  intro fruDevId
  apply keeps_bind (reqByte _)
  intro addrKeyType
  apply keeps_bind (reqByte _)
  intro addrKey
  apply keeps_bind (reqByte _)
  intro siteType
  apply keeps_read
  intro manager _
  refine keeps_ite (fun _ => keeps_pure _) fun _ => ?_
  refine keeps_ite (fun _ => keeps_bind (derefDevice _) fun _ => keeps_pure _) fun _ => ?_
  apply keeps_bind
  · exact keeps_read fun _ _ => keeps_ite (fun _ => keeps_pure _)
      fun _ => keeps_ite (fun _ => keeps_pure _) fun _ => keeps_pure _
  · intro found
    have own : Kept invariant (do
        let device ← Vita4611.derefAssigned found
        Pure.pure (0x03 :: addressInfo device)) :=
      keeps_bind (derefAssigned found) fun _ => keeps_pure _
    refine keeps_ite (fun _ => ?_) fun _ => own
    apply keeps_bind (derefAssigned found)
    intro device
    apply keeps_bind (sendIpmbRequest _ _ _ _ _ _)
    rintro ⟨_ | response, _⟩
    · exact own
    · apply keeps_bind
      · unfold payloadByte
        split
        · exact keeps_pure _
        · exact keeps_fault trivial
      · exact fun _ => keeps_pure _

theorem getFanLevel : Kept invariant (Vita4611.getFanLevel reqdata) := by
  apply keeps_ite (fun _ => keeps_pure _)
  intro _
  apply keeps_bind (keeps_ask fun _ _ => trivial)
  intro target
  exact keeps_bind isServiceActive fun _ => keeps_pure _

theorem setFanLevel : Kept invariant (Vita4611.setFanLevel reqdata) := by
  apply keeps_ite (fun _ => keeps_pure _)
  intro _
  apply keeps_bind (reqByte _)
  intro fanLevel
  apply keeps_bind (reqByte _)
  intro localControlEnableState
  apply keeps_ite
  · intro _
    apply keeps_bind
    · exact keeps_tryCatch (keeps_bind (dbusCall _ _) fun _ => dbusCall _ _) fun _ => keeps_pure _
    · exact fun _ => keeps_pure _
  · intro _
    exact keeps_bind (keeps_tryCatch (dbusCall _ _) fun _ => keeps_pure _) fun _ => keeps_pure _

theorem getFanPolicy : Kept invariant (Vita4611.getFanPolicy reqdata) := by
  have covered (active : Bool) (coverage : UInt8 → UInt8) : Kept invariant (do
      let junk ← indeterminate
      Pure.pure [0x03, if active then 1 else 0, coverage junk.byte]) :=
    keeps_bind (keeps_ask fun _ _ => trivial) fun _ => keeps_pure _
  apply keeps_ite (fun _ => keeps_pure _)
  intro _
  apply keeps_bind (reqByte _)
  intro traySiteNumber
  apply keeps_bind (reqByte _)
  intro siteNumber
  apply keeps_bind (reqByte _)
  intro siteType
  apply keeps_ite
  · exact fun _ => keeps_bind isServiceActive fun active => covered active _
  · exact fun _ => keeps_bind (keeps_pure _) fun active => covered active _

theorem getFruAddressInfo : Kept invariant (Vita4611.getFruAddressInfo reqdata) := by
  refine keeps_ite (fun _ => keeps_pure _) fun _ => ?_
  refine keeps_ite (fun _ => keeps_pure _) fun _ => ?_
  apply keeps_bind (reqByte _)
  intro fruDevId
  apply keeps_bind (reqByte _)
  intro addrKeyType
  apply keeps_bind (reqByte _)
  intro addrKey
  apply keeps_bind (reqByte _)
  intro siteType
  refine keeps_ite (fun _ => keeps_pure _) fun _ => ?_
  refine keeps_ite (fun _ => keeps_pure _) fun _ => ?_
  refine keeps_ite (fun _ => ?_) fun _ => keeps_pure _
  apply keeps_read
  intro manager _
  exact keeps_bind (derefDevice _) fun _ => keeps_pure _

/-- A failed request keeps its completion code. -/
theorem responseWithCode (cc : Option UInt8) : Kept invariant (Vita4611.responseWithCode cc) := by
  cases cc with
  | some cc => exact keeps_pure _
  | none => exact keeps_bind (keeps_ask fun _ _ => trivial) fun _ => keeps_pure _

theorem forwardVita (ch ipmiAddress lun cmd : UInt8) (known : Bool) (arguments : List UInt8) :
    Kept invariant (Vita4611.forwardVita ch ipmiAddress lun cmd known arguments) := by
  refine keeps_ite (fun _ => ?_) fun _ => keeps_pure _
  apply keeps_bind (sendIpmbRequest _ _ _ _ _ _)
  rintro ⟨_ | answer, cc⟩
  · exact keeps_ite (fun _ => keeps_pure _) fun _ => responseWithCode cc
  · exact keeps_pure _

theorem forwardIpmi (ch ipmiAddress netFn lun cmd : UInt8) (known : Bool)
    (arguments : List UInt8) :
    Kept invariant (Vita4611.forwardIpmi ch ipmiAddress netFn lun cmd known arguments) := by
  refine keeps_ite (fun _ => ?_) fun _ => keeps_pure _
  apply keeps_bind (sendIpmbRequest _ _ _ _ _ _)
  rintro ⟨_ | answer, cc⟩
  · exact responseWithCode cc
  · exact keeps_pure _

end Calls

section Changes

variable (rules : ManagerRules invariant)
include rules

theorem deviceMapAt (key : UInt8) : Kept invariant (Vita4611.deviceMapAt key) := by
  apply keeps_read
  intro manager _
  cases manager.deviceMap key with
  | some device => exact keeps_pure _
  | none => exact keeps_bind (keeps_modify fun _ => rules.devices _ _ _) fun _ => keeps_pure _

theorem setChassisIdentifier : Kept invariant (Vita4611.setChassisIdentifier reqdata) := by
  apply keeps_bind (reqByte _)
  intro chIdentifier
  apply keeps_bind (reqRange _)
  intro chIdField
  apply keeps_ite (fun _ => keeps_pure _)
  intro _
  exact keeps_bind (keeps_modify fun _ => rules.identifier _ _ _) fun _ => keeps_pure _

theorem fruControl : Kept invariant (Vita4611.fruControl reqdata) := by
  have reset (device : Option Vita4611Device) (cmd : UInt8) :
      Kept invariant (sendReset device cmd) := by
    cases device with
    | none => exact keeps_pure _
    | some device => exact keeps_bind (sendIpmbRequest _ _ _ _ _ _) fun _ => keeps_pure _
  apply keeps_ite (fun _ => keeps_pure _)
  intro _
  apply keeps_bind (reqByte _)
  intro fruDevId
  apply keeps_bind (reqByte _)
  intro fruControlByte
  apply keeps_bind (rules.deviceMapAt _)
  intro device
  refine keeps_ite (fun _ => keeps_bind (reset device _) fun _ => keeps_pure _) fun _ => ?_
  refine keeps_ite (fun _ => keeps_bind (reset device _) fun _ => keeps_pure _) fun _ => ?_
  exact keeps_ite (fun _ => keeps_pure _) fun _ => keeps_pure _

theorem setIpmbState : Kept invariant (Vita4611.setIpmbState reqdata) := by
  apply keeps_ite (fun _ => keeps_pure _)
  intro _
  apply keeps_bind (reqByte _)
  intro ipmbAState
  apply keeps_bind (reqByte _)
  intro ipmbBState
  exact keeps_bind (keeps_modify fun _ => rules.links _ _ _) fun _ => keeps_pure _

/-- The handlers that look a device up and use it change at most this device. -/
theorem usingDevice {Value : Type} (key : UInt8) (nothing : Value)
    {use : Option Vita4611Device → Program interface ChassisManager Value}
    (kept : ∀ device, Kept invariant (use device)) : Kept invariant (do
      let manager ← Program.read
      if manager.deviceMapEmpty then Pure.pure nothing
      else
        let device ← Vita4611.deviceMapAt key
        use device) := by
  apply keeps_read
  intro manager _
  apply keeps_ite (fun _ => keeps_pure _)
  intro _
  exact keeps_bind (rules.deviceMapAt key) kept

theorem setFruStatePolicyBits : Kept invariant (Vita4611.setFruStatePolicyBits reqdata) := by
  apply keeps_ite (fun _ => keeps_pure _)
  intro _
  apply keeps_bind (reqByte _)
  intro fruDevId
  apply keeps_bind (reqByte _)
  intro fruMaskBits
  apply keeps_bind (reqByte _)
  intro fruPolicyBits
  apply rules.usingDevice
  intro device
  apply keeps_bind (derefDevice device)
  intro device
  exact keeps_bind (keeps_modify fun _ => rules.devices _ _ _) fun _ => keeps_pure _

theorem getFruStatePolicyBits (devId : UInt8) :
    Kept invariant (Vita4611.getFruStatePolicyBits devId) :=
  rules.usingDevice devId _ fun device => keeps_bind (derefDevice device) fun _ => keeps_pure _

theorem setFruActivation : Kept invariant (Vita4611.setFruActivation reqdata) := by
  apply keeps_ite (fun _ => keeps_pure _)
  intro _
  apply keeps_bind (reqByte _)
  intro devId
  apply keeps_bind (reqByte _)
  intro fruDirective
  apply rules.usingDevice
  intro device
  refine keeps_ite (fun _ => ?_) fun _ => keeps_pure _
  apply keeps_bind (derefDevice device)
  intro device
  exact keeps_bind (keeps_modify fun _ => rules.devices _ _ _) fun _ => keeps_pure _

theorem getDeviceLocatorRecordId : Kept invariant (Vita4611.getDeviceLocatorRecordId reqdata) := by
  apply keeps_ite (fun _ => keeps_pure _)
  intro _
  apply keeps_bind (reqByte _)
  intro devId
  exact rules.usingDevice devId _ fun device => keeps_bind (derefDevice device) fun _ => keeps_pure _

theorem setFanPolicy : Kept invariant (Vita4611.setFanPolicy reqdata) := by
  have stop (fanPolicyTimeout : UInt8) : Kept invariant (stopFans fanPolicyTimeout) := by
    have armed : Kept invariant (if fanPolicyTimeout > 0 ∧ fanPolicyTimeout ≠ 0xFF then
        armFanRestartTimer fanPolicyTimeout else Pure.pure ()) :=
      keeps_ite (fun _ => keeps_modify fun _ => rules.timer _ _) fun _ => keeps_pure _
    exact keeps_ite (fun _ => keeps_bind (dbusCall _ _) fun _ => armed) fun _ => armed
  apply keeps_ite (fun _ => keeps_pure _)
  intro _
  apply keeps_bind (reqByte _)
  intro traySiteNum
  apply keeps_bind (reqByte _)
  intro fanEnableState
  apply keeps_bind (reqByte _)
  intro fanPolicyTimeout
  refine keeps_ite (fun _ => keeps_pure _) fun _ => ?_
  refine keeps_ite (fun _ => keeps_pure _) fun _ => ?_
  refine keeps_bind (keeps_modify fun _ => rules.timer _ _) fun _ => ?_
  apply keeps_ite
  · intro _
    exact keeps_bind (keeps_tryCatch (stop _) fun _ => keeps_pure _) fun _ => keeps_pure _
  · intro _
    exact keeps_bind (keeps_tryCatch (dbusCall _ _) fun _ => keeps_pure _) fun _ => keeps_pure _

theorem handleChmCommand : Kept invariant (Vita4611.handleChmCommand reqdata) := by
  apply keeps_bind (reqByte _)
  intro netFn
  apply keeps_bind (reqByte _)
  intro cmd
  refine keeps_ite (fun _ => keeps_pure _) fun _ => ?_
  refine keeps_ite (fun _ => keeps_pure _) fun _ => ?_
  refine keeps_ite (fun _ => getAddTable) fun _ => ?_
  refine keeps_ite (fun _ => withArgument fun _ => keeps_read fun _ _ =>
    keeps_ite (fun _ => keeps_pure _) fun _ => keeps_pure _) fun _ => ?_
  refine keeps_ite (fun _ => keeps_read fun _ _ => keeps_pure _) fun _ => ?_
  refine keeps_ite (fun _ => rules.setChassisIdentifier) fun _ => ?_
  refine keeps_ite (fun _ => rules.fruControl) fun _ => ?_
  refine keeps_ite (fun _ => rules.setIpmbState) fun _ => ?_
  refine keeps_ite (fun _ => rules.setFruStatePolicyBits) fun _ => ?_
  refine keeps_ite (fun _ => withArgument rules.getFruStatePolicyBits) fun _ => ?_
  refine keeps_ite (fun _ => rules.setFruActivation) fun _ => ?_
  refine keeps_ite (fun _ => rules.getDeviceLocatorRecordId) fun _ => ?_
  refine keeps_ite (fun _ => keeps_pure _) fun _ => ?_
  refine keeps_ite (fun _ => setFanLevel) fun _ => ?_
  refine keeps_ite (fun _ => getFanLevel) fun _ => ?_
  refine keeps_ite (fun _ => rules.setFanPolicy) fun _ => ?_
  refine keeps_ite (fun _ => getFanPolicy) fun _ => ?_
  refine keeps_ite (fun _ => keeps_pure _) fun _ => ?_
  refine keeps_ite (fun _ => getFruAddressInfo) fun _ => ?_
  exact keeps_ite (fun _ => rules.getDeviceLocatorRecordId) fun _ => keeps_pure _

theorem executePassthroughCmd : Kept invariant (Vita4611.executePassthroughCmd reqdata) := by
  apply keeps_read
  intro manager _
  cases selectChannel manager.mIpmbAEnable manager.mIpmbBEnable with
  | none => exact keeps_pure _
  | some ch =>
      refine keeps_ite (fun _ => keeps_pure _) fun _ => ?_
      apply keeps_bind (reqByte _)
      intro ipmiAddress
      apply keeps_bind (reqByte _)
      intro netFn
      apply keeps_bind (reqByte _)
      intro lun
      apply keeps_bind (reqByte _)
      intro cmd
      apply keeps_ite
      · intro _
        apply keeps_bind rules.handleChmCommand
        intro chmResponseData
        exact keeps_ite (fun _ => keeps_pure _) fun _ => keeps_pure _
      · intro _
        refine keeps_ite (fun _ => keeps_pure _) fun _ => ?_
        exact keeps_ite (fun _ => forwardVita _ _ _ _ _ _) fun _ => forwardIpmi _ _ _ _ _ _ _

theorem onDevice (program : Program interface Vita4611Device Unit) (key : UInt8) :
    Kept invariant (Vita4611.onDevice program key) := by
  intro manager initial
  rw [pre_onDevice]
  rcases manager.deviceMap key with _ | (_ | device)
  · exact initial
  · exact ⟨initial, trivial⟩
  · have replaced (device : Vita4611Device) : invariant (manager.setDevice key (some device)) :=
      rules.devices manager key (some device) initial
    apply pre_always
    · exact fun _ => replaced
    · exact fun _ => replaced
    · exact fun _ device => ⟨replaced device, trivial⟩

/-- No event of the running system breaks the invariant. -/
theorem operation [Libm] (operation : Operation) : Kept invariant operation.program := by
  cases operation with
  | passthrough reqdata =>
      exact keeps_bind rules.executePassthroughCmd fun _ => keeps_pure _
  | pollDeviceSensors =>
      exact keeps_bind (keeps_forEach fun key => rules.onDevice _ key) fun _ => keeps_pure _
  | pollSdrs =>
      exact keeps_bind (keeps_forEach fun key => rules.onDevice _ key) fun _ => keeps_pure _

/-- The invariant holds in every state that the system reaches from a state in which it holds. -/
theorem reachable [Libm] {start system : System} (initial : invariant start.manager)
    (reached : Reachable System.step start system) : invariant system.manager := by
  refine reached.invariant (fun system => invariant system.manager) initial ?_
  intro system event after held _ taken
  rw [(step_eq_some taken).2.1]
  exact ((rules.operation event.operation).sound event.environment system.manager 0 held).2.1

end Changes

end ManagerRules

end Chassis.Vita4611
