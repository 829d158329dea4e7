import Chassis.Proof.Manager.Bounds

namespace Chassis.Vita4611
open Effect Program Automaton

/-- What the two Set commands of the chassis identifier and of the policy bits store. A key without
a device has no policy bits. -/
structure Settings where
  chassisIdType : UInt8
  chassisIdField : Vector UInt8 20
  policies : UInt8 → Option UInt8

def ChassisManager.settings (manager : ChassisManager) : Settings where
  chassisIdType := manager.chassisAddressTable.chassisIdType
  chassisIdField := manager.chassisAddressTable.chassisIdField
  policies := fun key => (manager.deviceMap key).join.map Vita4611Device.fruActivationPolicy

/-- The policy bits of a device change, and a key without a device stays without policy bits. -/
def Settings.setPolicy (settings : Settings) (key policy : UInt8) : Settings :=
  { settings with
    policies := Function.update settings.policies key
      ((settings.policies key).map fun _ => policy) }

theorem Settings.setPolicy_absent {settings : Settings} {key : UInt8}
    (absent : settings.policies key = none) (policy : UInt8) :
    settings.setPolicy key policy = settings := by
  rw [setPolicy, absent, Option.map_none, ← absent, Function.update_eq_self]

variable {manager : ChassisManager} {settings : Settings} {reqdata : List UInt8}

/-- A program keeps the settings at each of its endings. -/
def SettingsKept {Value : Type} (settings : Settings)
    (program : Program interface ChassisManager Value) : Prop :=
  Keeps (fun _ _ => True) (fun manager => manager.settings = settings) (fun _ => True) program

section Devices

theorem settings_setDevice (manager : ChassisManager) (key : UInt8)
    (device : Option Vita4611Device) :
    (manager.setDevice key device).settings = { manager.settings with
      policies := Function.update manager.settings.policies key
        (device.map Vita4611Device.fruActivationPolicy) } := by
  simp only [ChassisManager.settings, ChassisManager.setDevice, Settings.mk.injEq, true_and]
  funext other
  by_cases same : other = key
  · subst same
    simp
  · simp [same]

/-- A device with the policy bits of the stored one keeps the settings. -/
theorem settings_replace {key : UInt8} {device : Option Vita4611Device}
    (same : device.map Vita4611Device.fruActivationPolicy = manager.settings.policies key) :
    (manager.setDevice key device).settings = manager.settings := by
  rw [settings_setDevice, same, Function.update_eq_self]

/-- An inserted null pointer has no policy bits either. -/
theorem settings_insert {key : UInt8} (absent : manager.deviceMap key = none) :
    (manager.setDevice key none).settings = manager.settings := by
  apply settings_replace
  simp [ChassisManager.settings, absent]

/-- A device program that keeps the policy bits. -/
def PolicyKept {Value : Type} (policy : UInt8) (program : Program interface Vita4611Device Value) :
    Prop :=
  Keeps (fun _ _ => True) (fun device => device.fruActivationPolicy = policy) (fun _ => True) program

theorem policy_rules (policy : UInt8) : DeviceRules (fun _ => True) (fun _ _ => True)
    (fun device => device.fruActivationPolicy = policy) (fun _ => True) where
  fixed := trivial
  own _ _ := trivial
  sends _ _ _ _ := trivial
  uninitialised _ _ := trivial
  index := trivial
  range := trivial
  updates _ _ _ kept _ := kept
  pushes _ _ kept _ := kept
  caches _ _ kept := kept

theorem getSensorReading_policyKept [Libm] (policy : UInt8) (index : Nat) (channel : UInt8) :
    PolicyKept policy (Vita4611Device.getSensorReading index channel) := by
  apply keeps_read
  intro device kept
  rcases device.fruinfo.sensors[index]? with _ | sensor
  · exact keeps_pure _
  · apply keeps_bind ((policy_rules policy).sendIpmbRequest trivial)
    rintro ⟨response, _⟩
    apply keeps_bind
    · cases response with
      | none => exact keeps_pure _
      | some response => exact (policy_rules policy).payloadByte
    · exact fun _ => keeps_modify fun _ kept => kept

theorem onDevice_settled {program : Program interface Vita4611Device Unit}
    (kept : ∀ policy, PolicyKept policy program) (key : UInt8) :
    SettingsKept settings (onDevice program key) := by
  intro manager initial
  rw [pre_onDevice]
  rcases present : manager.deviceMap key with _ | (_ | device)
  · exact initial
  · exact ⟨initial, trivial⟩
  · have same (after : Vita4611Device)
        (policy : after.fruActivationPolicy = device.fruActivationPolicy) :
        (manager.setDevice key (some after)).settings = settings := by
      rw [← initial]
      apply settings_replace
      simp [ChassisManager.settings, present, policy]
    exact pre_mono (kept device.fruActivationPolicy device rfl) (fun _ _ _ => trivial)
      (fun _ after => same after) (fun _ after => same after)
      (fun _ after ended => ⟨same after ended.1, trivial⟩)

theorem pollDeviceSensors_settled [Libm] : SettingsKept settings pollDeviceSensors :=
  keeps_forEach fun key => onDevice_settled (fun policy => keeps_read fun _ _ =>
    keeps_forEach fun index => getSensorReading_policyKept policy index 0) key

theorem pollSdrs_settled [Libm] : SettingsKept settings pollSdrs :=
  keeps_forEach fun key => onDevice_settled (fun policy => keeps_read fun _ _ =>
    keeps_ite (fun _ => (policy_rules policy).checkSdrInfo) fun _ => keeps_pure _) key

end Devices

section Handlers

theorem reqByte_settled (index : Nat) : SettingsKept settings (reqByte reqdata index) := by
  unfold reqByte
  split
  · exact keeps_pure _
  · exact keeps_fault trivial

theorem sendIpmbRequest_settled (channel addr netfn lun cmd : UInt8) (data : List UInt8) :
    SettingsKept settings (sendIpmbRequest channel addr netfn lun cmd data) :=
  keeps_bind (keeps_ask fun _ _ => trivial) fun _ => keeps_pure _

theorem deviceMapAt_settled (key : UInt8) : SettingsKept settings (deviceMapAt key) := by
  intro manager kept
  rw [pre_deviceMapAt]
  cases present : manager.deviceMap key with
  | some device => exact kept
  | none => exact (settings_insert present).trans kept

theorem derefDevice_settled (device : Option Vita4611Device) :
    SettingsKept settings (derefDevice device) := by
  cases device with
  | none => exact keeps_fault trivial
  | some device => exact keeps_pure _

theorem derefAssigned_settled (found : Option (Option Vita4611Device)) :
    SettingsKept settings (derefAssigned found) := by
  cases found with
  | none => exact keeps_fault trivial
  | some device => exact derefDevice_settled device

theorem dbusCall_settled (op : Op) (answer : op.Answer → Bool) :
    SettingsKept settings (dbusCall op answer) := by
  apply keeps_bind (keeps_ask fun _ _ => trivial)
  intro result
  cases answer result with
  | true => exact keeps_pure _
  | false => exact keeps_throw _

theorem stopUnit_settled : SettingsKept settings stopUnit := dbusCall_settled _ _

theorem startUnit_settled : SettingsKept settings startUnit := dbusCall_settled _ _

theorem setFanPwm_settled (target : UInt64) : SettingsKept settings (setFanPwm target) :=
  dbusCall_settled _ _

theorem isServiceActive_settled : SettingsKept settings isServiceActive :=
  keeps_bind (keeps_ask fun _ _ => trivial) fun _ => keeps_pure _

theorem getAddTable_settled : SettingsKept settings (getAddTable reqdata) := by
  apply keeps_ite (fun _ => keeps_pure _)
  intro _
  apply keeps_bind (reqByte_settled _)
  intro fruDevId
  apply keeps_bind (reqByte_settled _)
  intro addrKeyType
  apply keeps_bind (reqByte_settled _)
  intro addrKey
  apply keeps_bind (reqByte_settled _)
  intro siteType
  apply keeps_read
  intro manager _
  refine keeps_ite (fun _ => keeps_pure _) fun _ => ?_
  refine keeps_ite (fun _ => keeps_bind (derefDevice_settled _) fun _ => keeps_pure _) fun _ => ?_
  apply keeps_bind
  · exact keeps_read fun _ _ => keeps_ite (fun _ => keeps_pure _)
      fun _ => keeps_ite (fun _ => keeps_pure _) fun _ => keeps_pure _
  · intro found
    have local' : SettingsKept settings (do
        let device ← derefAssigned found
        Pure.pure (0x03 :: addressInfo device)) :=
      keeps_bind (derefAssigned_settled found) fun _ => keeps_pure _
    refine keeps_ite (fun _ => ?_) fun _ => local'
    apply keeps_bind (derefAssigned_settled found)
    intro device
    apply keeps_bind (sendIpmbRequest_settled _ _ _ _ _ _)
    rintro ⟨_ | response, _⟩
    · exact local'
    · apply keeps_bind
      · unfold payloadByte
        split
        · exact keeps_pure _
        · exact keeps_fault trivial
      · exact fun _ => keeps_pure _

theorem withArgument_settled {handler : UInt8 → Program interface ChassisManager (List UInt8)}
    (settled : ∀ argument, SettingsKept settings (handler argument)) :
    SettingsKept settings (withArgument reqdata handler) :=
  keeps_ite (fun _ => keeps_bind (reqByte_settled _) settled) fun _ => keeps_pure _

theorem fruControl_settled : SettingsKept settings (fruControl reqdata) := by
  have reset (device : Option Vita4611Device) (cmd : UInt8) :
      SettingsKept settings (sendReset device cmd) := by
    cases device with
    | none => exact keeps_pure _
    | some device => exact keeps_bind (sendIpmbRequest_settled _ _ _ _ _ _) fun _ => keeps_pure _
  apply keeps_ite (fun _ => keeps_pure _)
  intro _
  apply keeps_bind (reqByte_settled _)
  intro fruDevId
  apply keeps_bind (reqByte_settled _)
  intro fruControlByte
  apply keeps_bind (deviceMapAt_settled _)
  intro device
  refine keeps_ite (fun _ => keeps_bind (reset device _) fun _ => keeps_pure _) fun _ => ?_
  refine keeps_ite (fun _ => keeps_bind (reset device _) fun _ => keeps_pure _) fun _ => ?_
  exact keeps_ite (fun _ => keeps_pure _) fun _ => keeps_pure _

theorem applyIpmbState_settings (manager : ChassisManager) (ipmbAState ipmbBState : UInt8) :
    (applyIpmbState manager ipmbAState ipmbBState).settings = manager.settings := by
  simp only [applyIpmbState]
  split_ifs <;> rfl

theorem setIpmbState_settled : SettingsKept settings (setIpmbState reqdata) := by
  apply keeps_ite (fun _ => keeps_pure _)
  intro _
  apply keeps_bind (reqByte_settled _)
  intro ipmbAState
  apply keeps_bind (reqByte_settled _)
  intro ipmbBState
  apply keeps_bind
  · exact keeps_modify fun manager kept => (applyIpmbState_settings ..).trans kept
  · exact fun _ => keeps_pure _

theorem getFruStatePolicyBits_settled (devId : UInt8) :
    SettingsKept settings (getFruStatePolicyBits devId) := by
  apply keeps_read
  intro manager _
  apply keeps_ite (fun _ => keeps_pure _)
  intro _
  apply keeps_bind (deviceMapAt_settled _)
  intro device
  exact keeps_bind (derefDevice_settled _) fun _ => keeps_pure _

theorem setFruActivation_settled : SettingsKept settings (setFruActivation reqdata) := by
  intro manager kept
  rw [pre_setFruActivation]
  have touched : (manager.touch (reqdata.getD 4 0)).settings = settings := by
    unfold ChassisManager.touch
    split
    · exact kept
    · exact (settings_insert ‹_›).trans kept
  refine ite_intro (fun _ => kept) fun _ => ite_intro (fun _ => kept) fun _ => ?_
  refine ite_intro (fun _ => ?_) fun _ => touched
  unfold useDevice
  split
  · refine (settings_replace ?_).trans kept
    rename_i device present
    change _ = (manager.deviceMap (reqdata.getD 4 0)).join.map Vita4611Device.fruActivationPolicy
    rw [present]
    rfl
  · exact ⟨kept, trivial⟩
  · exact ⟨(settings_insert ‹_›).trans kept, trivial⟩

theorem getDeviceLocatorRecordId_settled :
    SettingsKept settings (getDeviceLocatorRecordId reqdata) := by
  apply keeps_ite (fun _ => keeps_pure _)
  intro _
  apply keeps_bind (reqByte_settled _)
  intro devId
  apply keeps_read
  intro manager _
  apply keeps_ite (fun _ => keeps_pure _)
  intro _
  apply keeps_bind (deviceMapAt_settled _)
  intro device
  exact keeps_bind (derefDevice_settled _) fun _ => keeps_pure _

theorem setFanLevel_settled : SettingsKept settings (setFanLevel reqdata) := by
  apply keeps_ite (fun _ => keeps_pure _)
  intro _
  apply keeps_bind (reqByte_settled _)
  intro fanLevel
  apply keeps_bind (reqByte_settled _)
  intro localControlEnableState
  apply keeps_ite
  · intro _
    apply keeps_bind
    · exact keeps_tryCatch (keeps_bind stopUnit_settled fun _ => setFanPwm_settled _)
        fun _ => keeps_pure _
    · exact fun _ => keeps_pure _
  · intro _
    exact keeps_bind (keeps_tryCatch startUnit_settled fun _ => keeps_pure _)
      fun _ => keeps_pure _

theorem getFanLevel_settled : SettingsKept settings (getFanLevel reqdata) := by
  apply keeps_ite (fun _ => keeps_pure _)
  intro _
  apply keeps_bind (keeps_ask fun _ _ => trivial)
  intro target
  exact keeps_bind isServiceActive_settled fun _ => keeps_pure _

theorem setFanPolicy_settled : SettingsKept settings (setFanPolicy reqdata) := by
  have stop (fanPolicyTimeout : UInt8) : SettingsKept settings (stopFans fanPolicyTimeout) := by
    have armed : SettingsKept settings (if fanPolicyTimeout > 0 ∧ fanPolicyTimeout ≠ 0xFF then
        armFanRestartTimer fanPolicyTimeout else Pure.pure ()) :=
      keeps_ite (fun _ => keeps_modify fun _ kept => kept) fun _ => keeps_pure _
    exact keeps_ite (fun _ => keeps_bind stopUnit_settled fun _ => armed)
      fun _ => armed
  apply keeps_ite (fun _ => keeps_pure _)
  intro _
  apply keeps_bind (reqByte_settled _)
  intro traySiteNum
  apply keeps_bind (reqByte_settled _)
  intro fanEnableState
  apply keeps_bind (reqByte_settled _)
  intro fanPolicyTimeout
  refine keeps_ite (fun _ => keeps_pure _) fun _ => ?_
  refine keeps_ite (fun _ => keeps_pure _) fun _ => ?_
  refine keeps_bind (keeps_modify fun _ kept => kept) fun _ => ?_
  apply keeps_ite
  · intro _
    exact keeps_bind (keeps_tryCatch (stop _) fun _ => keeps_pure _) fun _ => keeps_pure _
  · intro _
    exact keeps_bind (keeps_tryCatch startUnit_settled fun _ => keeps_pure _)
      fun _ => keeps_pure _

theorem getFanPolicy_settled : SettingsKept settings (getFanPolicy reqdata) := by
  have covered (active : Bool) (coverage : UInt8 → UInt8) : SettingsKept settings (do
      let junk ← indeterminate
      Pure.pure [0x03, if active then 1 else 0, coverage junk.byte]) :=
    keeps_bind (keeps_ask fun _ _ => trivial) fun _ => keeps_pure _
  apply keeps_ite (fun _ => keeps_pure _)
  intro _
  apply keeps_bind (reqByte_settled _)
  intro traySiteNumber
  apply keeps_bind (reqByte_settled _)
  intro siteNumber
  apply keeps_bind (reqByte_settled _)
  intro siteType
  apply keeps_ite
  · exact fun _ => keeps_bind isServiceActive_settled fun active => covered active _
  · exact fun _ => keeps_bind (keeps_pure _) fun active => covered active _

theorem getFruAddressInfo_settled : SettingsKept settings (getFruAddressInfo reqdata) := by
  refine keeps_ite (fun _ => keeps_pure _) fun _ => ?_
  refine keeps_ite (fun _ => keeps_pure _) fun _ => ?_
  apply keeps_bind (reqByte_settled _)
  intro fruDevId
  apply keeps_bind (reqByte_settled _)
  intro addrKeyType
  apply keeps_bind (reqByte_settled _)
  intro addrKey
  apply keeps_bind (reqByte_settled _)
  intro siteType
  refine keeps_ite (fun _ => keeps_pure _) fun _ => ?_
  refine keeps_ite (fun _ => keeps_pure _) fun _ => ?_
  refine keeps_ite (fun _ => ?_) fun _ => keeps_pure _
  apply keeps_read
  intro manager _
  exact keeps_bind (derefDevice_settled _) fun _ => keeps_pure _

/-- Only two commands change the settings. -/
theorem chmHandler_settled {cmd : UInt8} (identifier : cmd ≠ vita4611SetChassisIdCmd)
    (policy : cmd ≠ vita4611SetFruStatePolicyBitsCmd) :
    SettingsKept settings (chmHandler reqdata cmd) := by
  refine keeps_ite (fun _ => keeps_pure _) fun _ => ?_
  refine keeps_ite (fun _ => getAddTable_settled) fun _ => ?_
  refine keeps_ite (fun _ => withArgument_settled fun _ => keeps_read fun _ _ =>
    keeps_ite (fun _ => keeps_pure _) fun _ => keeps_pure _) fun _ => ?_
  refine keeps_ite (fun _ => keeps_read fun _ _ => keeps_pure _) fun _ => ?_
  refine keeps_ite (fun set => absurd set identifier) fun _ => ?_
  refine keeps_ite (fun _ => fruControl_settled) fun _ => ?_
  refine keeps_ite (fun _ => setIpmbState_settled) fun _ => ?_
  refine keeps_ite (fun set => absurd set policy) fun _ => ?_
  refine keeps_ite (fun _ => withArgument_settled getFruStatePolicyBits_settled) fun _ => ?_
  refine keeps_ite (fun _ => setFruActivation_settled) fun _ => ?_
  refine keeps_ite (fun _ => getDeviceLocatorRecordId_settled) fun _ => ?_
  refine keeps_ite (fun _ => keeps_pure _) fun _ => ?_
  refine keeps_ite (fun _ => setFanLevel_settled) fun _ => ?_
  refine keeps_ite (fun _ => getFanLevel_settled) fun _ => ?_
  refine keeps_ite (fun _ => setFanPolicy_settled) fun _ => ?_
  refine keeps_ite (fun _ => getFanPolicy_settled) fun _ => ?_
  refine keeps_ite (fun _ => keeps_pure _) fun _ => ?_
  refine keeps_ite (fun _ => getFruAddressInfo_settled) fun _ => ?_
  exact keeps_ite (fun _ => getDeviceLocatorRecordId_settled) fun _ => keeps_pure _

end Handlers

section Events

/-- Every ending leaves these settings behind. -/
abbrev settledTo {Value : Type} (settings : Settings) : Post interface ChassisManager Value :=
  ⟨fun _ manager => manager.settings = settings, fun _ manager => manager.settings = settings,
    fun _ manager => manager.settings = settings⟩

theorem SettingsKept.pre {Value : Type} {program : Program interface ChassisManager Value}
    (settled : SettingsKept manager.settings program) :
    program.pre (fun _ _ => True) (settledTo manager.settings) manager :=
  pre_mono (settled manager rfl) (fun _ _ held => held) (fun _ _ held => held)
    (fun _ _ held => held) (fun _ _ held => held.1)

/-- The event is an accepted Set Chassis Identifier command. -/
def Event.SetsIdentifier (manager : ChassisManager) (event : Event) (idType : UInt8)
    (identifier : List UInt8) : Prop :=
  match event.operation with
  | .passthrough reqdata => Dispatched manager reqdata ∧
      IsCommand reqdata vita4611SetChassisIdCmd ∧ 5 ≤ reqdata.length ∧
      reqdata.getD 4 0 = idType ∧ reqdata.drop 5 = identifier ∧ identifier.length ≤ 20
  | .pollDeviceSensors => False
  | .pollSdrs => False

/-- The event is a complete Set FRU State Policy Bits command. -/
def Event.SetsPolicy (manager : ChassisManager) (event : Event) (key mask bits : UInt8) : Prop :=
  match event.operation with
  | .passthrough reqdata => Dispatched manager reqdata ∧
      IsCommand reqdata vita4611SetFruStatePolicyBitsCmd ∧ 7 ≤ reqdata.length ∧
      reqdata.getD 4 0 = key ∧ reqdata.getD 5 0 = mask ∧ reqdata.getD 6 0 = bits
  | .pollDeviceSensors => False
  | .pollSdrs => False

variable {event : Event}

/-- A request that is not dispatched to the manager keeps its settings. -/
theorem executePassthroughCmd_settledTo {settings : Settings}
    (own : Dispatched manager reqdata → (handleChmCommand reqdata).pre (fun _ _ => True)
      (settledTo settings) manager)
    (foreign : ¬Dispatched manager reqdata → manager.settings = settings) :
    (executePassthroughCmd reqdata).pre (fun _ _ => True) (settledTo settings) manager := by
  by_cases dispatched : Dispatched manager reqdata
  · rw [pre_dispatched dispatched]
    exact own dispatched
  · have kept := foreign dispatched
    have forwarded {ch : UInt8} {program : Program interface ChassisManager RspType}
        (forwards : Forwards ch manager program) :
        program.pre (fun _ _ => True) (settledTo settings) manager := by
      apply pre_mono forwards (fun _ _ _ => trivial)
      · rintro _ _ rfl
        exact kept
      · exact fun _ _ never => never.elim
      · exact fun _ _ never => never.elim
    rw [pre_executePassthroughCmd]
    rcases selected : manager.channel with _ | ch
    · exact kept
    · refine ite_intro (fun _ => kept) fun long => ite_intro (fun own => ?_) fun _ => ?_
      · exact absurd ⟨by rw [selected]; simp, by omega, own⟩ dispatched
      · refine ite_intro (fun _ => kept) fun _ => ite_intro (fun _ => ?_) fun _ => ?_
        · exact forwarded (forwardVita_forwards ..)
        · exact forwarded (forwardIpmi_forwards ..)

theorem deviceMap_of_empty (empty : manager.deviceMapEmpty = true) (key : UInt8) :
    manager.deviceMap key = none := by
  have absent := List.all_eq_true.mp empty key (mem_allKeys key)
  simpa using absent

variable [Libm]

/-- The settings after an event are those after its program. -/
theorem settings_run {settings : Settings}
    (settled : event.operation.program.pre (fun _ _ => True) (settledTo settings) manager) :
    (event.run manager).state.settings = settings :=
  pre_state _ event.environment manager 0 settled

/-- An event that is neither of the two Set commands keeps the settings. -/
theorem settings_kept
    (identifier : ¬∃ idType identifier, event.SetsIdentifier manager idType identifier)
    (policy : ¬∃ key mask bits, event.SetsPolicy manager key mask bits) :
    (event.run manager).state.settings = manager.settings := by
  apply settings_run
  rcases event with ⟨operation, environment⟩
  cases operation with
  | passthrough reqdata =>
      rw [Operation.program, pre_bind]
      refine executePassthroughCmd_settledTo (fun dispatched => ?_) fun _ => rfl
      rw [pre_handleChmCommand dispatched.2.1]
      refine ite_intro (fun _ => rfl) fun netFn => ?_
      have own := not_not.mp netFn
      by_cases first : reqdata.getD 3 0 = vita4611SetChassisIdCmd
      · rw [first]
        change (setChassisIdentifier reqdata).pre _ _ _
        rw [pre_setChassisIdentifier]
        refine ite_intro (fun _ => rfl) fun long => ite_intro (fun _ => rfl) fun short => ?_
        exact absurd ⟨_, _, dispatched, ⟨own, first⟩, by omega, rfl, rfl, by omega⟩ identifier
      · by_cases second : reqdata.getD 3 0 = vita4611SetFruStatePolicyBitsCmd
        · rw [second]
          change (setFruStatePolicyBits reqdata).pre _ _ _
          rw [pre_setFruStatePolicyBits]
          refine ite_intro (fun _ => rfl) fun long => ?_
          exact absurd ⟨_, _, _, dispatched, ⟨own, second⟩, by omega, rfl, rfl, rfl⟩ policy
        · exact (chmHandler_settled first second).pre
  | pollDeviceSensors =>
      rw [Operation.program, pre_bind]
      exact pollDeviceSensors_settled.pre
  | pollSdrs =>
      rw [Operation.program, pre_bind]
      exact pollSdrs_settled.pre

theorem settings_identified {idType : UInt8} {identifier : List UInt8}
    (sets : event.SetsIdentifier manager idType identifier) :
    (event.run manager).state.settings = { manager.settings with
      chassisIdType := idType
      chassisIdField := writeFront manager.settings.chassisIdField identifier } := by
  apply settings_run
  rcases event with ⟨operation, environment⟩
  cases operation with
  | passthrough reqdata =>
      obtain ⟨dispatched, command, long, rfl, rfl, short⟩ := sets
      rw [Operation.program, pre_bind, pre_dispatched dispatched,
        pre_command command dispatched.2.1]
      change (setChassisIdentifier reqdata).pre _ _ _
      rw [pre_setChassisIdentifier, if_neg (by omega), if_neg (by omega)]
      rfl
  | pollDeviceSensors => exact sets.elim
  | pollSdrs => exact sets.elim

theorem settings_policied {key mask bits : UInt8}
    (sets : event.SetsPolicy manager key mask bits) :
    (event.run manager).state.settings = manager.settings.setPolicy key (mask &&& bits) := by
  apply settings_run
  rcases event with ⟨operation, environment⟩
  cases operation with
  | passthrough reqdata =>
      obtain ⟨dispatched, command, long, rfl, rfl, rfl⟩ := sets
      generalize key_eq : reqdata.getD 4 0 = key
      have absent (none : (manager.deviceMap key).join = none) :
          manager.settings = manager.settings.setPolicy key
            (reqdata.getD 5 0 &&& reqdata.getD 6 0) := by
        refine (Settings.setPolicy_absent ?_ _).symm
        exact congrArg (Option.map Vita4611Device.fruActivationPolicy) none
      rw [Operation.program, pre_bind, pre_dispatched dispatched,
        pre_command command dispatched.2.1]
      change (setFruStatePolicyBits reqdata).pre _ _ _
      rw [pre_setFruStatePolicyBits, if_neg (by omega), key_eq]
      refine ite_intro (fun empty => absent ?_) fun _ => ?_
      · rw [deviceMap_of_empty empty]
        rfl
      · unfold useDevice
        split
        · rename_i device present
          have stored : manager.settings.policies key = some device.fruActivationPolicy := by
            simp [ChassisManager.settings, present]
          change (manager.setDevice key _).settings = _
          rw [settings_setDevice, Settings.setPolicy, stored]
          rfl
        · rename_i present
          exact absent (by rw [present]; rfl)
        · rename_i present
          exact (settings_insert present).trans (absent (by rw [present]; rfl))
  | pollDeviceSensors => exact sets.elim
  | pollSdrs => exact sets.elim

end Events

end Chassis.Vita4611
