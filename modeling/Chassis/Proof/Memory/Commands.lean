import Chassis.Proof.Manager.Settings
import Chassis.Proof.Memory.Manager

namespace Chassis.Vita4611
open Effect Program

/-- The managers are alike, and nothing more becomes known. -/
abbrev Serving (stored : Stored) (known : Known) : Known → ChassisManager → ChassisManager → Prop :=
  Stay known (ManagerAlike stored known.told)

section Primitives

variable {State : Type} {relation thrown : Known → State → State → Prop}

theorem reqByte_value (reqdata : List UInt8) (index : Nat) :
    Lockstep memoryWatch relation thrown
      (fun byte byte' => byte = byte' ∧ reqdata.getD index 0 = byte) (reqByte reqdata index)
      (reqByte reqdata index) := by
  unfold reqByte
  rw [List.getD_eq_getElem?_getD]
  cases reqdata[index]? with
  | none => exact lockstep_fault _
  | some byte => exact lockstep_pure ⟨rfl, rfl⟩

theorem reqByte_lockstep (reqdata : List UInt8) (index : Nat) :
    Lockstep memoryWatch relation thrown Eq (reqByte reqdata index) (reqByte reqdata index) :=
  lockstep_weaken (reqByte_value reqdata index) fun _ _ same => same.1

theorem reqRange_lockstep (reqdata : List UInt8) (first : Nat) :
    Lockstep memoryWatch relation thrown
      (fun range range' => range = range' ∧ reqdata.drop first = range) (reqRange reqdata first)
      (reqRange reqdata first) :=
  lockstep_ite (fun _ => lockstep_pure ⟨rfl, rfl⟩) fun _ => lockstep_fault _

/-- Both runs dereference a device or a null pointer. -/
theorem derefDevice_lockstep {related : Vita4611Device → Vita4611Device → Prop}
    {device device' : Option Vita4611Device} (pair : Option.Rel related device device') :
    Lockstep memoryWatch relation thrown related (derefDevice device) (derefDevice device') := by
  cases pair with
  | none => exact lockstep_fault _
  | some pair => exact lockstep_pure pair

/-- The state of a unit is an answer of its own. -/
theorem isServiceActive_lockstep {known : Known} {kept : State → State → Prop} :
    Lockstep memoryWatch (Stay known kept) thrown Eq isServiceActive isServiceActive := by
  rintro now state other ⟨rfl, related⟩
  apply twin_bind
  apply twin_ask
  intro active active' agree _
  obtain rfl := agree (by simp)
  exact twin_pure ⟨rfl, rfl, related⟩

end Primitives

section Devices

variable {known : Known} {stored : Stored} {thrown : Known → ChassisManager → ChassisManager → Prop}
  {first second : ChassisManager} {device device' : Vita4611Device}

/-- The policy of a device is not looked at. -/
theorem OwnedAlike.unpoliced {policed : Bool} {told : UInt8 → Told}
    (owned : OwnedAlike policed told device device') : OwnedAlike false told device device' :=
  { owned with policy := fun set => absurd set Bool.false_ne_true }

/-- A search by a number of the devices finds related devices or nothing. -/
theorem findDevice_rel (alike : ManagerAlike stored known.told first second)
    {accept : Vita4611Device → Bool} (same : ∀ device device',
      OwnedAlike false known.told device device' → accept device = accept device') :
    Option.Rel (OwnedAlike false known.told) (first.findDevice accept)
      (second.findDevice accept) := by
  apply Data.findSome?_rel
  intro key
  have pair := alike.devices key
  generalize first.deviceMap key = slot at pair ⊢
  generalize second.deviceMap key = slot' at pair ⊢
  cases pair with
  | none => exact .none
  | some owned =>
      cases owned with
      | none => exact .none
      | some owned =>
          dsimp only
          rw [same _ _ owned.unpoliced]
          split
          · exact .some owned.unpoliced
          · exact .none

theorem findDeviceByHwAddress_rel (alike : ManagerAlike stored known.told first second)
    (hwAddr : UInt8) :
    Option.Rel (OwnedAlike false known.told) (first.findDeviceByHwAddress hwAddr)
      (second.findDeviceByHwAddress hwAddr) :=
  findDevice_rel alike fun _ _ owned => by rw [owned.hwAddress]

theorem findDeviceByAddress_rel (alike : ManagerAlike stored known.told first second)
    (addr : UInt8) :
    Option.Rel (OwnedAlike false known.told) (first.findDeviceByAddress addr)
      (second.findDeviceByAddress addr) :=
  findDevice_rel alike fun _ _ owned => by rw [owned.address']

theorem findDeviceByPhysAddress_rel (alike : ManagerAlike stored known.told first second)
    (physAddr : UInt8) :
    Option.Rel (OwnedAlike false known.told) (first.findDeviceByPhysAddress physAddr)
      (second.findDeviceByPhysAddress physAddr) :=
  findDevice_rel alike fun _ _ owned => by rw [owned.siteNumber]

theorem addressInfo_eq (owned : OwnedAlike false known.told device device') :
    addressInfo device = addressInfo device' := by
  rw [addressInfo, addressInfo, owned.hwAddress, owned.address', owned.deviceId rfl,
    owned.siteNumber, owned.siteType]

theorem deviceMapEmpty_eq (alike : ManagerAlike stored known.told first second) :
    first.deviceMapEmpty = second.deviceMapEmpty := by
  have same : (fun key => (first.deviceMap key).isNone) = fun key => (second.deviceMap key).isNone := by
    funext key
    have pair := alike.devices key
    generalize first.deviceMap key = slot at pair ⊢
    generalize second.deviceMap key = slot' at pair ⊢
    cases pair <;> rfl
  rw [ChassisManager.deviceMapEmpty, ChassisManager.deviceMapEmpty, same]

/-- An absent key gets a null pointer in both runs. -/
theorem deviceMapAt_lockstep (key : UInt8) :
    Lockstep memoryWatch (Serving stored known) thrown
      (Option.Rel (OwnedAlike (stored.policies key) known.told)) (deviceMapAt key)
      (deviceMapAt key) := by
  apply lockstep_read
  rintro now first second ⟨_, alike⟩
  have pair := alike.devices key
  generalize first.deviceMap key = slot at pair ⊢
  generalize second.deviceMap key = slot' at pair ⊢
  cases pair with
  | none =>
      have inserted : Lockstep memoryWatch (Serving stored known) thrown Eq
          (Program.modify fun manager => manager.setDevice key none)
          (Program.modify fun manager => manager.setDevice key none) :=
        lockstep_modify fun _ _ _ related => ⟨related.1, related.2.setDevice key .none⟩
      exact lockstep_bind inserted fun _ _ _ => lockstep_pure .none
  | some owned => exact lockstep_pure owned

theorem lookupByKey_lockstep (addrKeyType addrKey : UInt8) :
    Lockstep memoryWatch (Serving stored known) thrown
      (Option.Rel (Option.Rel (OwnedAlike false known.told))) (lookupByKey addrKeyType addrKey)
      (lookupByKey addrKeyType addrKey) := by
  apply lockstep_read
  rintro now first second ⟨_, alike⟩
  apply lockstep_ite
  · exact fun _ => lockstep_pure (.some (findDeviceByHwAddress_rel alike addrKey))
  · intro _
    apply lockstep_ite
    · exact fun _ => lockstep_pure (.some (findDeviceByAddress_rel alike addrKey))
    · exact fun _ => lockstep_pure .none

theorem derefAssigned_lockstep {related : Vita4611Device → Vita4611Device → Prop}
    {found found' : Option (Option Vita4611Device)} (pair : Option.Rel (Option.Rel related) found found')
    {relation : Known → ChassisManager → ChassisManager → Prop} :
    Lockstep memoryWatch relation thrown related (derefAssigned found) (derefAssigned found') := by
  cases pair with
  | none => exact lockstep_fault _
  | some pair => exact derefDevice_lockstep pair

end Devices

section Handlers

variable {known : Known} {stored : Stored} {thrown : Known → ChassisManager → ChassisManager → Prop}
  (serves : known.phase = .serving)

/-- A handler that answers the same in both runs and keeps them alike. -/
abbrev Steadily (stored : Stored) (known : Known)
    (thrown : Known → ChassisManager → ChassisManager → Prop)
    (handler : Program interface ChassisManager (List UInt8)) : Prop :=
  Lockstep memoryWatch (Serving stored known) thrown Eq handler handler

/-- Requests of the manager itself are not heard. -/
theorem ownRequest_lockstep {addr addr' netfn lun cmd : UInt8} {data : List UInt8}
    (past : known.phase ≠ .starting) (same : addr = addr') :
    Lockstep memoryWatch (Serving stored known) thrown Eq
      (sendIpmbRequest 0 addr netfn lun cmd data) (sendIpmbRequest 0 addr' netfn lun cmd data) :=
  lockstep_weaken (sendIpmbRequest_lockstep (fun starts => (past starts).elim) same rfl)
    fun _ _ ended => ended.1

include serves in
theorem getAddTable_lockstep (reqdata : List UInt8) :
    Steadily stored known thrown (getAddTable reqdata) := by
  have past : known.phase ≠ .starting := by simp [serves]
  refine lockstep_ite (fun _ => lockstep_pure rfl) fun _ => ?_
  apply lockstep_bind (reqByte_lockstep _ _)
  rintro fruDevId _ rfl
  apply lockstep_bind (reqByte_lockstep _ _)
  rintro addrKeyType _ rfl
  apply lockstep_bind (reqByte_lockstep _ _)
  rintro addrKey _ rfl
  apply lockstep_bind (reqByte_lockstep _ _)
  rintro siteType _ rfl
  apply lockstep_read
  rintro _ first second ⟨_, alike⟩
  rw [alike.entries]
  refine lockstep_ite (fun _ => lockstep_pure rfl) fun _ => lockstep_ite (fun _ => ?_) fun _ => ?_
  · apply lockstep_bind (derefDevice_lockstep (findDeviceByPhysAddress_rel alike addrKey))
    intro device device' owned
    exact lockstep_pure (congrArg _ (addressInfo_eq owned))
  · apply lockstep_bind (lookupByKey_lockstep _ _)
    intro found found' pair
    have entry : Lockstep memoryWatch (Serving stored known) thrown Eq
        (derefAssigned found >>= fun device => Pure.pure ((0x03 : UInt8) :: addressInfo device))
        (derefAssigned found' >>= fun device => Pure.pure ((0x03 : UInt8) :: addressInfo device)) := by
      apply lockstep_bind (derefAssigned_lockstep pair)
      intro device device' owned
      exact lockstep_pure (congrArg _ (addressInfo_eq owned))
    refine lockstep_ite (fun _ => ?_) fun _ => entry
    apply lockstep_bind (derefAssigned_lockstep pair)
    intro device device' owned
    apply lockstep_bind (ownRequest_lockstep past owned.address'.symm)
    rintro ⟨_ | response, cc⟩ _ rfl
    · exact entry
    · apply lockstep_bind (payloadByte_lockstep _ _)
      intro _ _ _
      exact lockstep_pure rfl

theorem getChassisManagerIpAddresses_lockstep (addrNum : UInt8) :
    Steadily stored known thrown (getChassisManagerIpAddresses addrNum) := by
  apply lockstep_read
  rintro _ first second ⟨_, alike⟩
  rw [alike.addressCount, alike.siteType, alike.siteNumber, alike.maxUnavailableTime,
    alike.addressType, alike.ipAddress]
  exact lockstep_ite (fun _ => lockstep_pure rfl) fun _ => lockstep_pure rfl

theorem getChassisIdentifier_lockstep : Steadily stored known thrown getChassisIdentifier := by
  apply lockstep_read
  rintro _ first second ⟨_, alike⟩
  rw [alike.idType, alike.identifier]
  exact lockstep_pure rfl

theorem setChassisIdentifier_lockstep (reqdata : List UInt8) :
    Steadily stored known thrown (setChassisIdentifier reqdata) := by
  apply lockstep_bind (reqByte_lockstep _ _)
  rintro chIdentifier _ rfl
  apply lockstep_bind (reqRange_lockstep _ _)
  rintro chIdField _ ⟨rfl, rfl⟩
  refine lockstep_ite (fun _ => lockstep_pure rfl) fun _ => ?_
  have written : Lockstep memoryWatch (Serving stored known) thrown Eq
      (Program.modify fun manager => { manager with
        chassisAddressTable := { manager.chassisAddressTable with
          chassisIdType := chIdentifier
          chassisIdField := writeFront manager.chassisAddressTable.chassisIdField
            (reqdata.drop 5) } })
      (Program.modify fun manager => { manager with
        chassisAddressTable := { manager.chassisAddressTable with
          chassisIdType := chIdentifier
          chassisIdField := writeFront manager.chassisAddressTable.chassisIdField
            (reqdata.drop 5) } }) :=
    lockstep_modify fun _ _ _ related => ⟨related.1, { related.2 with
      idType := rfl
      identifier := congrArg (writeFront · (reqdata.drop 5)) related.2.identifier }⟩
  exact lockstep_bind written fun _ _ _ => lockstep_pure rfl

include serves in
theorem sendReset_lockstep {device device' : Option Vita4611Device}
    {related : Vita4611Device → Vita4611Device → Prop} (pair : Option.Rel related device device')
    (cmd : UInt8) :
    Lockstep memoryWatch (Serving stored known) thrown Eq (sendReset device cmd)
      (sendReset device' cmd) := by
  cases pair with
  | none => exact lockstep_pure rfl
  | some pair =>
      apply lockstep_bind (ownRequest_lockstep (by simp [serves]) rfl)
      intro _ _ _
      exact lockstep_pure rfl

include serves in
theorem fruControl_lockstep (reqdata : List UInt8) :
    Steadily stored known thrown (fruControl reqdata) := by
  refine lockstep_ite (fun _ => lockstep_pure rfl) fun _ => ?_
  apply lockstep_bind (reqByte_lockstep _ _)
  rintro fruDevId _ rfl
  apply lockstep_bind (reqByte_lockstep _ _)
  rintro fruControlByte _ rfl
  apply lockstep_bind (deviceMapAt_lockstep fruDevId)
  intro device device' pair
  have reset (cmd : UInt8) : Lockstep memoryWatch (Serving stored known) thrown Eq
      (sendReset device cmd >>= fun _ => Pure.pure [(0x03 : UInt8)])
      (sendReset device' cmd >>= fun _ => Pure.pure [(0x03 : UInt8)]) :=
    lockstep_bind (sendReset_lockstep serves pair cmd) fun _ _ _ => lockstep_pure rfl
  refine lockstep_ite (fun _ => reset 0x02) fun _ => lockstep_ite (fun _ => reset 0x03) fun _ => ?_
  exact lockstep_ite (fun _ => lockstep_pure rfl) fun _ => lockstep_pure rfl

theorem setIpmbState_lockstep (reqdata : List UInt8) :
    Steadily stored known thrown (setIpmbState reqdata) := by
  refine lockstep_ite (fun _ => lockstep_pure rfl) fun _ => ?_
  apply lockstep_bind (reqByte_lockstep _ _)
  rintro ipmbAState _ rfl
  apply lockstep_bind (reqByte_lockstep _ _)
  rintro ipmbBState _ rfl
  have applied : Lockstep memoryWatch (Serving stored known) thrown Eq
      (Program.modify fun manager => applyIpmbState manager ipmbAState ipmbBState)
      (Program.modify fun manager => applyIpmbState manager ipmbAState ipmbBState) := by
    apply lockstep_modify
    rintro _ first second ⟨rfl, alike⟩
    refine ⟨rfl, ?_⟩
    unfold applyIpmbState
    by_cases keptA : ipmbAState = 0xFF
    · by_cases keptB : ipmbBState = 0xFF
      · rw [if_pos keptA, if_pos keptB, if_pos keptA, if_pos keptB]
        exact alike
      · rw [if_pos keptA, if_neg keptB, if_pos keptA, if_neg keptB]
        exact { alike with linkB := rfl }
    · by_cases keptB : ipmbBState = 0xFF
      · rw [if_neg keptA, if_pos keptB, if_neg keptA, if_pos keptB]
        exact { alike with linkA := rfl }
      · rw [if_neg keptA, if_neg keptB, if_neg keptA, if_neg keptB]
        exact { alike with linkA := rfl, linkB := rfl }
  apply lockstep_bind applied
  intro _ _ _
  exact lockstep_pure rfl

theorem setFruActivation_lockstep (reqdata : List UInt8) :
    Steadily stored known thrown (setFruActivation reqdata) := by
  refine lockstep_ite (fun _ => lockstep_pure rfl) fun _ => ?_
  apply lockstep_bind (reqByte_lockstep _ _)
  rintro devId _ rfl
  apply lockstep_bind (reqByte_lockstep _ _)
  rintro fruDirective _ rfl
  apply lockstep_read
  rintro _ first second ⟨_, alike⟩
  rw [deviceMapEmpty_eq alike]
  refine lockstep_ite (fun _ => lockstep_pure rfl) fun _ => ?_
  apply lockstep_bind (deviceMapAt_lockstep devId)
  intro device device' pair
  refine lockstep_ite (fun _ => ?_) fun _ => lockstep_pure rfl
  apply lockstep_bind (derefDevice_lockstep pair)
  intro device device' owned
  have flagged : Lockstep memoryWatch (Serving stored known) thrown Eq
      (Program.modify fun manager => manager.setDevice devId
        (some { device with fruActivationFlag := fruDirective }))
      (Program.modify fun manager => manager.setDevice devId
        (some { device' with fruActivationFlag := fruDirective })) :=
    lockstep_modify fun _ _ _ related => ⟨related.1, related.2.setDevice devId (.some { owned with })⟩
  exact lockstep_bind flagged fun _ _ _ => lockstep_pure rfl

theorem getDeviceLocatorRecordId_lockstep (reqdata : List UInt8) :
    Steadily stored known thrown (getDeviceLocatorRecordId reqdata) := by
  refine lockstep_ite (fun _ => lockstep_pure rfl) fun _ => ?_
  apply lockstep_bind (reqByte_lockstep _ _)
  rintro devId _ rfl
  apply lockstep_read
  rintro _ first second ⟨_, alike⟩
  rw [deviceMapEmpty_eq alike]
  refine lockstep_ite (fun _ => lockstep_pure rfl) fun _ => ?_
  apply lockstep_bind (deviceMapAt_lockstep devId)
  intro device device' pair
  exact lockstep_bind (derefDevice_lockstep pair) fun _ _ _ => lockstep_pure rfl

theorem getFanLevel_lockstep (reqdata : List UInt8) :
    Steadily stored known thrown (getFanLevel reqdata) := by
  refine lockstep_ite (fun _ => lockstep_pure rfl) fun _ => ?_
  rintro now first second ⟨rfl, alike⟩
  apply twin_bind
  apply twin_ask
  intro target target' agree _
  obtain rfl := agree (by simp)
  refine isServiceActive_lockstep.bind ⟨rfl, alike⟩ ?_
  rintro _ active _ _ _ rfl related
  exact twin_pure ⟨rfl, related⟩

/-- A failed attempt is forgotten. -/
theorem attempt_lockstep {program : Program interface ChassisManager Unit}
    (each : Lockstep memoryWatch (Serving stored known) (Serving stored known) Eq program program) :
    Lockstep memoryWatch (Serving stored known) thrown Eq
      (program.tryCatch fun _ => Pure.pure ()) (program.tryCatch fun _ => Pure.pure ()) :=
  lockstep_tryCatch _ each fun _ _ _ _ related => twin_pure ⟨rfl, related⟩

theorem startUnit_lockstep :
    Lockstep memoryWatch (Serving stored known) (Serving stored known) Eq startUnit startUnit :=
  dbusCall_lockstep (by simp) fun _ _ => rfl

theorem stopUnit_lockstep :
    Lockstep memoryWatch (Serving stored known) (Serving stored known) Eq stopUnit stopUnit :=
  dbusCall_lockstep (by simp) fun _ _ => rfl

theorem setFanLevel_lockstep (reqdata : List UInt8) :
    Steadily stored known thrown (setFanLevel reqdata) := by
  refine lockstep_ite (fun _ => lockstep_pure rfl) fun _ => ?_
  apply lockstep_bind (reqByte_lockstep _ _)
  rintro fanLevel _ rfl
  apply lockstep_bind (reqByte_lockstep _ _)
  rintro localControlEnableState _ rfl
  refine lockstep_ite (fun _ => ?_) fun _ => ?_
  · have stopped : Lockstep memoryWatch (Serving stored known) (Serving stored known) Eq
        (stopUnit >>= fun _ => setFanPwm fanLevel.toUInt64)
        (stopUnit >>= fun _ => setFanPwm fanLevel.toUInt64) :=
      lockstep_bind stopUnit_lockstep fun _ _ _ => dbusCall_lockstep (by simp) fun _ _ => rfl
    exact lockstep_bind (attempt_lockstep stopped) fun _ _ _ => lockstep_pure rfl
  · exact lockstep_bind (attempt_lockstep startUnit_lockstep) fun _ _ _ => lockstep_pure rfl

theorem stopFans_lockstep (fanPolicyTimeout : UInt8) :
    Lockstep memoryWatch (Serving stored known) (Serving stored known) Eq
      (stopFans fanPolicyTimeout) (stopFans fanPolicyTimeout) := by
  have armed : Lockstep memoryWatch (Serving stored known) (Serving stored known) Eq
      (if fanPolicyTimeout > 0 ∧ fanPolicyTimeout ≠ 0xFF then armFanRestartTimer fanPolicyTimeout
        else Pure.pure ())
      (if fanPolicyTimeout > 0 ∧ fanPolicyTimeout ≠ 0xFF then armFanRestartTimer fanPolicyTimeout
        else Pure.pure ()) := by
    apply lockstep_ite
    · exact fun _ => lockstep_modify fun _ _ _ related => ⟨related.1, { related.2 with }⟩
    · exact fun _ => lockstep_pure rfl
  apply lockstep_ite
  · exact fun _ => lockstep_bind stopUnit_lockstep fun _ _ _ => armed
  · exact fun _ => armed

theorem setFanPolicy_lockstep (reqdata : List UInt8) :
    Steadily stored known thrown (setFanPolicy reqdata) := by
  refine lockstep_ite (fun _ => lockstep_pure rfl) fun _ => ?_
  apply lockstep_bind (reqByte_lockstep _ _)
  rintro traySiteNum _ rfl
  apply lockstep_bind (reqByte_lockstep _ _)
  rintro fanEnableState _ rfl
  apply lockstep_bind (reqByte_lockstep _ _)
  rintro fanPolicyTimeout _ rfl
  refine lockstep_ite (fun _ => lockstep_pure rfl) fun _ => ?_
  refine lockstep_ite (fun _ => lockstep_pure rfl) fun _ => ?_
  have cancelled : Lockstep memoryWatch (Serving stored known) thrown Eq cancelFanRestartTimer
      cancelFanRestartTimer :=
    lockstep_modify fun _ _ _ related => ⟨related.1, { related.2 with }⟩
  apply lockstep_bind cancelled
  intro _ _ _
  refine lockstep_ite (fun _ => ?_) fun _ => ?_
  · exact lockstep_bind (attempt_lockstep (stopFans_lockstep _)) fun _ _ _ => lockstep_pure rfl
  · exact lockstep_bind (attempt_lockstep startUnit_lockstep) fun _ _ _ => lockstep_pure rfl

/-- The coverage is assigned unless both site bytes are `0xFF`. -/
theorem getFanPolicy_lockstep (reqdata : List UInt8) (covered : 7 ≤ reqdata.length →
      ¬(reqdata.getD 5 0 = 0xFF ∧ reqdata.getD 6 0 = 0xFF)) :
    Steadily stored known thrown (getFanPolicy reqdata) := by
  refine lockstep_ite (fun _ => lockstep_pure rfl) fun long => ?_
  apply lockstep_bind (reqByte_lockstep _ _)
  rintro traySiteNumber _ rfl
  apply lockstep_bind (reqByte_value _ _)
  rintro siteNumber _ ⟨rfl, rfl⟩
  apply lockstep_bind (reqByte_value _ _)
  rintro siteType _ ⟨rfl, rfl⟩
  have assigned : reqdata.getD 5 0 ≠ 0xFF ∨ reqdata.getD 6 0 ≠ 0xFF :=
    not_and_or.mp (covered (Nat.le_of_not_lt long))
  have replied (active : Bool) : Lockstep memoryWatch (Serving stored known) thrown Eq
      (indeterminate >>= fun junk => Pure.pure [0x03, if active then 1 else 0,
        if reqdata.getD 5 0 ≠ 0xFF ∨ reqdata.getD 6 0 ≠ 0xFF then 1 else junk.byte])
      (indeterminate >>= fun junk => Pure.pure [0x03, if active then 1 else 0,
        if reqdata.getD 5 0 ≠ 0xFF ∨ reqdata.getD 6 0 ≠ 0xFF then 1 else junk.byte]) := by
    apply lockstep_bind indeterminate_lockstep
    intro junk junk' _
    rw [if_pos assigned, if_pos assigned]
    exact lockstep_pure rfl
  refine lockstep_ite (fun _ => ?_) fun _ => ?_
  · apply lockstep_bind isServiceActive_lockstep
    rintro active _ rfl
    exact replied active
  · exact replied false

theorem getFruAddressInfo_lockstep (reqdata : List UInt8) :
    Steadily stored known thrown (getFruAddressInfo reqdata) := by
  refine lockstep_ite (fun _ => lockstep_pure rfl) fun _ => ?_
  refine lockstep_ite (fun _ => lockstep_pure rfl) fun _ => ?_
  apply lockstep_bind (reqByte_lockstep _ _)
  rintro fruDevId _ rfl
  apply lockstep_bind (reqByte_lockstep _ _)
  rintro addrKeyType _ rfl
  apply lockstep_bind (reqByte_lockstep _ _)
  rintro addrKey _ rfl
  apply lockstep_bind (reqByte_lockstep _ _)
  rintro siteType _ rfl
  refine lockstep_ite (fun _ => lockstep_pure rfl) fun _ => ?_
  refine lockstep_ite (fun _ => lockstep_pure rfl) fun _ => ?_
  refine lockstep_ite (fun _ => ?_) fun _ => lockstep_pure rfl
  apply lockstep_read
  rintro _ first second ⟨_, alike⟩
  apply lockstep_bind (derefDevice_lockstep (findDeviceByPhysAddress_rel alike addrKey))
  intro device device' owned
  exact lockstep_pure (congrArg (0x03 :: · ++ [0xFF, 0xFF]) (addressInfo_eq owned))

/-- A handler that takes byte 4 is called only with it. -/
theorem withArgument_lockstep (reqdata : List UInt8)
    {handler : UInt8 → Program interface ChassisManager (List UInt8)}
    (each : Steadily stored known thrown (handler (reqdata.getD 4 0))) :
    Steadily stored known thrown (withArgument reqdata handler) := by
  refine lockstep_ite (fun _ => ?_) fun _ => lockstep_pure rfl
  apply lockstep_bind (reqByte_value _ _)
  rintro argument _ ⟨rfl, rfl⟩
  exact each

end Handlers

section Settings

variable {known : Known} {stored : Stored} {first second : ChassisManager} {reqdata : List UInt8}
  {cmd : UInt8}

/-- What is stored after a command. -/
def Stored.after (stored : Stored) (reqdata : List UInt8) (cmd : UInt8) : Stored :=
  if cmd = vita4611SetFruStatePolicyBitsCmd ∧ 7 ≤ reqdata.length then
    { stored with policies := Function.update stored.policies (reqdata.getD 4 0) true }
  else stored

/-- A command reads nothing that is not stored. -/
structure Determined (stored : Stored) (manager : ChassisManager) (reqdata : List UInt8)
    (cmd : UInt8) : Prop where
  policy : cmd = vita4611GetFruStatePolicyBitsCmd → 5 ≤ reqdata.length →
    (manager.deviceMap (reqdata.getD 4 0)).join.isSome = true →
      stored.policies (reqdata.getD 4 0) = true
  coverage : cmd = vita4611GetFanPolicyCmd → 7 ≤ reqdata.length →
    ¬(reqdata.getD 5 0 = 0xFF ∧ reqdata.getD 6 0 = 0xFF)

instance (stored : Stored) (manager : ChassisManager) (reqdata : List UInt8) (cmd : UInt8) :
    Decidable (Determined stored manager reqdata cmd) :=
  decidable_of_iff ((cmd = vita4611GetFruStatePolicyBitsCmd → 5 ≤ reqdata.length →
      (manager.deviceMap (reqdata.getD 4 0)).join.isSome = true →
        stored.policies (reqdata.getD 4 0) = true) ∧
    (cmd = vita4611GetFanPolicyCmd → 7 ≤ reqdata.length →
      ¬(reqdata.getD 5 0 = 0xFF ∧ reqdata.getD 6 0 = 0xFF)))
    ⟨fun both => ⟨both.1, both.2⟩, fun determined => ⟨determined.policy, determined.coverage⟩⟩

/-- The command answers the same in both runs, and the managers are alike in all that is stored. -/
def Answered (stored : Stored) (known : Known) : Ends Known ChassisManager (List UInt8) :=
  ⟨fun now value value' first second => value = value' ∧ Serving stored known now first second,
    fun _ _ _ => False⟩

/-- Under one key the policies are the same as well. -/
theorem ManagerAlike.police {told : UInt8 → Told} {key : UInt8}
    (alike : ManagerAlike stored told first second)
    (own : Option.Rel (Option.Rel (OwnedAlike true told)) (first.deviceMap key)
      (second.deviceMap key)) :
    ManagerAlike { stored with policies := Function.update stored.policies key true } told first
      second :=
  { alike with
    devices := by
      intro other
      dsimp only
      by_cases same : other = key
      · subst same
        rwa [Function.update_self]
      · rw [Function.update_of_ne same]
        exact alike.devices other }

theorem setFruStatePolicyBits_twin (alike : ManagerAlike stored known.told first second) :
    twin memoryWatch (setFruStatePolicyBits reqdata) (setFruStatePolicyBits reqdata)
      (Answered (stored.after reqdata vita4611SetFruStatePolicyBitsCmd) known) known first second := by
  refine twin_ite (fun short => twin_pure ⟨rfl, rfl, ?_⟩) fun long => ?_
  · rw [Stored.after, if_neg (by omega)]
    exact alike
  · have after : stored.after reqdata vita4611SetFruStatePolicyBitsCmd = { stored with
        policies := Function.update stored.policies (reqdata.getD 4 0) true } := by
      rw [Stored.after, if_pos ⟨rfl, by omega⟩]
    have start : Serving stored known known first second := ⟨rfl, alike⟩
    refine (reqByte_value _ _).bind start ?_
    rintro _ fruDevId _ _ _ ⟨rfl, rfl⟩ start
    refine (reqByte_lockstep _ _).bind start ?_
    rintro _ fruMaskBits _ _ _ rfl start
    refine (reqByte_lockstep _ _).bind start ?_
    rintro known fruPolicyBits _ first second rfl ⟨rfl, alike⟩
    apply twin_read
    rw [deviceMapEmpty_eq alike]
    refine twin_ite (fun empty => twin_pure ⟨rfl, rfl, ?_⟩) fun _ => ?_
    · rw [after]
      have first' : first.deviceMapEmpty = true := (deviceMapEmpty_eq alike).trans empty
      refine alike.police ?_
      rw [deviceMap_of_empty first', deviceMap_of_empty empty]
      exact .none
    · refine (deviceMapAt_lockstep (reqdata.getD 4 0)).bind ⟨rfl, alike⟩ ?_
      rintro _ device device' first second pair start
      refine (derefDevice_lockstep pair).bind start ?_
      rintro known device device' first second owned ⟨rfl, alike⟩
      apply twin_bind
      apply twin_modify
      refine twin_pure ⟨rfl, rfl, ?_⟩
      rw [after]
      have policed (policed : Bool) : OwnedAlike policed known.told
          { device with fruActivationPolicy := fruMaskBits &&& fruPolicyBits }
          { device' with fruActivationPolicy := fruMaskBits &&& fruPolicyBits } :=
        { owned with policy := fun _ => rfl }
      refine (alike.setDevice (reqdata.getD 4 0) (.some (policed _))).police ?_
      dsimp only [ChassisManager.setDevice]
      rw [Function.update_self, Function.update_self]
      exact .some (.some (policed true))

/-- The policy is the same once a command has stored it. -/
theorem getFruStatePolicyBits_twin {key : UInt8} (alike : ManagerAlike stored known.told first second)
    (policed : (first.deviceMap key).join.isSome = true → stored.policies key = true) :
    twin memoryWatch (getFruStatePolicyBits key) (getFruStatePolicyBits key) (Answered stored known)
      known first second := by
  apply twin_read
  rw [deviceMapEmpty_eq alike]
  refine twin_ite (fun _ => twin_pure ⟨rfl, rfl, alike⟩) fun _ => ?_
  apply twin_bind
  apply twin_read
  have pair := alike.devices key
  generalize present : first.deviceMap key = slot at pair ⊢
  generalize second.deviceMap key = slot' at pair ⊢
  cases pair with
  | none =>
      apply twin_bind
      apply twin_modify
      exact twin_pure (twin_fault _)
  | some owned =>
      apply twin_pure
      cases owned with
      | none => exact twin_fault _
      | some owned =>
          refine twin_pure ⟨?_, rfl, alike⟩
          rw [owned.policy (policed (by rw [present]; rfl))]

/-- Only one command stores something that is answered later. -/
theorem Stored.after_other (policy : cmd ≠ vita4611SetFruStatePolicyBitsCmd) :
    stored.after reqdata cmd = stored := by
  rw [Stored.after, if_neg fun both => policy both.1]

/-- Every command that reads nothing unset answers the same in both runs. -/
theorem chmHandler_twin (serves : known.phase = .serving)
    (alike : ManagerAlike stored known.told first second)
    (determined : Determined stored first reqdata cmd) :
    twin memoryWatch (chmHandler reqdata cmd) (chmHandler reqdata cmd)
      (Answered (stored.after reqdata cmd) known) known first second := by
  by_cases polices : cmd = vita4611SetFruStatePolicyBitsCmd
  · subst polices
    exact setFruStatePolicyBits_twin alike
  · rw [Stored.after_other polices]
    have steady {handler : Program interface ChassisManager (List UInt8)}
        (steadily : Steadily stored known (fun _ _ _ => False) handler) :
        twin memoryWatch handler handler (Answered stored known) known first second :=
      steadily known first second ⟨rfl, alike⟩
    unfold chmHandler
    refine twin_ite (fun _ => steady (lockstep_pure rfl)) fun _ => ?_
    refine twin_ite (fun _ => steady (getAddTable_lockstep serves reqdata)) fun _ => ?_
    refine twin_ite (fun _ => steady (withArgument_lockstep reqdata
      (getChassisManagerIpAddresses_lockstep _))) fun _ => ?_
    refine twin_ite (fun _ => steady getChassisIdentifier_lockstep) fun _ => ?_
    refine twin_ite (fun _ => steady (setChassisIdentifier_lockstep reqdata)) fun _ => ?_
    refine twin_ite (fun _ => steady (fruControl_lockstep serves reqdata)) fun _ => ?_
    refine twin_ite (fun _ => steady (setIpmbState_lockstep reqdata)) fun _ => ?_
    refine twin_ite (fun sets => (polices sets).elim) fun _ => ?_
    refine twin_ite (fun asks => ?_) fun _ => ?_
    · refine twin_ite (fun long => ?_) fun _ => twin_pure ⟨rfl, rfl, alike⟩
      have start : Stay known (fun before before' => before = first ∧ before' = second) known first
        second := ⟨rfl, rfl, rfl⟩
      refine (reqByte_value _ _).bind start ?_
      rintro _ devId _ _ _ ⟨rfl, rfl⟩ ⟨rfl, rfl, rfl⟩
      exact getFruStatePolicyBits_twin alike (determined.policy asks long)
    refine twin_ite (fun _ => steady (setFruActivation_lockstep reqdata)) fun _ => ?_
    refine twin_ite (fun _ => steady (getDeviceLocatorRecordId_lockstep reqdata)) fun _ => ?_
    refine twin_ite (fun _ => steady (lockstep_pure rfl)) fun _ => ?_
    refine twin_ite (fun _ => steady (setFanLevel_lockstep reqdata)) fun _ => ?_
    refine twin_ite (fun _ => steady (getFanLevel_lockstep reqdata)) fun _ => ?_
    refine twin_ite (fun _ => steady (setFanPolicy_lockstep reqdata)) fun _ => ?_
    refine twin_ite (fun asks => steady (getFanPolicy_lockstep reqdata
      (determined.coverage asks))) fun _ => ?_
    refine twin_ite (fun _ => steady (lockstep_pure rfl)) fun _ => ?_
    refine twin_ite (fun _ => steady (getFruAddressInfo_lockstep reqdata)) fun _ => ?_
    refine twin_ite (fun _ => steady (getDeviceLocatorRecordId_lockstep reqdata)) fun _ => ?_
    exact steady (lockstep_pure rfl)

end Settings

section Requests

variable {known : Known} {stored : Stored} {first second : ChassisManager} {reqdata : List UInt8}

/-- The request answers the same in both runs, and the managers are alike in all that is stored. -/
def Responds (stored : Stored) (known : Known) : Ends Known ChassisManager RspType :=
  ⟨fun now value value' first second => value = value' ∧ Serving stored known now first second,
    fun _ _ _ => False⟩

theorem handleChmCommand_twin (serves : known.phase = .serving)
    (alike : ManagerAlike stored known.told first second)
    (determined : reqdata.getD 1 0 = netfnVita4611 →
      Determined stored first reqdata (reqdata.getD 3 0)) :
    twin memoryWatch (handleChmCommand reqdata) (handleChmCommand reqdata)
      (Answered (if reqdata.getD 1 0 = netfnVita4611 then stored.after reqdata (reqdata.getD 3 0)
        else stored) known) known first second := by
  have start : Stay known (fun before before' => before = first ∧ before' = second) known first
    second := ⟨rfl, rfl, rfl⟩
  refine (reqByte_value _ _).bind start ?_
  rintro _ netFn _ _ _ ⟨rfl, rfl⟩ start
  refine (reqByte_value _ _).bind start ?_
  rintro _ cmd _ _ _ ⟨rfl, rfl⟩ ⟨rfl, rfl, rfl⟩
  refine twin_ite (fun other => twin_pure ⟨rfl, rfl, ?_⟩) fun own => ?_
  · rwa [if_neg other]
  · have own := not_not.mp own
    rw [if_pos own]
    exact chmHandler_twin serves alike (determined own)

/-- A failed request leaves its code unassigned only at a method error. -/
theorem assigned_of_determinate {reply : DBusReply} (determinate : reply ≠ .methodError) :
    (readReply reply).1 = none → ∃ cc, (readReply reply).2 = some cc := by
  intro failed
  cases reply with
  | methodError => exact absurd rfl determinate
  | exception => exact ⟨_, rfl⟩
  | reply result =>
      unfold readReply
      dsimp only
      split <;> exact ⟨_, rfl⟩

theorem responseWithCode_lockstep {cc : Option UInt8} (assigned : ∃ code, cc = some code)
    {thrown : Known → ChassisManager → ChassisManager → Prop} :
    Lockstep memoryWatch (Serving stored known) thrown Eq (responseWithCode cc)
      (responseWithCode cc) := by
  obtain ⟨code, rfl⟩ := assigned
  exact lockstep_pure rfl

/-- A forwarded request is answered with data or with a code that was assigned. -/
theorem forwardVita_twin (forwards : known.phase = .forwarding)
    (alike : ManagerAlike stored known.told first second) (ch ipmiAddress lun cmd : UInt8)
    (registered : Bool) (arguments : List UInt8) :
    twin memoryWatch (forwardVita ch ipmiAddress lun cmd registered arguments)
      (forwardVita ch ipmiAddress lun cmd registered arguments) (Responds stored known) known first
      second := by
  refine twin_ite (fun _ => ?_) fun _ => twin_pure ⟨rfl, rfl, alike⟩
  apply twin_bind
  apply twin_sendIpmbRequest
  intro reply sound
  rw [observe_quiet _ fun starts => absurd (forwards.symm.trans starts) (by decide)]
  have assigned := @assigned_of_determinate reply
  generalize readReply reply = answer at assigned ⊢
  rcases answer with ⟨_ | response, cc⟩
  · refine twin_ite (fun _ => twin_pure ⟨rfl, rfl, alike⟩) fun other => ?_
    have determinate := (sound.2 forwards).resolve_left fun both => other both.2
    exact responseWithCode_lockstep (assigned determinate rfl) _ _ _ ⟨rfl, alike⟩
  · exact twin_pure ⟨rfl, rfl, alike⟩

theorem forwardIpmi_twin (forwards : known.phase = .forwarding)
    (alike : ManagerAlike stored known.told first second) {netFn : UInt8}
    (other : netFn ≠ netfnVita4611) (ch ipmiAddress lun cmd : UInt8) (registered : Bool)
    (arguments : List UInt8) :
    twin memoryWatch (forwardIpmi ch ipmiAddress netFn lun cmd registered arguments)
      (forwardIpmi ch ipmiAddress netFn lun cmd registered arguments) (Responds stored known) known
      first second := by
  refine twin_ite (fun _ => ?_) fun _ => twin_pure ⟨rfl, rfl, alike⟩
  apply twin_bind
  apply twin_sendIpmbRequest
  intro reply sound
  rw [observe_quiet _ fun starts => absurd (forwards.symm.trans starts) (by decide)]
  have assigned := @assigned_of_determinate reply
  generalize readReply reply = answer at assigned ⊢
  rcases answer with ⟨_ | response, cc⟩
  · have determinate := (sound.2 forwards).resolve_left fun both => other both.1
    exact responseWithCode_lockstep (assigned determinate rfl) _ _ _ ⟨rfl, alike⟩
  · exact twin_pure ⟨rfl, rfl, alike⟩

/-- The requests of a command are those of the manager itself or the forwarded one. -/
def passthroughPhase (reqdata : List UInt8) : Phase :=
  if reqdata.getD 0 0 = chmcIpmiAddress then .serving else .forwarding

/-- Only a dispatched command of the standard stores something. -/
def Stored.request (stored : Stored) (manager : ChassisManager) (reqdata : List UInt8) : Stored :=
  if Dispatched manager reqdata ∧ reqdata.getD 1 0 = netfnVita4611 then
    stored.after reqdata (reqdata.getD 3 0)
  else stored

/-- The links, the length and the address decide alike in both runs what becomes of a request. -/
theorem executePassthroughCmd_twin (phase : known.phase = passthroughPhase reqdata)
    (alike : ManagerAlike stored known.told first second)
    (determined : Dispatched first reqdata → reqdata.getD 1 0 = netfnVita4611 →
      Determined stored first reqdata (reqdata.getD 3 0)) :
    twin memoryWatch (executePassthroughCmd reqdata) (executePassthroughCmd reqdata)
      (Responds (stored.request first reqdata) known) known first second := by
  have refused (other : ¬Dispatched first reqdata) : stored.request first reqdata = stored :=
    if_neg fun both => other both.1
  apply twin_read
  rw [← alike.linkA, ← alike.linkB]
  cases opened : selectChannel first.mIpmbAEnable first.mIpmbBEnable with
  | none =>
      rw [refused fun dispatched => dispatched.1 opened]
      exact twin_pure ⟨rfl, rfl, alike⟩
  | some ch =>
      dsimp only
      refine twin_ite (fun short => ?_) fun long => ?_
      · rw [refused fun dispatched => absurd dispatched.2.1 (by omega)]
        exact twin_pure ⟨rfl, rfl, alike⟩
      have start : Stay known (fun before before' => before = first ∧ before' = second) known first
        second := ⟨rfl, rfl, rfl⟩
      refine (reqByte_value _ _).bind start ?_
      rintro _ ipmiAddress _ _ _ ⟨rfl, rfl⟩ start
      refine (reqByte_value _ _).bind start ?_
      rintro _ netFn _ _ _ ⟨rfl, rfl⟩ start
      refine (reqByte_lockstep _ _).bind start ?_
      rintro _ lun _ _ _ rfl start
      refine (reqByte_value _ _).bind start ?_
      rintro known cmd _ first second ⟨rfl, rfl⟩ ⟨rfl, rfl, rfl⟩
      have same : first.channel = some ch := opened
      refine twin_ite (fun own => ?_) fun other => ?_
      · have dispatched : Dispatched first reqdata := ⟨by simp [same], Nat.le_of_not_lt long, own⟩
        have stores : stored.request first reqdata =
            if reqdata.getD 1 0 = netfnVita4611 then stored.after reqdata (reqdata.getD 3 0)
            else stored := by
          simp [Stored.request, dispatched]
        have serves : known.phase = .serving := phase.trans (if_pos own)
        rw [stores]
        apply twin_bind
        refine twin_mono (handleChmCommand_twin serves alike (determined dispatched)) ?_
          fun _ _ _ never => never
        rintro _ chmResponseData _ _ _ ⟨rfl, related⟩
        exact twin_ite (fun _ => twin_pure ⟨rfl, related⟩) fun _ => twin_pure ⟨rfl, related⟩
      · have forwards : known.phase = .forwarding := phase.trans (if_neg other)
        rw [refused fun dispatched => other dispatched.2.2]
        have registered : first.verifyIpmiAddressIsValid (reqdata.getD 0 0) =
            second.verifyIpmiAddressIsValid (reqdata.getD 0 0) := by
          rw [ChassisManager.verifyIpmiAddressIsValid, alike.i2cdeviceMap]
          rfl
        have found := Data.isSome_rel (findDeviceByAddress_rel alike (reqdata.getD 0 0))
        rw [registered, found]
        refine twin_ite (fun _ => twin_pure ⟨rfl, rfl, alike⟩) fun _ => ?_
        refine twin_ite (fun _ => ?_) fun foreign => ?_
        · exact forwardVita_twin forwards alike _ _ _ _ _ _
        · exact forwardIpmi_twin forwards alike foreign _ _ _ _ _ _

end Requests

end Chassis.Vita4611
