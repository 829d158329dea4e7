import Chassis.Construction.Manager.Passthrough
import Chassis.Effect.Precondition
import Chassis.Effect.Run

namespace Chassis.Vita4611
open Effect

section Primitives

variable {State : Type} {allowed : State → Op → Prop}

theorem pre_reqByte_inside {reqdata : List UInt8} {index : Nat} (inside : index < reqdata.length)
    (post : Post interface State UInt8) (state : State) :
    (reqByte reqdata index).pre allowed post state =
      post.value (reqdata.getD index 0) state := by
  simp [reqByte, List.getElem?_eq_getElem inside]

theorem pre_reqByte_outside {reqdata : List UInt8} {index : Nat}
    (outside : reqdata.length ≤ index) (post : Post interface State UInt8) (state : State) :
    (reqByte reqdata index).pre allowed post state = post.fault .reqdataIndex state := by
  simp [reqByte, List.getElem?_eq_none outside]

theorem run_reqByte {reqdata : List UInt8} (environment : Environment interface) {index : Nat}
    (inside : index < reqdata.length) (state : State) (position : Nat) :
    (reqByte reqdata index).run environment state position =
      ⟨.value (reqdata.getD index 0), state, []⟩ := by
  simp [reqByte, List.getElem?_eq_getElem inside]

/-- A request is one call, and its sender sees the answer through `readReply`. -/
theorem run_sendIpmbRequest (environment : Environment interface) (position : Nat)
    (channel addr netfn lun cmd : UInt8) (data : List UInt8) (state : State) :
    let request : Op := .sendRequest ⟨channel, addr, netfn, lun, cmd, data⟩
    (sendIpmbRequest channel addr netfn lun cmd data).run environment state position =
      ⟨.value (readReply (environment position request)), state,
        [⟨state, request, environment position request⟩]⟩ := rfl

/-- The two results of an answered request. -/
theorem readReply_reply (result : Ipmb.SendRequestReply) :
    readReply (.reply result) =
      (if result.cc = 0 then some result else none, some result.cc) := by
  unfold readReply
  dsimp only
  split_ifs <;> rfl

@[simp] theorem pre_reqRange (reqdata : List UInt8) (first : Nat)
    (post : Post interface State (List UInt8)) (state : State) :
    (reqRange reqdata first).pre allowed post state =
      if first ≤ reqdata.length then post.value (reqdata.drop first) state
      else post.fault .reqdataRange state := by
  simp [reqRange]

@[simp] theorem pre_payloadByte (data : List UInt8) (index : Nat)
    (post : Post interface State UInt8) (state : State) :
    (payloadByte data index).pre allowed post state =
      if index < data.length then post.value (data.getD index 0) state
      else post.fault .payloadIndex state := by
  by_cases inside : index < data.length
  · simp [payloadByte, inside]
  · simp [payloadByte, inside]

@[simp] theorem pre_payloadRange (data : List UInt8) (first last : Nat)
    (post : Post interface State (List UInt8)) (state : State) :
    (payloadRange data first last).pre allowed post state =
      if first ≤ last ∧ last ≤ data.length then post.value ((data.take last).drop first) state
      else post.fault .payloadRange state := by
  simp [payloadRange]

@[simp] theorem pre_sendIpmbRequest (channel addr netfn lun cmd : UInt8) (data : List UInt8)
    (post : Post interface State (Option Ipmb.SendRequestReply × Option UInt8)) (state : State) :
    (sendIpmbRequest channel addr netfn lun cmd data).pre allowed post state =
      (allowed state (.sendRequest ⟨channel, addr, netfn, lun, cmd, data⟩) ∧
        ∀ reply, post.value (readReply reply) state) := by
  simp [sendIpmbRequest]
  rfl

@[simp] theorem pre_indeterminate (post : Post interface State Indeterminate) (state : State) :
    (indeterminate).pre allowed post state =
      (allowed state .indeterminate ∧ ∀ junk, post.value junk state) := rfl

@[simp] theorem pre_derefDevice (device : Option Vita4611Device)
    (post : Post interface State Vita4611Device) (state : State) :
    (derefDevice device).pre allowed post state =
      match device with
      | some device => post.value device state
      | none => post.fault .nullDevice state := by
  cases device <;> rfl

@[simp] theorem pre_isServiceActive (post : Post interface State Bool) (state : State) :
    (isServiceActive).pre allowed post state =
      (allowed state .unitActiveState ∧
        ∀ answer : Option String, post.value (answer == some "active") state) := rfl

theorem pre_dbusCall (op : Op) (answer : op.Answer → Bool) (post : Post interface State Unit)
    (state : State) :
    (dbusCall op answer).pre allowed post state =
      (allowed state op ∧ ∀ result, if answer result then post.value () state
        else post.thrown .dbusError state) := by
  change (allowed state op ∧ ∀ result, (if answer result then pure () else
    .throw .dbusError : Program interface State Unit).pre allowed post state) = _
  simp only [Program.pre_ite, Program.pre_pure, Program.pre_throw]

/-- A call that answers with a flag may succeed or throw. -/
theorem forall_flag (success failure : Prop) :
    (∀ flag : Bool, if id flag then success else failure) = (success ∧ failure) := by
  simp [Bool.forall_bool, and_comm]

@[simp] theorem pre_stopUnit (post : Post interface State Unit) (state : State) :
    (stopUnit).pre allowed post state =
      (allowed state .stopUnit ∧ post.value () state ∧ post.thrown .dbusError state) :=
  (pre_dbusCall _ _ _ _).trans (congrArg _ (forall_flag _ _))

@[simp] theorem pre_startUnit (post : Post interface State Unit) (state : State) :
    (startUnit).pre allowed post state =
      (allowed state .startUnit ∧ post.value () state ∧ post.thrown .dbusError state) :=
  (pre_dbusCall _ _ _ _).trans (congrArg _ (forall_flag _ _))

@[simp] theorem pre_setFanPwm (target : UInt64) (post : Post interface State Unit)
    (state : State) :
    (setFanPwm target).pre allowed post state =
      (allowed state (.setFanPwm target) ∧ post.value () state ∧ post.thrown .dbusError state) :=
  (pre_dbusCall _ _ _ _).trans (congrArg _ (forall_flag _ _))

end Primitives

section Handlers

variable {allowed : ChassisManager → Op → Prop} {reqdata : List UInt8} {manager : ChassisManager}
  (post : Post interface ChassisManager (List UInt8))

@[simp] theorem pre_deviceMapAt (key : UInt8)
    (post : Post interface ChassisManager (Option Vita4611Device)) :
    (deviceMapAt key).pre allowed post manager =
      match manager.deviceMap key with
      | some device => post.value device manager
      | none => post.value none (manager.setDevice key none) := by
  simp only [deviceMapAt, Program.pre_bind, Program.pre_read]
  cases manager.deviceMap key <;> rfl

/-- A member access after the subscript operator faults unless the key owns a device. -/
def useDevice (manager : ChassisManager) (key : UInt8)
    (use : Vita4611Device → Prop) (fault : Fault → ChassisManager → Prop) : Prop :=
  match manager.deviceMap key with
  | some (some device) => use device
  | some none => fault .nullDevice manager
  | none => fault .nullDevice (manager.setDevice key none)

/-- The subscript operator leaves this map behind. -/
def ChassisManager.touch (manager : ChassisManager) (key : UInt8) : ChassisManager :=
  match manager.deviceMap key with
  | some _ => manager
  | none => manager.setDevice key none

/-- The pointer of an address key is unassigned for a key type other than 0 and 1. -/
def ChassisManager.keyed (manager : ChassisManager) (addrKeyType addrKey : UInt8) :
    Option (Option Vita4611Device) :=
  if addrKeyType = 0x00 then some (manager.findDeviceByHwAddress addrKey)
  else if addrKeyType = 0x01 then some (manager.findDeviceByAddress addrKey)
  else none

/-- A member access through a looked-up pointer faults unless the pointer is assigned and not null. -/
def useFound (manager : ChassisManager) (found : Option (Option Vita4611Device))
    (use : Vita4611Device → Prop) (fault : Fault → ChassisManager → Prop) : Prop :=
  match found with
  | some (some device) => use device
  | some none => fault .nullDevice manager
  | none => fault .unassignedDevice manager

theorem pre_setChassisIdentifier :
    (setChassisIdentifier reqdata).pre allowed post manager =
      if reqdata.length < 5 then post.fault .reqdataIndex manager
      else if (reqdata.drop 5).length > 20 then post.value [] manager
      else post.value [0x03] { manager with
        chassisAddressTable := { manager.chassisAddressTable with
          chassisIdType := reqdata.getD 4 0
          chassisIdField :=
            writeFront manager.chassisAddressTable.chassisIdField (reqdata.drop 5) } } := by
  simp only [setChassisIdentifier, Program.pre_bind]
  by_cases short : reqdata.length < 5
  · rw [pre_reqByte_outside (by omega), if_pos short]
  · rw [pre_reqByte_inside (by omega), if_neg short]
    simp [show 5 ≤ reqdata.length by omega]

theorem pre_setIpmbState :
    (setIpmbState reqdata).pre allowed post manager =
      if reqdata.length < 6 then post.value [] manager
      else post.value [0x03]
        (applyIpmbState manager (reqdata.getD 4 0) (reqdata.getD 5 0)) := by
  by_cases short : reqdata.length < 6
  · simp [setIpmbState, short]
  · simp (disch := omega) [setIpmbState, short, pre_reqByte_inside]

theorem pre_setFruStatePolicyBits :
    (setFruStatePolicyBits reqdata).pre allowed post manager =
      if reqdata.length < 7 then post.value [] manager
      else if manager.deviceMapEmpty then post.value [] manager
      else useDevice manager (reqdata.getD 4 0)
        (fun device => post.value [0x03] (manager.setDevice (reqdata.getD 4 0)
          (some { device with fruActivationPolicy := reqdata.getD 5 0 &&& reqdata.getD 6 0 })))
        post.fault := by
  by_cases short : reqdata.length < 7
  · simp [setFruStatePolicyBits, short]
  · simp (disch := omega) only [setFruStatePolicyBits, short, pre_reqByte_inside, Program.pre_bind,
      Program.pre_ite, Program.pre_read, Program.pre_pure, Program.pre_modify, pre_deviceMapAt,
      pre_derefDevice, if_false, useDevice]
    rcases manager.deviceMap (reqdata.getD 4 0) with _ | (_ | device) <;> rfl

theorem pre_getFruStatePolicyBits (devId : UInt8) :
    (getFruStatePolicyBits devId).pre allowed post manager =
      if manager.deviceMapEmpty then post.value [] manager
      else useDevice manager devId
        (fun device => post.value [0x03, device.fruActivationPolicy] manager) post.fault := by
  simp only [getFruStatePolicyBits, Program.pre_bind, Program.pre_ite, Program.pre_read,
    Program.pre_pure, pre_deviceMapAt, pre_derefDevice, useDevice]
  rcases manager.deviceMap devId with _ | (_ | device) <;> rfl

theorem pre_setFruActivation :
    (setFruActivation reqdata).pre allowed post manager =
      if reqdata.length < 6 then post.value [] manager
      else if manager.deviceMapEmpty then post.value [] manager
      else if reqdata.getD 5 0 = 0 ∨ reqdata.getD 5 0 = 1 then
        useDevice manager (reqdata.getD 4 0)
          (fun device => post.value [0x03] (manager.setDevice (reqdata.getD 4 0)
            (some { device with fruActivationFlag := reqdata.getD 5 0 }))) post.fault
      else post.value [] (manager.touch (reqdata.getD 4 0)) := by
  by_cases short : reqdata.length < 6
  · simp [setFruActivation, short]
  · simp (disch := omega) only [setFruActivation, short, pre_reqByte_inside, Program.pre_bind,
      Program.pre_ite, Program.pre_read, Program.pre_pure, Program.pre_modify, pre_deviceMapAt,
      pre_derefDevice, if_false, useDevice]
    rcases found : manager.deviceMap (reqdata.getD 4 0) with _ | (_ | device) <;>
      simp only [ChassisManager.touch, found]

theorem pre_getDeviceLocatorRecordId :
    (getDeviceLocatorRecordId reqdata).pre allowed post manager =
      if reqdata.length < 5 then post.value [] manager
      else if manager.deviceMapEmpty then post.value [] manager
      else useDevice manager (reqdata.getD 4 0) (fun _ => post.value [0x03] manager)
        post.fault := by
  by_cases short : reqdata.length < 5
  · simp [getDeviceLocatorRecordId, short]
  · simp (disch := omega) only [getDeviceLocatorRecordId, short, pre_reqByte_inside,
      Program.pre_bind, Program.pre_ite, Program.pre_read, Program.pre_pure, pre_deviceMapAt,
      pre_derefDevice, if_false, useDevice]
    rcases manager.deviceMap (reqdata.getD 4 0) with _ | (_ | device) <;> rfl

/-- The reset reaches the bus only when the key owns a device. -/
theorem pre_fruControl :
    (fruControl reqdata).pre allowed post manager =
      if reqdata.length < 5 then post.value [] manager
      else if reqdata.length < 6 then post.fault .reqdataIndex manager
      else if reqdata.getD 5 0 = 0 ∨ reqdata.getD 5 0 = 1 then
        (((manager.deviceMap (reqdata.getD 4 0)).join.isSome → allowed manager
          (.sendRequest ⟨0, 0x8a, 0x06, 0x00, if reqdata.getD 5 0 = 0 then 0x02 else 0x03, [0x03]⟩)) ∧
          post.value [0x03] (manager.touch (reqdata.getD 4 0)))
      else if reqdata.getD 5 0 = 2 ∨ reqdata.getD 5 0 = 3 then
        post.value [0x03] (manager.touch (reqdata.getD 4 0))
      else post.value [] (manager.touch (reqdata.getD 4 0)) := by
  by_cases short : reqdata.length < 5
  · simp [fruControl, short]
  · by_cases bare : reqdata.length < 6
    · simp (disch := omega) only [fruControl, short, bare, pre_reqByte_inside, pre_reqByte_outside,
        Program.pre_bind, Program.pre_ite, if_false, if_true]
    · simp (disch := omega) only [fruControl, short, bare, pre_reqByte_inside, Program.pre_bind,
        Program.pre_ite, Program.pre_pure, pre_deviceMapAt, if_false]
      rcases found : manager.deviceMap (reqdata.getD 4 0) with _ | (_ | device) <;>
        simp only [ChassisManager.touch, found, sendReset] <;> split_ifs <;> simp_all

theorem pre_lookupByKey (addrKeyType addrKey : UInt8)
    (post : Post interface ChassisManager (Option (Option Vita4611Device))) :
    (lookupByKey addrKeyType addrKey).pre allowed post manager =
      post.value (manager.keyed addrKeyType addrKey) manager := by
  simp only [lookupByKey, ChassisManager.keyed, Program.pre_bind, Program.pre_read, Program.pre_ite,
    Program.pre_pure]
  split_ifs <;> rfl

theorem pre_derefAssigned (found : Option (Option Vita4611Device))
    (post : Post interface ChassisManager Vita4611Device) :
    (derefAssigned found).pre allowed post manager = useFound manager found
      (fun device => post.value device manager) post.fault := by
  rcases found with _ | (_ | device) <;> rfl

theorem pre_getAddTable :
    (getAddTable reqdata).pre allowed post manager =
      if reqdata.length < 8 then post.value [] manager
      else if reqdata.getD 5 0 > 3 ∨ reqdata.getD 5 0 = 2 ∨
        manager.chassisAddressTable.entries = [] then post.value [] manager
      else if reqdata.getD 5 0 = 3 ∧ reqdata.getD 7 0 = 0 then
        useFound manager (some (manager.findDeviceByPhysAddress (reqdata.getD 6 0)))
          (fun device => post.value (0x03 :: addressInfo device) manager) post.fault
      else useFound manager (manager.keyed (reqdata.getD 5 0) (reqdata.getD 6 0))
        (fun device =>
          if reqdata.getD 4 0 > 0 then
            allowed manager (.sendRequest ⟨0, device.ipmiAddress, netfnVita4611, 0,
              vita4611GetFruAddressInfoCmd, [0x03, reqdata.getD 4 0]⟩) ∧
            ∀ reply, match (readReply reply).1 with
              | some response => if 6 < response.data.length
                  then post.value (0x03 :: (response.data.drop 1).take 6) manager
                  else post.fault .payloadIndex manager
              | none => post.value (0x03 :: addressInfo device) manager
          else post.value (0x03 :: addressInfo device) manager) post.fault := by
  by_cases short : reqdata.length < 8
  · simp [getAddTable, short]
  · simp (disch := omega) only [getAddTable, short, pre_reqByte_inside, Program.pre_bind,
      Program.pre_ite, Program.pre_read, Program.pre_pure, pre_lookupByKey, pre_derefDevice,
      pre_derefAssigned, pre_sendIpmbRequest, if_false]
    congr 2
    · rcases manager.findDeviceByPhysAddress (reqdata.getD 6 0) with _ | device <;> rfl
    · rcases manager.keyed (reqdata.getD 5 0) (reqdata.getD 6 0) with _ | (_ | device)
      · exact ite_self _
      · exact ite_self _
      · refine if_congr Iff.rfl (congrArg _ (forall_congr fun reply => ?_)) rfl
        rcases (readReply reply).1 with _ | response
        · rfl
        · simp only [Program.pre_bind, pre_payloadByte, Program.pre_pure]

theorem pre_getFruAddressInfo :
    (getFruAddressInfo reqdata).pre allowed post manager =
      if reqdata.length = 4 then post.value getChmFruInfo manager
      else if reqdata.length ≠ 8 ∨ reqdata.getD 4 0 ≠ 0 ∨ reqdata.getD 5 0 ≠ 3 then
        post.value [] manager
      else if reqdata.getD 7 0 = 0 then
        useFound manager (some (manager.findDeviceByPhysAddress (reqdata.getD 6 0)))
          (fun device => post.value (0x03 :: addressInfo device ++ [0xFF, 0xFF]) manager) post.fault
      else post.value [0x03] manager := by
  by_cases four : reqdata.length = 4
  · simp [getFruAddressInfo, four]
  · by_cases eight : reqdata.length = 8
    · simp (disch := omega) only [getFruAddressInfo, eight, pre_reqByte_inside,
        Program.pre_bind, Program.pre_ite, Program.pre_read, Program.pre_pure, pre_derefDevice]
      simp only [show ¬((8 : Nat) < 4 ∨ (8 : Nat) > 4 ∧ (8 : Nat) < 8 ∨ (8 : Nat) > 8) by decide,
        show ¬((8 : Nat) = 4) by decide, if_false, ne_eq, not_true_eq_false, false_or]
      rcases manager.findDeviceByPhysAddress (reqdata.getD 6 0) with _ | device <;>
        split_ifs <;> simp_all [useFound]
    · have refused : reqdata.length < 4 ∨ reqdata.length > 4 ∧ reqdata.length < 8 ∨
          reqdata.length > 8 := by omega
      simp [getFruAddressInfo, four, eight, refused]

theorem pre_getChassisManagerIpAddresses (addrNum : UInt8) :
    (getChassisManagerIpAddresses addrNum).pre allowed post manager =
      if addrNum > 0 then post.value [] manager
      else post.value (0x03 :: [manager.addressCount, manager.siteType, manager.siteNumber,
        manager.maxUnavailableTime, manager.addressType] ++ manager.ipAddress) manager := by
  simp only [getChassisManagerIpAddresses, Program.pre_bind, Program.pre_ite, Program.pre_read,
    Program.pre_pure]

theorem pre_withArgument (handler : UInt8 → Program interface ChassisManager (List UInt8)) :
    (withArgument reqdata handler).pre allowed post manager =
      if reqdata.length < 5 then post.value [] manager
      else (handler (reqdata.getD 4 0)).pre allowed post manager := by
  by_cases short : reqdata.length < 5
  · simp [withArgument, short, show ¬4 < reqdata.length by omega]
  · have long : 4 < reqdata.length := by omega
    simp only [withArgument, long, short, if_true, if_false, Program.pre_bind,
      pre_reqByte_inside long]

theorem pre_getFanLevel :
    (getFanLevel reqdata).pre allowed post manager =
      if reqdata.length < 5 then post.value [] manager
      else allowed manager .getFanPwm ∧ ∀ target : Option UInt64,
        allowed manager .unitActiveState ∧ ∀ state : Option String,
          post.value [0x03, 0xff, (target.getD 0).toUInt8,
            if state == some "active" then 1 else 0] manager := by
  by_cases short : reqdata.length < 5
  · simp [getFanLevel, short]
  · simp only [getFanLevel, short, if_false]
    rfl

theorem pre_setFanLevel :
    (setFanLevel reqdata).pre allowed post manager =
      if reqdata.length < 7 then post.value [] manager
      else if reqdata.getD 6 0 = 0 then
        allowed manager .stopUnit ∧ allowed manager (.setFanPwm (reqdata.getD 5 0).toUInt64) ∧
          post.value [0x03] manager
      else allowed manager .startUnit ∧ post.value [0x03] manager := by
  by_cases short : reqdata.length < 7
  · simp [setFanLevel, short]
  · simp (disch := omega) only [setFanLevel, short, pre_reqByte_inside, Program.pre_bind,
      Program.pre_ite, Program.pre_tryCatch, Program.pre_pure, pre_stopUnit, pre_setFanPwm,
      pre_startUnit, if_false, and_self]
    congr 1
    exact propext ⟨fun held => ⟨held.1, held.2.1.1, held.2.2⟩,
      fun held => ⟨held.1, held.2, held.2.2⟩⟩

/-- An admitted timeout stops the controller and arms the timer exactly when it is not zero. -/
theorem pre_stopFans {fanPolicyTimeout : UInt8} (admitted : ¬fanPolicyTimeout > 240)
    (post : Post interface ChassisManager Unit) :
    (stopFans fanPolicyTimeout).pre allowed post manager =
      if fanPolicyTimeout = 0 then post.value () manager
      else allowed manager .stopUnit ∧ post.value () { manager with
        fanRestartTimer := some ⟨fanPolicyTimeout.toNat * 5, true⟩ } ∧
        post.thrown .dbusError manager := by
  by_cases zero : fanPolicyTimeout = 0
  · simp [stopFans, zero]
  · have armed : fanPolicyTimeout > 0 ∧ fanPolicyTimeout ≠ 0xFF := by
      refine ⟨UInt8.pos_iff_ne_zero.mpr zero, fun full => admitted (by rw [full]; decide)⟩
    simp [stopFans, zero, armed, armFanRestartTimer]

theorem pre_setFanPolicy :
    (setFanPolicy reqdata).pre allowed post manager =
      let cancelled := { manager with fanRestartTimer := none }
      if reqdata.length < 9 ∨ reqdata.getD 4 0 ≠ 0 ∨ reqdata.getD 6 0 > 240 then
        post.value [] manager
      else if reqdata.getD 5 0 ≠ 0 then
        allowed cancelled .startUnit ∧ post.value [0x03] cancelled
      else if reqdata.getD 6 0 = 0 then post.value [0x03] cancelled
      else allowed cancelled .stopUnit ∧ post.value [0x03] { manager with
          fanRestartTimer := some ⟨(reqdata.getD 6 0).toNat * 5, true⟩ } ∧
        post.value [0x03] cancelled := by
  by_cases short : reqdata.length < 9
  · simp [setFanPolicy, short]
  · simp (disch := omega) only [setFanPolicy, short, pre_reqByte_inside, Program.pre_bind,
      Program.pre_ite, Program.pre_tryCatch, Program.pre_pure, Program.pre_modify,
      pre_startUnit, if_false, and_self, cancelFanRestartTimer, false_or]
    by_cases tray : reqdata.getD 4 0 = 0
    · by_cases late : reqdata.getD 6 0 > 240
      · simp only [tray, late, ne_eq, not_true_eq_false, if_false, if_true, false_or]
      · simp only [tray, late, ne_eq, not_true_eq_false, if_false, or_self, pre_stopFans late]
        split_ifs <;> rfl
    · simp only [tray, ne_eq, not_false_eq_true, if_true, true_or]

theorem pre_getFanPolicy :
    (getFanPolicy reqdata).pre allowed post manager =
      if reqdata.length < 7 then post.value [] manager
      else if reqdata.getD 4 0 ≠ 0xFF then
        allowed manager .unitActiveState ∧ ∀ state : Option String,
          allowed manager .indeterminate ∧ ∀ junk : Indeterminate,
            post.value [0x03, if state == some "active" then 1 else 0,
              if reqdata.getD 5 0 ≠ 0xFF ∨ reqdata.getD 6 0 ≠ 0xFF then 1 else junk.byte] manager
      else allowed manager .indeterminate ∧ ∀ junk : Indeterminate,
        post.value [0x03, 0,
          if reqdata.getD 5 0 ≠ 0xFF ∨ reqdata.getD 6 0 ≠ 0xFF then 1 else junk.byte] manager := by
  by_cases short : reqdata.length < 7
  · simp [getFanPolicy, short]
  · simp (disch := omega) only [getFanPolicy, short, pre_reqByte_inside, Program.pre_bind,
      Program.pre_ite, Program.pre_pure, pre_isServiceActive, pre_indeterminate, if_false]
    rfl

end Handlers

end Chassis.Vita4611
