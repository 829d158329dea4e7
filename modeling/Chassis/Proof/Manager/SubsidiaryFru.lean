import Chassis.Proof.Manager.Passthrough
import Chassis.Proof.Manager.Enumeration

namespace Chassis.Vita4611
open Effect Program

/-- The request that asks a device for the addresses of one of its FRUs. -/
def fruInfoRequest (device : Vita4611Device) (fru : UInt8) : Ipmb.SendRequest :=
  ⟨0, device.ipmiAddress, netfnVita4611, 0, vita4611GetFruAddressInfoCmd, [0x03, fru]⟩

/-- The key of the request designates this device. -/
def Designates (manager : ChassisManager) (reqdata : List UInt8) (device : Vita4611Device) : Prop :=
  (reqdata.getD 5 0 = 0 → manager.findDeviceByHwAddress (reqdata.getD 6 0) = some device) ∧
    (reqdata.getD 5 0 = 1 → manager.findDeviceByAddress (reqdata.getD 6 0) = some device) ∧
    (reqdata.getD 5 0 = 3 → manager.findDeviceByPhysAddress (reqdata.getD 6 0) = some device)

/-- The reply is empty, or it holds the six bytes that the device returned for the FRU. -/
def AnswersForFru (device : Vita4611Device) (fru : UInt8)
    (run : Run interface ChassisManager (List UInt8)) : Prop :=
  run.outcome = .value [] ∨ ∃ (state : ChassisManager) (result : Ipmb.SendRequestReply),
    ⟨state, .sendRequest (fruInfoRequest device fru), .reply result⟩ ∈ run.calls ∧
      result.cc = 0 ∧ 7 ≤ result.data.length ∧
      run.outcome = .value (0x03 :: (result.data.drop 1).take 6)

/-- A request without arguments or with an impossible key type is refused, and so is every request
for an empty table. -/
def Refused (manager : ChassisManager) (reqdata : List UInt8) : Prop :=
  reqdata.length < 8 ∨ reqdata.getD 5 0 > 3 ∨ reqdata.getD 5 0 = 2 ∨
    manager.chassisAddressTable.entries = []

/-- The answer carries the identifier and six address bytes. -/
def Informs (answer : DBusReply) : Prop :=
  ∃ result, answer = .reply result ∧ result.cc = 0 ∧ 7 ≤ result.data.length

section Handler

variable {manager : ChassisManager} {reqdata : List UInt8} {device : Vita4611Device}
  {environment : Environment interface} {position : Nat}

theorem run_getAddTable_refused (refused : Refused manager reqdata) :
    ((getAddTable reqdata).run environment manager position).outcome = .value [] := by
  by_cases short : reqdata.length < 8
  · simp [getAddTable, short]
  · have rejected := refused.resolve_left short
    simp (disch := omega) only [getAddTable, if_neg short, run_bind, run_reqByte, andThen_value,
      run_read, run_ite, if_pos rejected, run_pure]

theorem run_derefDevice (position : Nat) :
    (derefDevice (some device)).run environment manager position =
      ⟨.value device, manager, []⟩ := rfl

theorem run_derefAssigned (position : Nat) :
    (derefAssigned (some (some device))).run environment manager position =
      ⟨.value device, manager, []⟩ := rfl

theorem run_lookupByKey (addrKeyType addrKey : UInt8) :
    (lookupByKey addrKeyType addrKey).run environment manager position =
      ⟨.value (manager.keyed addrKeyType addrKey), manager, []⟩ := by
  simp only [lookupByKey, ChassisManager.keyed, run_bind, run_read, andThen_value, run_ite, run_pure,
    List.length_nil, Nat.add_zero, List.nil_append]
  split_ifs <;> rfl

section Admitted

variable (admitted : ¬Refused manager reqdata) (designated : Designates manager reqdata device)
include admitted

omit designated in
theorem admitted_long : ¬reqdata.length < 8 := fun short => admitted (.inl short)

omit designated in
theorem admitted_keyType : ¬(reqdata.getD 5 0 > 3 ∨ reqdata.getD 5 0 = 2 ∨
    manager.chassisAddressTable.entries = []) := fun rejected => admitted (.inr rejected)

/-- Three key types are admitted. -/
theorem admitted_cases : (reqdata.getD 5 0 = 0 ∨ reqdata.getD 5 0 = 1) ∨ reqdata.getD 5 0 = 3 := by
  have accepted := admitted_keyType admitted
  have small : (reqdata.getD 5 0).toNat ≤ 3 := by
    by_contra large
    have above : (3 : UInt8).toNat < (reqdata.getD 5 0).toNat := Nat.lt_of_not_le large
    exact accepted (.inl (UInt8.lt_iff_toNat_lt.mpr above))
  have other : (reqdata.getD 5 0).toNat ≠ 2 := by
    intro two
    exact accepted (.inr (.inl (UInt8.toNat.inj two)))
  have cases : (reqdata.getD 5 0).toNat = 0 ∨ (reqdata.getD 5 0).toNat = 1 ∨
      (reqdata.getD 5 0).toNat = 3 := by omega
  rcases cases with zero | one | three
  · exact .inl (.inl (UInt8.toNat.inj zero))
  · exact .inl (.inr (UInt8.toNat.inj one))
  · exact .inr (UInt8.toNat.inj three)

include designated

/-- A site of type 0 gets the device's own addresses, whatever its FRU. -/
theorem run_getAddTable_site (keyType : reqdata.getD 5 0 = 3) (siteType : reqdata.getD 7 0 = 0) :
    (getAddTable reqdata).run environment manager position =
      ⟨.value (0x03 :: addressInfo device), manager, []⟩ := by
  have long := admitted_long admitted
  have own : reqdata.getD 5 0 = 3 ∧ reqdata.getD 7 0 = 0 := ⟨keyType, siteType⟩
  simp (disch := omega) only [getAddTable, if_neg long, run_bind, run_reqByte, andThen_value,
    run_read, run_ite, if_neg (admitted_keyType admitted), if_pos own, designated.2.2 keyType,
    run_derefDevice, run_pure, List.nil_append]

omit designated in
/-- A site of another type is read through a pointer that nothing assigned. -/
theorem run_getAddTable_unassigned (fru : reqdata.getD 4 0 > 0) (keyType : reqdata.getD 5 0 = 3)
    (siteType : reqdata.getD 7 0 ≠ 0) :
    (getAddTable reqdata).run environment manager position =
      ⟨.fault .unassignedDevice, manager, []⟩ := by
  have long := admitted_long admitted
  have other : ¬(reqdata.getD 5 0 = 3 ∧ reqdata.getD 7 0 = 0) := fun own => siteType own.2
  have missing : manager.keyed (reqdata.getD 5 0) (reqdata.getD 6 0) = none := by
    rw [keyType]
    rfl
  simp (disch := omega) only [getAddTable, if_neg long, run_bind, run_reqByte, andThen_value,
    run_read, run_ite, if_neg (admitted_keyType admitted), if_neg other, run_lookupByKey, missing,
    if_pos fru, List.nil_append]
  rfl

/-- The device is asked over its two addresses, and a failed request gets its own addresses. -/
theorem run_getAddTable_asked (fru : reqdata.getD 4 0 > 0)
    (keyType : reqdata.getD 5 0 = 0 ∨ reqdata.getD 5 0 = 1) :
    let request : Op := .sendRequest (fruInfoRequest device (reqdata.getD 4 0))
    (getAddTable reqdata).run environment manager position =
      ⟨match (readReply (environment position request)).1 with
        | some response =>
            if 7 ≤ response.data.length then .value (0x03 :: (response.data.drop 1).take 6)
            else .fault .payloadIndex
        | none => .value (0x03 :: addressInfo device),
        manager, [⟨manager, request, environment position request⟩]⟩ := by
  have long := admitted_long admitted
  have other : ¬(reqdata.getD 5 0 = 3 ∧ reqdata.getD 7 0 = 0) := by
    rintro ⟨three, _⟩
    rw [three] at keyType
    exact absurd keyType (by decide)
  have found : manager.keyed (reqdata.getD 5 0) (reqdata.getD 6 0) = some (some device) := by
    unfold ChassisManager.keyed
    rcases keyType with zero | one
    · rw [if_pos zero, designated.1 zero]
    · rw [if_neg (by rw [one]; decide), if_pos one, designated.2.1 one]
  simp (disch := omega) only [getAddTable, if_neg long, run_bind, run_reqByte, andThen_value,
    run_read, run_ite, if_neg (admitted_keyType admitted), if_neg other, run_lookupByKey, found,
    if_pos fru, run_derefAssigned, run_sendIpmbRequest, List.nil_append, List.length_nil,
    Nat.add_zero]
  unfold fruInfoRequest
  generalize environment position (.sendRequest ⟨0, device.ipmiAddress, netfnVita4611, 0,
    vita4611GetFruAddressInfoCmd, [0x03, reqdata.getD 4 0]⟩) = reply
  rcases (readReply reply).1 with _ | response
  · rfl
  · by_cases whole : 7 ≤ response.data.length
    · have inside : 6 < response.data.length := by omega
      simp only [payloadByte, List.getElem?_eq_getElem inside, run_bind, run_pure, andThen_value,
        if_pos whole, List.append_nil]
    · have outside : response.data.length ≤ 6 := by omega
      simp only [payloadByte, List.getElem?_eq_none outside, run_bind, run_fault, Run.andThen,
        if_neg whole, List.append_nil]

end Admitted

/-- Neither branch of the exchange has an empty reply. -/
theorem informed_ne_nil (answer : DBusReply) (device : Vita4611Device) :
    (match (readReply answer).1 with
      | some response =>
          if 7 ≤ response.data.length then .value (0x03 :: (response.data.drop 1).take 6)
          else .fault .payloadIndex
      | none => .value (0x03 :: addressInfo device) : Outcome interface (List UInt8)) ≠
      .value [] := by
  rcases (readReply answer).1 with _ | response
  · simp
  · dsimp only
    split_ifs
    · simp
    · simp

/-- A request for a subsidiary FRU is answered as it should be exactly when it is refused, or when it
names the device by one of its two addresses and the device returns the six bytes. -/
theorem subsidiary_answered_iff (fru : reqdata.getD 4 0 > 0)
    (designated : Designates manager reqdata device) :
    AnswersForFru device (reqdata.getD 4 0)
        ((getAddTable reqdata).run environment manager position) ↔
      Refused manager reqdata ∨ (reqdata.getD 5 0 = 0 ∨ reqdata.getD 5 0 = 1) ∧
        Informs (environment position
          (.sendRequest (fruInfoRequest device (reqdata.getD 4 0)))) := by
  unfold AnswersForFru
  by_cases refused : Refused manager reqdata
  · simp only [run_getAddTable_refused refused, true_or, refused]
  simp only [refused, false_or]
  rcases admitted_cases refused with keyType | keyType
  · rw [run_getAddTable_asked refused designated fru keyType]
    simp only [keyType, true_and, List.mem_singleton]
    constructor
    · rintro (empty | ⟨state, result, asked, code, long, _⟩)
      · exact (informed_ne_nil _ device empty).elim
      · injection asked with _ _ answered
        exact ⟨result, answered.symm, code, long⟩
    · rintro ⟨result, answered, code, long⟩
      refine .inr ⟨manager, result, ?_, code, long, ?_⟩
      · rw [answered]
      · rw [answered, readReply_reply, if_pos code]
        exact if_pos long
  · have unaddressed : ¬(reqdata.getD 5 0 = 0 ∨ reqdata.getD 5 0 = 1) := by
      rw [keyType]
      decide
    simp only [unaddressed, false_and, iff_false]
    by_cases siteType : reqdata.getD 7 0 = 0
    · rw [run_getAddTable_site refused designated keyType siteType]
      simp
    · rw [run_getAddTable_unassigned refused fru keyType siteType]
      simp

end Handler

section LoneModule

/-- Get Chassis Address Table Info for FRU 1 of the only module, by its IPMB address. -/
def subsidiaryRequest : List UInt8 := [0x40, 0x2c, 0, 0x01, 1, 1, 0x82, 0]

def loneDevice : Vita4611Device := (loneManager.findDeviceByAddress 0x82).getD default

theorem loneDevice_designated : Designates loneManager subsidiaryRequest loneDevice :=
  ⟨by decide, fun _ => by decide +kernel, by decide⟩

/-- The silent module leaves the request without an answer. -/
theorem subsidiary_answered_iff_silent :
    AnswersForFru loneDevice 1 ((getAddTable subsidiaryRequest).run loneModule loneManager 0) ↔
      Refused loneManager subsidiaryRequest ∨
        (subsidiaryRequest.getD 5 0 = 0 ∨ subsidiaryRequest.getD 5 0 = 1) ∧
          Informs (loneModule 0 (.sendRequest (fruInfoRequest loneDevice 1))) :=
  subsidiary_answered_iff (show subsidiaryRequest.getD 4 0 > 0 by decide) loneDevice_designated

/-- The module does not answer, and the reply names its FRU 0. -/
theorem subsidiary_replaced : ¬∀ (_ : Libm) (manager : ChassisManager), Started manager →
    ∀ (reqdata : List UInt8) (device : Vita4611Device) (environment : Environment interface),
      reqdata.getD 4 0 > 0 → Designates manager reqdata device →
      AnswersForFru device (reqdata.getD 4 0)
        ((getAddTable reqdata).run environment manager 0) := by
  intro always
  have answered := always silentLibm loneManager loneManager_started subsidiaryRequest loneDevice
    loneModule (by decide) loneDevice_designated
  have admitted : ¬Refused loneManager subsidiaryRequest := by
    unfold Refused
    decide +kernel
  rw [run_getAddTable_asked admitted loneDevice_designated (by decide) (.inr rfl)] at answered
  rcases answered with empty | ⟨state, result, asked, _⟩
  · cases empty
  · rw [List.mem_singleton] at asked
    injection asked with _ _ silent
    cases silent

end LoneModule

end Chassis.Vita4611
