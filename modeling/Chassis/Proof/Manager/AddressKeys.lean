import Chassis.Proof.Manager.Enumeration

namespace Chassis.Vita4611
open Effect Program Data

variable {manager : ChassisManager} {found reqdata : List UInt8} {key : UInt8}
  {device : Vita4611Device}

/-- Every device of the tables is found by each of its three numbers. -/
theorem Tabled.lookups (tabled : Tabled found manager) (probed : found.Sublist probedAddresses)
    (owned : manager.deviceMap key = some (some device)) :
    manager.findDeviceByHwAddress device.hwAddress = some device ∧
      manager.findDeviceByAddress device.ipmiAddress = some device ∧
      manager.findDeviceByPhysAddress device.siteNumber = some device := by
  obtain ⟨addr, keyed, at'⟩ := tabled.constructed owned
  obtain ⟨stored, ⟨slot, present, _, only⟩, ipmi, hw, site⟩ :=
    (tabled.of_probed probed).2.located addr (mem_of_numbered keyed)
  obtain rfl := only key device owned at'
  rw [owned] at present
  cases present
  rw [at'.hwAddress, at'.ipmiAddress, at'.siteNumber]
  exact ⟨hw, ipmi, site⟩

/-- The request asks for the table entry of FRU 0 of the device. -/
def AsksEntry (reqdata : List UInt8) (device : Vita4611Device) : Prop :=
  8 ≤ reqdata.length ∧ IsCommand reqdata vita4611GetChassisAddressTableInfoCmd ∧
    reqdata.getD 4 0 = 0 ∧
    (reqdata.getD 5 0 = 0 ∧ reqdata.getD 6 0 = device.hwAddress ∨
      reqdata.getD 5 0 = 1 ∧ reqdata.getD 6 0 = device.ipmiAddress ∨
      reqdata.getD 5 0 = 3 ∧ reqdata.getD 6 0 = device.siteNumber ∧ reqdata.getD 7 0 = 0)

/-- The request asks for the FRU address info of FRU 0 at the site of the device. -/
def AsksInfo (reqdata : List UInt8) (device : Vita4611Device) : Prop :=
  reqdata.length = 8 ∧ IsCommand reqdata vita4611GetFruAddressInfoCmd ∧ reqdata.getD 4 0 = 0 ∧
    reqdata.getD 5 0 = 3 ∧ reqdata.getD 6 0 = device.siteNumber ∧ reqdata.getD 7 0 = 0

/-- The request returns this reply. -/
def Replies (manager : ChassisManager) (reqdata reply : List UInt8) : Prop :=
  ∀ environment, ((handleChmCommand reqdata).run environment manager 0).outcome = .value reply

theorem replies_of_pre {reply : List UInt8} (met : (handleChmCommand reqdata).pre (fun _ _ => True)
    (.returns fun value _ => value = reply) manager) : Replies manager reqdata reply := by
  intro environment
  have ended := (pre_sound _ environment manager 0 met).2
  generalize ((handleChmCommand reqdata).run environment manager 0).outcome = outcome at ended
  cases outcome with
  | value value => exact congrArg _ ended
  | thrown exception => exact ended.elim
  | fault reason => exact ended.elim

/-- Any of the three address keys gets the address bytes of the device. -/
theorem getAddTable_replies (tabled : Tabled found manager)
    (probed : found.Sublist probedAddresses)
    (owned : manager.deviceMap key = some (some device)) (asks : AsksEntry reqdata device) :
    Replies manager reqdata (0x03 :: addressInfo device) := by
  obtain ⟨hw, ipmi, site⟩ := tabled.lookups probed owned
  obtain ⟨long, command, fru, asked⟩ := asks
  have filled : manager.chassisAddressTable.entries ≠ [] := by
    obtain ⟨addr, keyed, _⟩ := tabled.constructed owned
    rw [tabled.entries]
    simp [List.ne_nil_of_mem (mem_of_numbered keyed)]
  apply replies_of_pre
  rw [pre_command command (by omega)]
  change (getAddTable reqdata).pre _ _ _
  rw [pre_getAddTable, if_neg (by omega)]
  have admitted {addrKeyType : UInt8} (small : addrKeyType ≤ 3) (other : addrKeyType ≠ 2) :
      ¬(addrKeyType > 3 ∨ addrKeyType = 2 ∨ manager.chassisAddressTable.entries = []) := by
    rintro (large | two | none)
    · exact UInt8.not_lt.mpr small large
    · exact other two
    · exact filled none
  rcases asked with ⟨keyType, number⟩ | ⟨keyType, number⟩ | ⟨keyType, number, siteType⟩
  · rw [keyType, number, fru, if_neg (admitted (by decide) (by decide)),
      if_neg fun site => absurd site.1 (by decide), ChassisManager.keyed, if_pos rfl, hw]
    rfl
  · rw [keyType, number, fru, if_neg (admitted (by decide) (by decide)),
      if_neg fun site => absurd site.1 (by decide), ChassisManager.keyed, if_neg (by decide),
      if_pos rfl, ipmi]
    rfl
  · rw [keyType, number, if_neg (admitted (by decide) (by decide)), if_pos ⟨rfl, siteType⟩, site]
    rfl

/-- The site number gets the address bytes and two more. -/
theorem getFruAddressInfo_replies (tabled : Tabled found manager)
    (probed : found.Sublist probedAddresses)
    (owned : manager.deviceMap key = some (some device)) (asks : AsksInfo reqdata device) :
    Replies manager reqdata (0x03 :: addressInfo device ++ [0xFF, 0xFF]) := by
  obtain ⟨length, command, fru, keyType, number, siteType⟩ := asks
  apply replies_of_pre
  rw [pre_command command (by omega)]
  change (getFruAddressInfo reqdata).pre _ _ _
  have admitted : ¬(reqdata.length ≠ 8 ∨ reqdata.getD 4 0 ≠ 0 ∨ reqdata.getD 5 0 ≠ 3) := by
    rintro (short | other | typed)
    · exact short length
    · exact other fru
    · exact typed keyType
  rw [pre_getFruAddressInfo, if_neg (by omega), if_neg admitted, if_pos siteType, number,
    (tabled.lookups probed owned).2.2]
  rfl

section Enumerated

variable [Libm]

/-- After an enumeration each device's three address keys get the same seven bytes, and its FRU
address info is these bytes and two more. -/
theorem addressKeys_interchangeable {before : ChassisManager} (empty : Tabled [] before)
    (environment : Environment interface) (position : Nat)
    (returned : (enumerateI2cDevices.run environment before position).outcome = .value ())
    (owned : (enumerateI2cDevices.run environment before position).state.deviceMap key =
      some (some device)) :
    ∃ reply : List UInt8, reply.length = 7 ∧
      (∀ reqdata, AsksEntry reqdata device →
        Replies (enumerateI2cDevices.run environment before position).state reqdata reply) ∧
      ∀ reqdata, AsksInfo reqdata device →
        Replies (enumerateI2cDevices.run environment before position).state reqdata
          (reply ++ [0xFF, 0xFF]) := by
  obtain ⟨found, probed, tabled⟩ := enumerateI2cDevices_tabled empty environment position returned
  exact ⟨0x03 :: addressInfo device, rfl, fun _ asks => getAddTable_replies tabled probed owned asks,
    fun _ asks => getFruAddressInfo_replies tabled probed owned asks⟩

end Enumerated

section LoneModule

/-- The only module is found under key 1. -/
theorem addressKeys_loneModule : ∃ device, ∃ reply : List UInt8, reply.length = 7 ∧
    (∀ reqdata, AsksEntry reqdata device → Replies (@enumerateI2cDevices silentLibm |>.run
      loneModule .blank 0).state reqdata reply) ∧
    ∀ reqdata, AsksInfo reqdata device → Replies (@enumerateI2cDevices silentLibm |>.run
      loneModule .blank 0).state reqdata (reply ++ [0xFF, 0xFF]) := by
  have owns : ((@enumerateI2cDevices silentLibm |>.run loneModule .blank
      0).state.deviceMap 1).join.isSome := by decide +kernel
  obtain ⟨device, owned⟩ := Option.isSome_iff_exists.mp owns
  exact ⟨device, @addressKeys_interchangeable 1 device silentLibm _ blank_tabled loneModule 0
    (by decide +kernel) (Option.join_eq_some_iff.mp owned)⟩

end LoneModule

end Chassis.Vita4611
