import Chassis.Proof.Manager.Dispatch

namespace Chassis.Vita4611
open Effect Program

/-- A device is enumerated when its address was discovered and a device object answers to it. -/
def ChassisManager.Enumerates (manager : ChassisManager) (ipmiAddress : UInt8) : Prop :=
  manager.verifyIpmiAddressIsValid ipmiAddress = true ∧
    (manager.findDeviceByAddress ipmiAddress).isSome = true

/-- The request that a command is forwarded as. The standard's commands get the identifier in front. -/
def forwardedRequest (ch : UInt8) (reqdata : List UInt8) : Ipmb.SendRequest where
  reqChannel := ch
  addr := reqdata.getD 0 0
  netfn := reqdata.getD 1 0
  lun := reqdata.getD 2 0
  cmd := reqdata.getD 3 0
  dataReceived :=
    if reqdata.getD 1 0 = netfnVita4611 then 0x03 :: reqdata.drop 4 else reqdata.drop 4

/-- The response that passes an answer of the device on. -/
def transparent (result : Ipmb.SendRequestReply) : RspType :=
  if result.cc = 0 then responseSuccess result.data else response result.cc

section Forwarding

variable {manager : ChassisManager} {reqdata : List UInt8} {environment : Environment interface}
  {position : Nat} {ch : UInt8} {result : Ipmb.SendRequestReply}

/-- A command for an enumerated device reaches one of the two forwarding branches. -/
theorem run_forwarded (linked : manager.channel = some ch) (long : 4 ≤ reqdata.length)
    (other : reqdata.getD 0 0 ≠ chmcIpmiAddress)
    (enumerated : manager.Enumerates (reqdata.getD 0 0)) :
    (executePassthroughCmd reqdata).run environment manager position =
      if reqdata.getD 1 0 = netfnVita4611 then
        (forwardVita ch (reqdata.getD 0 0) (reqdata.getD 2 0) (reqdata.getD 3 0) true
          (reqdata.drop 4)).run environment manager position
      else
        (forwardIpmi ch (reqdata.getD 0 0) (reqdata.getD 1 0) (reqdata.getD 2 0) (reqdata.getD 3 0)
          true (reqdata.drop 4)).run environment manager position := by
  have short : ¬reqdata.length < 4 := by omega
  have valid : ¬manager.verifyIpmiAddressIsValid (reqdata.getD 0 0) = false := by
    rw [enumerated.1]
    exact Bool.noConfusion
  rw [ChassisManager.channel] at linked
  simp (disch := omega) only [executePassthroughCmd, run_bind, run_read, andThen_value, linked,
    run_reqByte, List.length_nil, Nat.add_zero, List.nil_append, run_ite, if_neg short, if_neg other,
    if_neg valid, enumerated.2]

theorem run_responseWithCode (cc : UInt8) :
    ((responseWithCode (some cc)).run environment manager position).outcome =
      .value (response cc) := rfl

/-- Only the capabilities query hides the completion code of the device. -/
theorem run_forwardVita (addr lun cmd : UInt8) (arguments : List UInt8)
    (answered : environment position
      (.sendRequest ⟨ch, addr, netfnVita4611, lun, cmd, 0x03 :: arguments⟩) = .reply result) :
    ((forwardVita ch addr lun cmd true arguments).run environment manager position).outcome =
      .value (if result.cc ≠ 0 ∧ cmd = vita4611GetVsoCapsCmd then responseCmdFailInitAgent
        else transparent result) := by
  unfold forwardVita transparent
  rw [if_pos rfl, run_bind, run_sendIpmbRequest, answered, readReply_reply]
  by_cases succeeded : result.cc = 0
  · simp [succeeded]
  · by_cases capabilities : cmd = vita4611GetVsoCapsCmd
    · simp [succeeded, capabilities]
    · simp [succeeded, capabilities, run_responseWithCode]

theorem run_forwardIpmi (addr netFn lun cmd : UInt8) (arguments : List UInt8)
    (answered : environment position
      (.sendRequest ⟨ch, addr, netFn, lun, cmd, arguments⟩) = .reply result) :
    ((forwardIpmi ch addr netFn lun cmd true arguments).run environment manager position).outcome =
      .value (transparent result) := by
  unfold forwardIpmi transparent
  rw [if_pos rfl, run_bind, run_sendIpmbRequest, answered, readReply_reply]
  by_cases succeeded : result.cc = 0
  · simp [succeeded]
  · simp [succeeded, run_responseWithCode]

/-- The request asks a device for its capabilities, whose failure has a response of its own. -/
def HidesCode (reqdata : List UInt8) (cc : UInt8) : Prop :=
  reqdata.getD 1 0 = netfnVita4611 ∧ reqdata.getD 3 0 = vita4611GetVsoCapsCmd ∧ cc ≠ 0 ∧ cc ≠ 0xD2

theorem transparent_failed (failed : result.cc ≠ 0) :
    transparent result = responseCmdFailInitAgent ↔ result.cc = 0xD2 := by
  unfold transparent responseCmdFailInitAgent response
  rw [if_neg failed, RspType.mk.injEq]
  simp

/-- A forwarded command passes the answer of the device on, unless it is a capabilities query that
failed with another code than the one that the response always has. -/
theorem passthrough_transparent_iff (linked : manager.channel = some ch)
    (long : 4 ≤ reqdata.length) (other : reqdata.getD 0 0 ≠ chmcIpmiAddress)
    (enumerated : manager.Enumerates (reqdata.getD 0 0))
    (answered : environment position (.sendRequest (forwardedRequest ch reqdata)) =
      .reply result) :
    ((executePassthroughCmd reqdata).run environment manager position).outcome =
        .value (transparent result) ↔
      ¬HidesCode reqdata result.cc := by
  unfold forwardedRequest at answered
  unfold HidesCode
  rw [run_forwarded linked long other enumerated]
  by_cases vita : reqdata.getD 1 0 = netfnVita4611
  · rw [if_pos vita, vita] at answered
    rw [if_pos vita, run_forwardVita _ _ _ _ answered, Outcome.value.injEq]
    by_cases hidden : result.cc ≠ 0 ∧ reqdata.getD 3 0 = vita4611GetVsoCapsCmd
    · rw [if_pos hidden, eq_comm, transparent_failed hidden.1]
      simp only [vita, hidden.1, hidden.2, true_and, ne_eq, not_false_eq_true, not_not]
    · rw [if_neg hidden]
      simp only [vita, true_and, true_iff]
      exact fun hides => hidden ⟨hides.2.1, hides.1⟩
  · rw [if_neg vita] at answered
    rw [if_neg vita, run_forwardIpmi _ _ _ _ _ answered]
    simp only [vita, false_and, not_false_eq_true]

end Forwarding

section Refusal

/-- Every request is refused with the code of an invalid command. -/
def refusingModule : Environment interface := fun _ op =>
  match op with
  | .sendRequest _ => DBusReply.reply ⟨0, 0x2d, 0, 0, 0xC1, []⟩
  | op => (default : op.Answer)

theorem loneManager_enumerates : loneManager.Enumerates 0x82 := ⟨by decide +kernel, by decide +kernel⟩

/-- The refusal of another command of the standard reaches the client. -/
theorem passthrough_transparent_iff_refused :
    ((executePassthroughCmd [0x82, 0x2c, 0, 0x44]).run refusingModule loneManager 0).outcome =
        .value (transparent ⟨0, 0x2d, 0, 0, 0xC1, []⟩) ↔
      ¬HidesCode [0x82, 0x2c, 0, 0x44] 0xC1 :=
  passthrough_transparent_iff (show loneManager.channel = some 0 by decide +kernel) (by decide)
    (by decide) loneManager_enumerates rfl

/-- The refusal of the capabilities query reaches the client as a failed initialisation agent. -/
theorem passthrough_opaque : ¬∀ (_ : Libm) (manager : ChassisManager), Started manager →
    ∀ (reqdata : List UInt8) (environment : Environment interface) (ch : UInt8)
      (result : Ipmb.SendRequestReply), manager.channel = some ch → 4 ≤ reqdata.length →
      reqdata.getD 0 0 ≠ chmcIpmiAddress → manager.Enumerates (reqdata.getD 0 0) →
      environment 0 (.sendRequest (forwardedRequest ch reqdata)) = .reply result →
      ((executePassthroughCmd reqdata).run environment manager 0).outcome =
        .value (transparent result) := by
  intro always
  have passed := always silentLibm loneManager loneManager_started [0x82, 0x2c, 0, 0]
    refusingModule 0 ⟨0, 0x2d, 0, 0, 0xC1, []⟩ (by decide +kernel) (by decide) (by decide)
    loneManager_enumerates rfl
  exact absurd passed (by decide +kernel)

end Refusal

end Chassis.Vita4611
