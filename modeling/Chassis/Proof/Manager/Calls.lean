import Chassis.Construction.Manager.Device
import Chassis.Effect.Keeps

namespace Chassis.Vita4611
open Effect Program

section Silence

/-- Such a program sends no request. -/
abbrev SendsNothing {Value : Type} (program : Program interface Vita4611Device Value) : Prop :=
  Keeps (fun _ op => op = Op.indeterminate) (fun _ => True) (fun _ => True) program

theorem payloadByte_silent {data : List UInt8} {index : Nat} :
    SendsNothing (payloadByte data index) := by
  unfold payloadByte
  split
  · exact keeps_pure _
  · exact keeps_fault trivial

theorem payloadRange_silent {data : List UInt8} {first last : Nat} :
    SendsNothing (payloadRange data first last) :=
  keeps_ite (fun _ => keeps_pure _) fun _ => keeps_fault trivial

theorem indeterminate_silent : SendsNothing indeterminate := keeps_ask fun _ _ => rfl

theorem handleFullSdr_silent [Libm] (sdrheader sdrvals : List UInt8) :
    SendsNothing (Vita4611Device.handleFullSdr sdrheader sdrvals) := by
  apply keeps_bind payloadByte_silent
  intro idLength
  apply keeps_bind payloadRange_silent
  intro sdrName
  apply keeps_bind indeterminate_silent
  exact fun junk => keeps_modify fun _ _ => trivial

theorem handleCompactSdr_silent (sdrheader sdrvals : List UInt8) :
    SendsNothing (Vita4611Device.handleCompactSdr sdrheader sdrvals) := by
  apply keeps_bind payloadByte_silent
  intro idLength
  apply keeps_bind payloadRange_silent
  intro sdrName
  apply keeps_bind indeterminate_silent
  exact fun junk => keeps_modify fun _ _ => trivial

theorem addMandatorySensors_silent (fru : UInt8) (response : Option Ipmb.SendRequestReply) :
    SendsNothing (Vita4611Device.addMandatorySensors fru response) := by
  cases response with
  | none => exact keeps_pure true
  | some response =>
      apply keeps_bind payloadByte_silent
      intro identifier
      apply keeps_ite
      · exact fun _ => keeps_pure false
      · intro _
        apply keeps_bind indeterminate_silent
        intro junk
        apply keeps_bind (keeps_modify fun _ _ => trivial)
        intro _
        apply keeps_bind
        · apply keeps_forEach
          intro role
          exact keeps_bind payloadByte_silent fun number => keeps_modify fun _ _ => trivial
        · exact fun _ => keeps_pure true

theorem updateFromInfo_silent (info : Option Ipmb.SendRequestReply)
    (update : UInt8 → Vita4611Device → Vita4611Device) :
    SendsNothing (Vita4611Device.updateFromInfo info update) := by
  cases info with
  | none => exact keeps_pure ()
  | some info => exact keeps_bind payloadByte_silent fun byte => keeps_modify fun _ _ => trivial

end Silence

section Records

/-- The reading of records asks for parts of records and sends no other request. -/
structure RecordCalls (allowed : Op → Prop) : Prop where
  getSdr : ∀ arguments, arguments.netfn = netfnSE → arguments.cmd = ipmitoolCmdGetSdr →
    allowed (.sendRequest arguments)
  indeterminate : allowed .indeterminate

/-- A device program makes only such calls. -/
abbrev CallsOnly {Value : Type} (allowed : Op → Prop)
    (program : Program interface Vita4611Device Value) : Prop :=
  Keeps (fun _ op => allowed op) (fun _ => True) (fun _ => True) program

variable {allowed : Op → Prop}

theorem callsOnly_request {channel addr netfn lun cmd : UInt8} {data : List UInt8}
    (request : allowed (.sendRequest ⟨channel, addr, netfn, lun, cmd, data⟩)) :
    CallsOnly allowed (sendIpmbRequest channel addr netfn lun cmd data) :=
  keeps_bind (keeps_ask fun _ _ => request) fun _ => keeps_pure _

theorem callsOnly_optionalValue {Value : Type} {value : Option Value} :
    CallsOnly allowed (optionalValue value) := by
  cases value with
  | none => exact keeps_throw _
  | some value => exact keeps_pure value

theorem callsOnly_payloadByte {data : List UInt8} {index : Nat} :
    CallsOnly allowed (payloadByte data index) := by
  unfold payloadByte
  split
  · exact keeps_pure _
  · exact keeps_fault trivial

variable (calls : RecordCalls allowed)
include calls

theorem callsOnly_of_silent {Value : Type} {program : Program interface Vita4611Device Value}
    (silent : SendsNothing program) : CallsOnly allowed program := by
  intro device initial
  refine pre_mono (silent device initial) ?_ (fun _ _ held => held) (fun _ _ held => held)
    (fun _ _ held => held)
  rintro _ _ rfl
  exact calls.indeterminate

theorem callsOnly_getSdrHeader (resId : UInt8 × UInt8) (index : UInt8) :
    CallsOnly allowed (Vita4611Device.getSdrHeader resId index) := by
  apply keeps_read
  intro device _
  apply keeps_bind (callsOnly_request (calls.getSdr _ rfl rfl))
  intro _
  exact keeps_bind callsOnly_optionalValue fun _ => keeps_pure _

theorem callsOnly_getSdrSections (resId : UInt8 × UInt8) (index : UInt8) (length fuel : Nat)
    (section' total sectionTotal : UInt8) (body : List UInt8) :
    CallsOnly allowed (Vita4611Device.getSdrSections resId index length fuel section' total
      sectionTotal body) := by
  induction fuel generalizing section' total sectionTotal body with
  | zero => exact keeps_pure _
  | succ fuel ih =>
      apply keeps_read
      intro device _
      apply keeps_bind (callsOnly_request (calls.getSdr _ rfl rfl))
      intro _
      apply keeps_bind callsOnly_optionalValue
      intro response
      exact keeps_ite (fun _ => ih _ _ _ _) fun _ => keeps_pure _

theorem callsOnly_readSdr [Libm] (resId : UInt8 × UInt8) (index : UInt8) :
    CallsOnly allowed (Vita4611Device.readSdr resId index) := by
  apply keeps_bind (callsOnly_getSdrHeader calls resId index)
  intro sdrheader
  apply keeps_ite (fun _ => keeps_pure ())
  intro _
  apply keeps_bind (callsOnly_getSdrSections calls _ _ _ _ _ _ _ _)
  intro sdrvals
  apply keeps_tryCatch
  · apply keeps_ite (fun _ => callsOnly_of_silent calls (handleFullSdr_silent sdrheader sdrvals))
    intro _
    exact keeps_ite
      (fun _ => callsOnly_of_silent calls (handleCompactSdr_silent sdrheader sdrvals))
      fun _ => keeps_pure ()
  · exact fun _ => keeps_pure ()

theorem callsOnly_readSdrs [Libm] (resId : UInt8 × UInt8) (indices : List UInt8)
    (retryCount : Int) : CallsOnly allowed (Vita4611Device.readSdrs resId indices retryCount) := by
  induction indices generalizing retryCount with
  | nil => exact keeps_pure ()
  | cons index rest ih =>
      apply keeps_bind
      · apply keeps_tryCatch
        · exact keeps_bind (callsOnly_readSdr calls resId index) fun _ => keeps_pure false
        · exact fun _ => keeps_pure true
      · intro failed
        apply keeps_ite
        · intro _
          exact keeps_ite (fun _ => keeps_pure ()) fun _ => ih (retryCount + 1)
        · exact fun _ => ih retryCount

/-- The records are read behind a reservation. -/
theorem callsOnly_getAllSdrs [Libm] (reserve : ∀ arguments : Ipmb.SendRequest,
      arguments.netfn = netfnSE → arguments.cmd = ipmitoolCmdReserveSdrRepo →
        allowed (.sendRequest arguments)) :
    CallsOnly allowed Vita4611Device.getAllSdrs := by
  apply keeps_bind
  · apply keeps_read
    intro device _
    apply keeps_bind (callsOnly_request (reserve _ rfl rfl))
    intro _
    apply keeps_bind callsOnly_optionalValue
    intro response
    exact keeps_bind callsOnly_payloadByte fun _ =>
      keeps_bind callsOnly_payloadByte fun _ => keeps_pure _
  · intro resId
    apply keeps_bind (callsOnly_of_silent calls indeterminate_silent)
    intro junk
    apply keeps_read
    exact fun device _ => callsOnly_readSdrs calls resId _ _

end Records

end Chassis.Vita4611
