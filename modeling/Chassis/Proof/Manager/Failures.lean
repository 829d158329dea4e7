import Chassis.Effect.Escape
import Chassis.Proof.Manager.Bounds
import Chassis.Proof.Manager.Outline
import Chassis.Proof.Manager.PayloadBounds
import Chassis.Proof.Manager.SdrReread

namespace Chassis.Vita4611
open Effect Program

/-- A Reserve SDR Repository request got no answer that its sender can use. -/
def Unreserved : Exchange interface → Prop
  | ⟨.sendRequest arguments, answer⟩ =>
      arguments.netfn = netfnSE ∧ arguments.cmd = ipmitoolCmdReserveSdrRepo ∧ Fails answer
  | _ => False

/-- An exception escapes from a device program exactly when such a request failed. -/
abbrev Escapes {Value : Type} (program : Program interface Vita4611Device Value) : Prop :=
  ThrowsAt Unreserved program

section Parts

variable {channel addr netfn lun cmd : UInt8} {data : List UInt8}

/-- Other requests cannot be such a request. -/
theorem not_unreserved {arguments : Ipmb.SendRequest}
    (other : arguments.netfn ≠ netfnSE ∨ arguments.cmd ≠ ipmitoolCmdReserveSdrRepo)
    (answer : DBusReply) : ¬Unreserved ⟨.sendRequest arguments, answer⟩ := by
  rintro ⟨netfn, cmd, _⟩
  exact other.elim (fun different => different netfn) fun different => different cmd

theorem sendIpmbRequest_throwsAt (other : netfn ≠ netfnSE ∨ cmd ≠ ipmitoolCmdReserveSdrRepo) :
    Escapes (sendIpmbRequest channel addr netfn lun cmd data) :=
  throwsAt_bind (throwsAt_ask (not_unreserved other)) fun _ => throwsAt_pure _

theorem indeterminate_throwsAt : Escapes indeterminate := throwsAt_ask fun _ => not_false

theorem payloadByte_throwsAt {index : Nat} : Escapes (payloadByte data index) := by
  unfold payloadByte
  split
  · exact throwsAt_pure _
  · exact throwsAt_fault _

theorem payloadRange_throwsAt {first last : Nat} : Escapes (payloadRange data first last) :=
  throwsAt_ite (fun _ => throwsAt_pure _) fun _ => throwsAt_fault _

/-- The reading of records does not reserve. -/
theorem records_calm : RecordCalls fun op => ∀ answer, ¬Unreserved ⟨op, answer⟩ where
  getSdr arguments _ cmd := by
    refine not_unreserved (.inr ?_)
    rw [cmd]
    decide
  indeterminate _ := not_false

end Parts

section Devices

open Vita4611Device

/-- The reservation is unwrapped without a handler. -/
theorem reserveSdrRepo_throwsAt : Escapes Vita4611Device.reserveSdrRepo := by
  intro environment device position
  let answer := environment position (.sendRequest device.reserveRequest)
  let used : Option Ipmb.SendRequestReply → Program interface Vita4611Device (UInt8 × UInt8) :=
    fun reply => do
      let response ← optionalValue reply
      let first ← payloadByte response.data 0
      let second ← payloadByte response.data 1
      Pure.pure (first, second)
  let later := (used (readReply answer).1).run environment device (position + 1)
  have ran : Vita4611Device.reserveSdrRepo.run environment device position =
    ⟨later.outcome, later.state, ⟨device, .sendRequest device.reserveRequest, answer⟩ ::
      later.calls⟩ := rfl
  rw [ran]
  dsimp only [later]
  rcases reply : (readReply answer).1 with _ | response
  · exact iff_of_true ⟨.badOptionalAccess, rfl⟩ ⟨_, List.mem_cons_self, rfl, rfl, reply⟩
  · have reserved : ¬Unreserved ⟨.sendRequest device.reserveRequest, answer⟩ := by
      rintro ⟨_, _, fails⟩
      cases fails.symm.trans reply
    have read : Escapes (used (some response)) :=
      throwsAt_bind (throwsAt_pure response) fun _ =>
        throwsAt_bind payloadByte_throwsAt fun _ =>
          throwsAt_bind payloadByte_throwsAt fun _ => throwsAt_pure _
    refine (read environment device (position + 1)).trans ?_
    simp only [Run.exchanges, List.map_cons, List.mem_cons, exists_eq_or_imp]
    exact (or_iff_right reserved).symm

/-- All failures behind the reservation are caught. -/
theorem readSdrs_throwsAt [Libm] (resId : UInt8 × UInt8) (indices : List UInt8) (retryCount : Int) :
    Escapes (readSdrs resId indices retryCount) := by
  induction indices generalizing retryCount with
  | nil => exact throwsAt_pure ()
  | cons index rest ih =>
      apply throwsAt_bind
      · apply throwsAt_tryCatch
        · exact keeps_bind (callsOnly_readSdr records_calm resId index) fun _ => keeps_pure false
        · exact fun _ => throwsAt_pure true
      · intro failed
        apply throwsAt_ite
        · intro _
          exact throwsAt_ite (fun _ => throwsAt_pure ()) fun _ => ih (retryCount + 1)
        · exact fun _ => ih retryCount

theorem getAllSdrs_throwsAt [Libm] : Escapes getAllSdrs := by
  apply throwsAt_bind reserveSdrRepo_throwsAt
  intro resId
  apply throwsAt_bind indeterminate_throwsAt
  intro junk
  apply throwsAt_read
  exact fun device => readSdrs_throwsAt resId _ _

theorem addMandatorySensors_throwsAt (fru : UInt8) (response : Option Ipmb.SendRequestReply) :
    Escapes (addMandatorySensors fru response) := by
  cases response with
  | none => exact throwsAt_pure true
  | some response =>
      apply throwsAt_bind payloadByte_throwsAt
      intro identifier
      apply throwsAt_ite (fun _ => throwsAt_pure false)
      intro _
      apply throwsAt_bind indeterminate_throwsAt
      intro junk
      apply throwsAt_bind (throwsAt_modify _)
      intro _
      apply throwsAt_bind
      · apply throwsAt_forEach
        intro role
        exact throwsAt_bind payloadByte_throwsAt fun number => throwsAt_modify _
      · exact fun _ => throwsAt_pure true

theorem updateFromInfo_throwsAt (info : Option Ipmb.SendRequestReply)
    (update : UInt8 → Vita4611Device → Vita4611Device) :
    Escapes (updateFromInfo info update) := by
  cases info with
  | none => exact throwsAt_pure ()
  | some info => exact throwsAt_bind payloadByte_throwsAt fun byte => throwsAt_modify _

theorem enumerateFruSensors_throwsAt [Libm] (fru addr : UInt8) :
    Escapes (enumerateFruSensors fru addr) := by
  apply throwsAt_bind (sendIpmbRequest_throwsAt (.inl (by decide)))
  intro response
  apply throwsAt_bind (sendIpmbRequest_throwsAt (.inr (by decide)))
  intro sdrInfo
  apply throwsAt_bind (sendIpmbRequest_throwsAt (.inr (by decide)))
  intro sdrRepoInfo
  apply throwsAt_bind (addMandatorySensors_throwsAt fru response.1)
  intro own
  apply throwsAt_ite
  · intro _
    apply throwsAt_bind (updateFromInfo_throwsAt _ _)
    intro _
    exact throwsAt_bind (updateFromInfo_throwsAt _ _) fun _ => getAllSdrs_throwsAt
  · exact fun _ => throwsAt_pure ()

theorem checkSdrInfo_throwsAt [Libm] : Escapes checkSdrInfo := by
  apply throwsAt_read
  intro device
  apply throwsAt_bind (sendIpmbRequest_throwsAt (.inr (by decide)))
  rintro ⟨_ | info, _⟩
  · exact throwsAt_pure ()
  · apply throwsAt_bind payloadRange_throwsAt
    intro indicator
    apply throwsAt_bind
    · apply throwsAt_read
      exact fun device => throwsAt_ite (fun _ => getAllSdrs_throwsAt) fun _ => throwsAt_pure ()
    · exact fun _ => throwsAt_modify _

theorem discoverFrus_throwsAt [Libm] : Escapes discoverFrus := by
  apply throwsAt_read
  intro device
  rcases device.vsocaps with _ | vsocaps
  · exact throwsAt_fault _
  · apply throwsAt_ite
    · exact fun _ => enumerateFruSensors_throwsAt 0 _
    · intro _
      exact throwsAt_forEach fun fru => enumerateFruSensors_throwsAt fru _

theorem queryVsoCapabilities_throwsAt : Escapes queryVsoCapabilities := by
  apply throwsAt_read
  intro device
  apply throwsAt_bind (sendIpmbRequest_throwsAt (.inl (by decide)))
  rintro ⟨_ | response, _⟩
  · exact throwsAt_modify _
  · apply throwsAt_bind (throwsAt_modify _)
    intro _
    apply throwsAt_bind
    · exact throwsAt_bind payloadRange_throwsAt fun _ => throwsAt_pure _
    · exact fun vsocaps => throwsAt_modify _

theorem queryDeviceId_throwsAt (addr : UInt8) : Escapes (queryDeviceId addr) := by
  apply throwsAt_bind (sendIpmbRequest_throwsAt (.inl (by decide)))
  rintro ⟨_ | response, _⟩
  · exact throwsAt_modify _
  · exact throwsAt_modify _

theorem construct_throwsAt [Libm] (channel ipmiAddress : UInt8) :
    Escapes (Vita4611Device.construct channel ipmiAddress) := by
  apply throwsAt_bind (throwsAt_modify _)
  intro _
  apply throwsAt_bind (queryDeviceId_throwsAt ipmiAddress)
  intro _
  apply throwsAt_read
  intro device
  apply throwsAt_ite
  · intro _
    apply throwsAt_bind queryVsoCapabilities_throwsAt
    intro _
    apply throwsAt_read
    exact fun device => throwsAt_ite (fun _ => discoverFrus_throwsAt) fun _ => throwsAt_pure ()
  · exact fun _ => throwsAt_pure ()

end Devices

section Polls

/-- A device is checked for changed records when its sensors are dynamic. -/
def pollSdr [Libm] : Program interface Vita4611Device Unit := do
  let device ← Program.read
  if device.dynamicSensors = 1 then Vita4611Device.checkSdrInfo else Pure.pure ()

/-- The device of a key runs its program in place. -/
theorem run_onDevice {program : Program interface Vita4611Device Unit} {key : UInt8}
    {manager : ChassisManager} {device : Vita4611Device}
    (present : manager.deviceMap key = some (some device)) (environment : Environment interface)
    (position : Nat) :
    let own := program.run environment device position
    let run := (onDevice program key).run environment manager position
    run.exchanges = own.exchanges ∧ run.ops = own.ops ∧
      run.state = manager.setDevice key (some own.state) ∧ run.outcome = own.outcome := by
  have entered : (onDevice program key).run environment manager position =
      (program.focus (fun device manager => manager.setDevice key (some device)) device).run
        environment manager position := by
    unfold onDevice
    rw [run_bind, run_read, andThen_value]
    simp only [present]
    rfl
  dsimp only
  rw [entered]
  let replace (device : Vita4611Device) (manager : ChassisManager) : ChassisManager :=
    manager.setDevice key (some device)
  have overwrite (first second : Vita4611Device) (manager : ChassisManager) :
      replace second (replace first manager) = replace second manager :=
    ChassisManager.setDevice_setDevice _ _
  have focused := run_focus overwrite program device environment manager position
  dsimp only [replace] at focused
  rwa [ChassisManager.setDevice_self present] at focused

theorem run_onDevice_absent {program : Program interface Vita4611Device Unit} {key : UInt8}
    {manager : ChassisManager} (absent : manager.deviceMap key = none)
    {environment : Environment interface} {position : Nat} :
    (onDevice program key).run environment manager position = ⟨.value (), manager, []⟩ := by
  unfold onDevice
  rw [run_bind, run_read, andThen_value]
  simp only [absent]
  rfl

theorem run_onDevice_null {program : Program interface Vita4611Device Unit} {key : UInt8}
    {manager : ChassisManager} (null : manager.deviceMap key = some none)
    {environment : Environment interface} {position : Nat} :
    (onDevice program key).run environment manager position =
      ⟨.fault .nullDevice, manager, []⟩ := by
  unfold onDevice
  rw [run_bind, run_read, andThen_value]
  simp only [null]
  rfl

theorem onDevice_throwsAt {program : Program interface Vita4611Device Unit}
    (throws : Escapes program) (key : UInt8) :
    ThrowsAt Unreserved (onDevice program key) := by
  intro environment manager position
  rcases present : manager.deviceMap key with _ | (_ | device)
  · rw [run_onDevice_absent present]
    simp [Run.exchanges]
  · rw [run_onDevice_null present]
    simp [Run.exchanges]
  · obtain ⟨exchanges, _, _, outcome⟩ := run_onDevice present environment position
    rw [exchanges, outcome]
    exact throws environment device position

theorem pollSdrs_throwsAt [Libm] : ThrowsAt Unreserved pollSdrs := by
  apply throwsAt_forEach
  intro key
  apply onDevice_throwsAt
  apply throwsAt_read
  exact fun device => throwsAt_ite (fun _ => checkSdrInfo_throwsAt) fun _ => throwsAt_pure ()

/-- A device program changes only the device of its key. -/
theorem deviceMap_onDevice {program : Program interface Vita4611Device Unit} {key other : UInt8}
    (different : other ≠ key) (environment : Environment interface) (manager : ChassisManager)
    (position : Nat) :
    ((onDevice program key).run environment manager position).state.deviceMap other =
      manager.deviceMap other := by
  rcases present : manager.deviceMap key with _ | (_ | device)
  · rw [run_onDevice_absent present]
  · rw [run_onDevice_null present]
  · obtain ⟨_, _, state, _⟩ := @run_onDevice program key manager device present environment position
    rw [state]
    exact Function.update_of_ne different _ _

/-- A check starts with the request for the indicator. -/
theorem pollSdr_asks [Libm] {device : Vita4611Device} (dynamic : device.dynamicSensors = 1)
    (environment : Environment interface) (position : Nat) :
    Op.sendRequest device.infoRequest ∈ (pollSdr.run environment device position).ops := by
  unfold pollSdr
  rw [run_bind, run_read, andThen_value, if_pos dynamic]
  exact List.mem_cons_self

/-- A loop over the keys that returns has asked every device with dynamic sensors. -/
theorem forEach_pollSdr_asks [Libm] {keys : List UInt8} (distinct : keys.Nodup)
    (environment : Environment interface) (manager : ChassisManager) (position : Nat) :
    let run := (forEach (onDevice pollSdr) keys).run environment manager position
    run.outcome = .value () → ∀ key ∈ keys, ∀ device,
      manager.deviceMap key = some (some device) → device.dynamicSensors = 1 →
        Op.sendRequest device.infoRequest ∈ run.ops := by
  induction keys generalizing manager position with
  | nil => exact fun _ key member => absurd member List.not_mem_nil
  | cons first rest ih =>
      obtain ⟨fresh, distinct⟩ := List.nodup_cons.mp distinct
      intro run returned key member device present dynamic
      dsimp only [run] at returned ⊢
      rw [forEach_cons, run_bind] at returned ⊢
      have frame (other : UInt8) (different : other ≠ first) :=
        @deviceMap_onDevice pollSdr first other different environment manager position
      have own (here : key = first) : Op.sendRequest device.infoRequest ∈
          ((onDevice pollSdr first).run environment manager position).ops := by
        rw [here] at present
        rw [(run_onDevice present environment position).2.1]
        exact pollSdr_asks dynamic environment position
      generalize (onDevice pollSdr first).run environment manager position = visited
        at returned frame own ⊢
      rcases visited with ⟨_ | exception | reason, after, calls⟩
      · rw [andThen_value] at returned ⊢
        unfold Run.ops at own ⊢
        rw [List.map_append]
        rcases List.mem_cons.mp member with here | later
        · exact List.mem_append_left _ (own here)
        · have different : key ≠ first := fun here => fresh (here ▸ later)
          refine List.mem_append_right _ ?_
          exact ih distinct after _ returned key later device ((frame key different).trans present)
            dynamic
      · cases returned
      · cases returned

end Polls

section Containment

/-- The operations on one device that run at start-up and in the poll timer. -/
inductive DeviceOperation where
  | getAllSdrs
  | checkSdrInfo
  | discoverFrus
  | construct (channel ipmiAddress : UInt8)

def DeviceOperation.program [Libm] : DeviceOperation → Program interface Vita4611Device Unit
  | getAllSdrs => Vita4611Device.getAllSdrs
  | checkSdrInfo => Vita4611Device.checkSdrInfo
  | discoverFrus => Vita4611Device.discoverFrus
  | construct channel ipmiAddress => Vita4611Device.construct channel ipmiAddress

variable {State Value : Type}

/-- No exception leaves the run. -/
def Contained (run : Run interface State Value) : Prop :=
  ∀ exception, run.outcome ≠ .thrown exception

/-- The answers are well formed for the run: none of its reads is undefined. -/
def Defined (run : Run interface State Value) : Prop := ∀ reason, run.outcome ≠ .fault reason

/-- Every reservation of the run was answered. -/
def Reserved (run : Run interface State Value) : Prop := ∀ exchange ∈ run.exchanges, ¬Unreserved exchange

/-- Every device with dynamic sensors is asked for its indicator. -/
def PollsAll (manager : ChassisManager) (run : Run interface ChassisManager Unit) : Prop :=
  ∀ key device, manager.deviceMap key = some (some device) → device.dynamicSensors = 1 →
    Op.sendRequest device.infoRequest ∈ run.ops

theorem contained_iff {program : Program interface State Value}
    (throws : ThrowsAt Unreserved program) (environment : Environment interface) (state : State)
    (position : Nat) :
    Contained (program.run environment state position) ↔
      Reserved (program.run environment state position) := by
  have escapes := not_congr (throws environment state position)
  simp only [not_exists, not_and] at escapes
  exact escapes

/-- A defined run returns or throws. -/
theorem returns_iff {run : Run interface State Unit} (contained : Contained run ↔ Reserved run)
    (defined : Defined run) : run.outcome = .value () ↔ Reserved run := by
  rw [← contained]
  rcases outcome : run.outcome with _ | exception | reason
  · exact iff_of_true rfl fun exception thrown => by simp [outcome] at thrown
  · exact iff_of_false (by simp) fun contained => contained exception outcome
  · exact (defined reason outcome).elim

theorem operation_throwsAt [Libm] (operation : DeviceOperation) : Escapes operation.program := by
  cases operation with
  | getAllSdrs => exact getAllSdrs_throwsAt
  | checkSdrInfo => exact checkSdrInfo_throwsAt
  | discoverFrus => exact discoverFrus_throwsAt
  | construct channel ipmiAddress => exact construct_throwsAt channel ipmiAddress

/-- A poll that returns has asked all devices. -/
theorem pollSdrs_asks [Libm] (environment : Environment interface) (manager : ChassisManager)
    (position : Nat) :
    let run := pollSdrs.run environment manager position
    run.outcome = .value () → PollsAll manager run := by
  intro run returned key device present dynamic
  exact forEach_pollSdr_asks allKeys_nodup environment manager position returned key (mem_allKeys key)
    device present dynamic

/-- Exceptions stay inside, and all devices are polled, exactly when every reservation is answered. -/
theorem failures_contained_iff [Libm] (environment : Environment interface) (position : Nat) :
    (∀ (operation : DeviceOperation) (device : Vita4611Device),
      let run := operation.program.run environment device position
      (Contained run ↔ Reserved run) ∧ (Defined run → (run.outcome = .value () ↔ Reserved run))) ∧
    ∀ manager : ChassisManager,
      let run := pollSdrs.run environment manager position
      (Contained run ↔ Reserved run) ∧
        (Defined run → (run.outcome = .value () ∧ PollsAll manager run ↔ Reserved run)) := by
  constructor
  · intro operation device run
    have contained := contained_iff (operation_throwsAt operation) environment device position
    exact ⟨contained, returns_iff contained⟩
  · intro manager run
    have contained := contained_iff pollSdrs_throwsAt environment manager position
    refine ⟨contained, fun defined => ?_⟩
    rw [← returns_iff contained defined]
    exact and_iff_left_of_imp (pollSdrs_asks environment manager position)

/-- The module that answers all its requests is constructed. -/
theorem failures_contained_temperature :
    Reserved ((@Vita4611Device.construct silentLibm 0 0x82).run temperatureModule default 0) := by
  have returned : ((@Vita4611Device.construct silentLibm 0 0x82).run temperatureModule default
      0).outcome = .value () := by decide +kernel
  have contained :=
    ((@failures_contained_iff silentLibm temperatureModule 0).1 (.construct 0 0x82) default).2
  refine (contained fun reason fault => ?_).mp returned
  exact value_ne_fault () reason (returned.symm.trans fault)

/-- The module answers everything but the reservation. -/
def unreservedModule : Environment interface := fun position op =>
  match op with
  | .sendRequest arguments =>
      if arguments.netfn = netfnSE ∧ arguments.cmd = ipmitoolCmdReserveSdrRepo then .methodError
      else temperatureModule position (.sendRequest arguments)
  | op => temperatureModule position op

/-- A refused reservation leaves the constructor as an exception. -/
theorem construct_throws : ¬∀ (operation : DeviceOperation) (environment : Environment interface)
    (device : Vita4611Device) (position : Nat),
      let run := (@DeviceOperation.program silentLibm operation).run environment device position
      Defined run → run.outcome = .value () := by
  intro always
  have thrown : ((@DeviceOperation.program silentLibm (.construct 0 0x82)).run unreservedModule
      default 0).outcome = .thrown .badOptionalAccess := by decide +kernel
  have returned := always (.construct 0 0x82) unreservedModule default 0
  dsimp only at returned
  unfold Defined at returned
  rw [thrown] at returned
  exact absurd (returned fun reason => by simp) (by simp)

end Containment

end Chassis.Vita4611
