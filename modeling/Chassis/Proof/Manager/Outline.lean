import Chassis.Proof.Manager.Device
import Chassis.Proof.Manager.Command

namespace Chassis.Vita4611
open Effect Program

/-- The outline of a manager forgets everything of a device but its identity. -/
structure Outline where
  linkA : UInt8
  linkB : UInt8
  entries : List CatEntry
  devices : UInt8 → Option (Option Identity)

def ChassisManager.outline (manager : ChassisManager) : Outline where
  linkA := manager.mIpmbAEnable
  linkB := manager.mIpmbBEnable
  entries := manager.chassisAddressTable.entries
  devices := fun key => (manager.deviceMap key).map (Option.map Vita4611Device.identity)

/-- No key holds a null pointer. -/
def Outline.Owned (outline : Outline) : Prop := ∀ key, outline.devices key ≠ some none

/-- Every device was constructed on channel 0 with site type 0. -/
def Outline.Plain (outline : Outline) : Prop :=
  ∀ key identity, outline.devices key = some (some identity) →
    identity.channel = 0 ∧ identity.siteType = 0

/-- The address table is empty exactly when the device map is. -/
def Outline.Listed (outline : Outline) : Prop :=
  outline.entries = [] ↔ ∀ key, outline.devices key = none

/-- These facts hold of the outline that the enumeration leaves. -/
structure Outline.Enumerated (outline : Outline) : Prop where
  owned : outline.Owned
  plain : outline.Plain
  listed : outline.Listed

/-- A new device on channel 0 with site type 0 and its table entry keep these facts. -/
theorem Outline.Enumerated.add {outline : Outline} (initial : outline.Enumerated) (key : UInt8)
    {identity : Identity} (channel : identity.channel = 0) (siteType : identity.siteType = 0)
    (entry : CatEntry) :
    Outline.Enumerated { outline with
      entries := outline.entries ++ [entry]
      devices := Function.update outline.devices key (some (some identity)) } where
  owned other := by
    by_cases same : other = key
    · simp [same]
    · simpa [same] using initial.owned other
  plain other stored present := by
    by_cases same : other = key
    · obtain rfl : identity = stored := by simpa [same] using present
      exact ⟨channel, siteType⟩
    · exact initial.plain other stored (by simpa [same] using present)
  listed := by
    refine ⟨fun empty => by simp at empty, fun absent => ?_⟩
    simpa using absent key

namespace ChassisManager

variable {manager : ChassisManager} {key : UInt8} {device : Vita4611Device}

theorem setDevice_self (present : manager.deviceMap key = some (some device)) :
    manager.setDevice key (some device) = manager := by
  rw [setDevice, ← present, Function.update_eq_self]

theorem setDevice_setDevice (first second : Option Vita4611Device) :
    (manager.setDevice key first).setDevice key second = manager.setDevice key second := by
  simp only [setDevice, Function.update_idem]

theorem outline_setDevice (manager : ChassisManager) (key : UInt8)
    (device : Option Vita4611Device) :
    (manager.setDevice key device).outline = { manager.outline with
      devices := Function.update manager.outline.devices key
        (some (device.map Vita4611Device.identity)) } := by
  simp only [outline, setDevice, Outline.mk.injEq, true_and]
  funext other
  by_cases same : other = key
  · subst same
    simp
  · simp [same]

/-- A device that keeps its identity keeps the outline. -/
theorem outline_replace {after : Vita4611Device}
    (present : manager.deviceMap key = some (some device))
    (same : after.identity = device.identity) :
    (manager.setDevice key (some after)).outline = manager.outline := by
  have stored : manager.outline.devices key = some (some device.identity) := by
    simp [outline, present]
  rw [outline_setDevice, Option.map_some, same, ← stored, Function.update_eq_self]

end ChassisManager

theorem isSome_outline (manager : ChassisManager) (key : UInt8) :
    (manager.outline.devices key).isSome = (manager.deviceMap key).isSome := by
  simp [ChassisManager.outline]

theorem outline_owned_iff (manager : ChassisManager) :
    manager.outline.Owned ↔ ∀ key, manager.deviceMap key ≠ some none := by
  apply forall_congr'
  intro key
  rcases present : manager.deviceMap key with _ | (_ | device) <;>
    simp [ChassisManager.outline, present]

/-- A poll sends on the fixed channel 0 or on the channel of some device. -/
def PollCall (outline : Outline) (op : Op) : Prop :=
  ∀ arguments, op = .sendRequest arguments → arguments.reqChannel = 0 ∨
    ∃ key identity, outline.devices key = some (some identity) ∧
      arguments.reqChannel = identity.channel

/-- A program of the polls keeps the outline, and meets a null device only if the outline has one. -/
def Tended {Value : Type} (outline : Outline) (program : Program interface ChassisManager Value) :
    Prop :=
  Keeps (fun manager op => manager.outline = outline ∧ PollCall outline op)
    (fun manager => manager.outline = outline)
    (fun reason : Fault => reason = .nullDevice → ¬outline.Owned) program

variable {outline : Outline} {allowed : ChassisManager → Op → Prop}

theorem pre_onDevice (program : Program interface Vita4611Device Unit) (key : UInt8)
    (post : Post interface ChassisManager Unit) (manager : ChassisManager) :
    (onDevice program key).pre allowed post manager =
      match manager.deviceMap key with
      | none => post.value () manager
      | some none => post.fault .nullDevice manager
      | some (some device) =>
          program.pre (fun device op => allowed (manager.setDevice key (some device)) op)
            ⟨fun value device => post.value value (manager.setDevice key (some device)),
              fun exception device => post.thrown exception (manager.setDevice key (some device)),
              fun reason device => post.fault reason (manager.setDevice key (some device))⟩
            device := by
  simp only [onDevice, pre_bind, pre_read]
  rcases present : manager.deviceMap key with _ | (_ | device)
  · rfl
  · rfl
  · dsimp only
    conv_lhs => rw [← ChassisManager.setDevice_self present]
    exact pre_focus _ (fun _ _ _ => ChassisManager.setDevice_setDevice _ _) program device manager

theorem onDevice_tended {program : Program interface Vita4611Device Unit}
    (steady : ∀ identity, Steady identity program) (key : UInt8) :
    Tended outline (onDevice program key) := by
  intro manager kept
  rw [pre_onDevice]
  rcases present : manager.deviceMap key with _ | (_ | device)
  · exact kept
  · refine ⟨kept, fun _ owned => owned key ?_⟩
    simp [← kept, ChassisManager.outline, present]
  · have stored : outline.devices key = some (some device.identity) := by
      simp [← kept, ChassisManager.outline, present]
    have same (after : Vita4611Device) (identity : after.identity = device.identity) :
        (manager.setDevice key (some after)).outline = outline :=
      (ChassisManager.outline_replace present identity).trans kept
    refine pre_mono (steady device.identity device rfl) ?_ (fun _ after => same after)
      (fun _ after => same after) (fun reason after ended => ⟨same after ended.1, ?_⟩)
    · intro after op held
      refine ⟨same after held.1, fun arguments sent => ?_⟩
      rcases held.2 arguments sent with fixed | own
      · exact .inl fixed
      · exact .inr ⟨key, device.identity, stored, own⟩
    · exact fun null => absurd null ended.2

theorem pollDeviceSensors_tended [Libm] : Tended outline pollDeviceSensors :=
  keeps_forEach fun key =>
    onDevice_tended (fun _ => Vita4611Device.getAllSensorReadings_steady) key

theorem pollSdrs_tended [Libm] : Tended outline pollSdrs := by
  refine keeps_forEach fun key => onDevice_tended (fun _ => ?_) key
  exact keeps_read fun _ _ =>
    keeps_ite (fun _ => Vita4611Device.checkSdrInfo_steady) fun _ => keeps_pure _

theorem exposeFruSensors_tended [Libm] : Tended outline exposeFruSensors := by
  refine keeps_forEach fun key => onDevice_tended (fun _ => ?_) key
  exact keeps_read fun _ _ =>
    keeps_bind (keeps_forEach fun index => Vita4611Device.exposeSensor_steady key index) fun _ =>
      Vita4611Device.getAllSensorReadings_steady

section Start

variable [Libm]

/-- The constructor sets both links on, and the enumeration keeps them. -/
def Outline.Fresh (outline : Outline) : Prop :=
  outline.linkA = 1 ∧ outline.linkB = 1 ∧ outline.Enumerated

/-- Only the returns of the enumeration are described. -/
def fresh {Value : Type} : Post interface ChassisManager Value :=
  ⟨fun _ manager => manager.outline.Fresh, fun _ _ => True, fun _ _ => True⟩

theorem pre_addDevice (key addr : UInt8) (manager : ChassisManager)
    (initial : manager.outline.Fresh) :
    (addDevice key addr).pre (fun _ _ => True) fresh manager := by
  simp only [addDevice, pre_bind, pre_modify, pre_indeterminate, pre_isolate]
  refine ⟨trivial, fun junk => ?_⟩
  refine pre_mono (Vita4611Device.pre_construct 0 (addr <<< 1) _) (fun _ _ _ => trivial) ?_
    (fun _ _ _ => trivial) (fun _ _ _ => trivial)
  rintro _ device ⟨vsocaps, constructed⟩
  refine ⟨initial.1, initial.2.1, ?_⟩
  have channel : device.channel = 0 := congrArg Identity.channel constructed
  have siteType : device.siteType = 0 := congrArg Identity.siteType constructed
  have plain : { device with deviceId := 0 }.identity.channel = 0 := channel
  have added := initial.2.2.add key plain siteType ⟨device.hwAddress, 0, device.siteType⟩
  have devices := congrArg Outline.devices
    (manager.outline_setDevice key (some { device with deviceId := 0 }))
  convert added using 1
  exact congrArg (Outline.mk _ _ _) devices

theorem pre_enumerateAddresses (addresses : List UInt8) (n : UInt8) (manager : ChassisManager)
    (initial : manager.outline.Fresh) :
    (enumerateAddresses addresses n).pre (fun _ _ => True) fresh manager := by
  induction addresses generalizing n manager with
  | nil => exact initial
  | cons addr rest ih =>
      have added (key next : UInt8) : (addDevice key addr >>= fun _ =>
          enumerateAddresses rest next).pre (fun _ _ => True) fresh manager := by
        rw [pre_bind]
        exact pre_value (pre_addDevice key addr manager initial) fun _ after kept =>
          ih next after kept
      refine ⟨trivial, fun (selected : Bool) => ?_⟩
      cases selected with
      | false => exact ih n manager initial
      | true =>
          refine ⟨trivial, fun (present : Bool) => ?_⟩
          cases present with
          | false => exact ih n manager initial
          | true =>
              change Program.pre _ (if addr = chmcI2cAddress
                then addDevice 0 addr >>= fun _ => enumerateAddresses rest n
                else addDevice n addr >>= fun _ => enumerateAddresses rest (n + 1)) _ _
              split
              · exact added 0 n
              · exact added n (n + 1)

theorem pre_construct :
    ChassisManager.construct.pre (fun _ _ => True) fresh ChassisManager.blank := by
  have blank : Outline.Enumerated ⟨1, 1, [], fun _ => none⟩ :=
    ⟨fun _ => nofun, fun _ _ => nofun, by simp [Outline.Listed]⟩
  simp only [ChassisManager.construct, pre_bind, pre_modify]
  have enumerated (manager : ChassisManager) (initial : manager.outline.Fresh) :
      enumerateI2cDevices.pre (fun _ _ => True) fresh manager := by
    refine ⟨trivial, fun (opened : Bool) => ?_⟩
    cases opened with
    | false => exact initial
    | true => exact pre_enumerateAddresses probedAddresses 1 manager initial
  refine pre_value (enumerated _ ⟨rfl, rfl, blank⟩) fun _ manager kept => ?_
  refine pre_mono (exposeFruSensors_tended manager rfl) (fun _ _ _ => trivial) ?_
    (fun _ _ _ => trivial) (fun _ _ _ => trivial)
  intro _ after same
  change after.outline.Fresh
  rw [show after.outline = manager.outline from same]
  exact kept

/-- A started manager has both links on and owns every device it lists. -/
theorem started_fresh {manager : ChassisManager} (started : Started manager) :
    manager.outline.Fresh := by
  rcases started with ⟨environment, returned, rfl⟩
  have ended := (pre_sound _ environment _ 0 pre_construct).2
  rw [returned] at ended
  exact ended

end Start

section LoneModule

/-- A bus without sensors calls none of these functions. -/
abbrev silentLibm : Libm := ⟨id, id, id, id, id, id, fun base _ => base⟩

/-- One module is present at address `0x41`, and it answers no request. -/
def loneModule : Environment interface := fun _ op =>
  match op with
  | .sendRequest _ => DBusReply.methodError
  | .openBus => true
  | .selectAddress _ => true
  | .probe addr => addr == (0x41 : UInt8)
  | op => (default : op.Answer)

def loneManager : ChassisManager :=
  (@ChassisManager.construct silentLibm |>.run loneModule .blank 0).state

theorem loneManager_started : @Started silentLibm loneManager :=
  ⟨loneModule, by decide +kernel, rfl⟩

end LoneModule

end Chassis.Vita4611
