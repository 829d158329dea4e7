import Chassis.Proof.Manager.System

namespace Chassis.Vita4611
open Effect Program

variable {manager : ChassisManager} {reqdata : List UInt8}

/-- Each command needs a request of this length. -/
def requestLength (cmd : UInt8) : Nat :=
  if cmd = vita4611GetChassisAddressTableInfoCmd then 8
  else if cmd = vita4611ChassisManagerIpAddressesCmd then 5
  else if cmd = vita4611SetChassisIdCmd then 5
  else if cmd = vita4611FruControl then 6
  else if cmd = vita4611SetIpmbStateCmd then 6
  else if cmd = vita4611SetFruStatePolicyBitsCmd then 7
  else if cmd = vita4611GetFruStatePolicyBitsCmd then 5
  else if cmd = vita4611SetFruActivationCmd then 6
  else if cmd = vita4611GetDeviceLocatorRecordIdCmd then 5
  else if cmd = vita4611GetFanSpeedPropertiesCmd then 5
  else if cmd = vita4611SetFanLevelCmd then 7
  else if cmd = vita4611GetFanLevelCmd then 5
  else if cmd = vita4611SetFanPolicyCmd then 9
  else if cmd = vita4611GetFanPolicyCmd then 7
  else if cmd = vita4611GetFruAddressInfoCmd then 8
  else if cmd = vita4611GetMandatorySensorNumbersCmd then 5
  else 4

/-- The address query may also come without arguments. -/
def TooShort (reqdata : List UInt8) : Prop :=
  reqdata.length < requestLength (reqdata.getD 3 0) ∧
    ¬(reqdata.getD 3 0 = vita4611GetFruAddressInfoCmd ∧ reqdata.length = 4)

/-- An address key names a hardware address, an IPMB address, or a site number with its type. -/
def Matches (addrKeyType addrKey siteType : UInt8) (device : Vita4611Device) : Prop :=
  (addrKeyType = 0 ∧ device.hwAddress = addrKey) ∨
    (addrKeyType = 1 ∧ device.ipmiAddress = addrKey) ∨
    (addrKeyType = 3 ∧ device.siteNumber = addrKey ∧ device.siteType = siteType)

/-- The address key of the request matches no device of the table. -/
def Unmatched (manager : ChassisManager) (reqdata : List UInt8) : Prop :=
  ∀ slot device, manager.deviceMap slot = some (some device) →
    ¬Matches (reqdata.getD 5 0) (reqdata.getD 6 0) (reqdata.getD 7 0) device

/-- Two commands carry an address key. -/
def CarriesKey (reqdata : List UInt8) : Prop :=
  (IsCommand reqdata vita4611GetChassisAddressTableInfoCmd ∧ 8 ≤ reqdata.length) ∨
    (IsCommand reqdata vita4611GetFruAddressInfoCmd ∧ reqdata.length = 8)

/-- The error reply is due to a short request and to an address key without a device. -/
def DueError (manager : ChassisManager) (reqdata : List UInt8) : Prop :=
  TooShort reqdata ∨ CarriesKey reqdata ∧ Unmatched manager reqdata

/-- These faults are reads outside the request and accesses through bad device pointers. -/
def Fault.IsRequestFault (reason : Fault) : Prop :=
  reason = .reqdataIndex ∨ reason = .reqdataRange ∨ reason = .nullDevice ∨
    reason = .unassignedDevice

/-- Every run stays within the request and the device table and gives the due error reply. -/
def HandledSafely (manager : ChassisManager) (reqdata : List UInt8) : Prop :=
  ∀ environment : Environment interface,
    let run := (handleChmCommand reqdata).run environment manager 0
    (∀ reason, run.outcome = .fault reason → ¬reason.IsRequestFault) ∧
      (DueError manager reqdata → run.outcome = .value [])

/-- A command that dereferences the device of byte 4 has its request and a table to look in. -/
def Dereferences (manager : ChassisManager) (reqdata : List UInt8) : Prop :=
  manager.deviceMapEmpty = false ∧
    ((IsCommand reqdata vita4611SetFruStatePolicyBitsCmd ∧ 7 ≤ reqdata.length) ∨
      (IsCommand reqdata vita4611GetFruStatePolicyBitsCmd ∧ 5 ≤ reqdata.length) ∨
      (IsCommand reqdata vita4611SetFruActivationCmd ∧ 6 ≤ reqdata.length ∧
        (reqdata.getD 5 0 = 0 ∨ reqdata.getD 5 0 = 1)) ∨
      (IsCommand reqdata vita4611GetDeviceLocatorRecordIdCmd ∧ 5 ≤ reqdata.length) ∨
      (IsCommand reqdata vita4611GetMandatorySensorNumbersCmd ∧ 5 ≤ reqdata.length))

/-- These are the requests whose checks do not agree with what the handler does. -/
def Mishandled (manager : ChassisManager) (reqdata : List UInt8) : Prop :=
  (IsCommand reqdata vita4611SetChassisIdCmd ∧ reqdata.length < 5) ∨
    (IsCommand reqdata vita4611FruControl ∧ reqdata.length = 5) ∨
    (Dereferences manager reqdata ∧ manager.deviceMap (reqdata.getD 4 0) = none) ∨
    (IsCommand reqdata vita4611GetChassisAddressTableInfoCmd ∧ 8 ≤ reqdata.length ∧
      manager.chassisAddressTable.entries ≠ [] ∧ reqdata.getD 5 0 ≤ 3 ∧ reqdata.getD 5 0 ≠ 2 ∧
      Unmatched manager reqdata) ∨
    (IsCommand reqdata vita4611GetFruAddressInfoCmd ∧ reqdata.length = 8 ∧
      reqdata.getD 4 0 = 0 ∧ reqdata.getD 5 0 = 3 ∧ Unmatched manager reqdata)

/-- A run that ends so is handled safely. -/
def safely (manager : ChassisManager) (reqdata : List UInt8) :
    Post interface ChassisManager (List UInt8) :=
  ⟨fun data _ => DueError manager reqdata → data = [], fun _ _ => ¬DueError manager reqdata,
    fun reason _ => ¬reason.IsRequestFault ∧ ¬DueError manager reqdata⟩

theorem handledSafely_iff :
    HandledSafely manager reqdata ↔
      (handleChmCommand reqdata).pre (fun _ _ => True) (safely manager reqdata) manager := by
  rw [pre_iff _ _ 0]
  apply forall_congr'
  intro environment
  generalize (handleChmCommand reqdata).run environment manager 0 = run
  rcases run with ⟨_ | _ | reason, state, calls⟩
  · simp [Post.holds, safely]
  · simp [Post.holds, safely]
  · simp [Post.holds, safely]

section Lookup

theorem mem_allKeys (key : UInt8) : key ∈ allKeys := by
  refine List.mem_map.mpr ⟨key.toNat, List.mem_range.mpr key.toNat_lt, ?_⟩
  simp

theorem allKeys_nodup : allKeys.Nodup := by
  refine List.Nodup.map_on ?_ List.nodup_range
  intro first inside second inside' same
  have numbers := congrArg UInt8.toNat same
  rw [List.mem_range] at inside inside'
  rwa [UInt8.toNat_ofNat_of_lt' inside, UInt8.toNat_ofNat_of_lt' inside'] at numbers

theorem findDevice_some {accept : Vita4611Device → Bool} {device : Vita4611Device}
    (found : manager.findDevice accept = some device) :
    accept device = true ∧ ∃ slot, manager.deviceMap slot = some (some device) := by
  rcases List.exists_of_findSome?_eq_some found with ⟨slot, _, chosen⟩
  rcases present : manager.deviceMap slot with _ | (_ | owned)
  · simp [present] at chosen
  · simp [present] at chosen
  · rw [present] at chosen
    simp only [Option.ite_none_right_eq_some, Option.some.injEq] at chosen
    rcases chosen with ⟨accepted, rfl⟩
    exact ⟨accepted, slot, present⟩

theorem findDevice_none {accept : Vita4611Device → Bool}
    (missing : manager.findDevice accept = none) (slot : UInt8) (device : Vita4611Device)
    (present : manager.deviceMap slot = some (some device)) : accept device = false := by
  have skipped := List.findSome?_eq_none_iff.mp missing slot (mem_allKeys slot)
  simpa [present] using skipped

end Lookup

/-- The enumeration gives every device site type 0. -/
theorem siteType_zero (plain : manager.outline.Plain) {slot : UInt8} {device : Vita4611Device}
    (present : manager.deviceMap slot = some (some device)) : device.siteType = 0 :=
  (plain slot device.identity (by simp [ChassisManager.outline, present])).2

section Commands

variable {cmd : UInt8}

theorem isCommand_iff (command : IsCommand reqdata cmd) (other : UInt8) :
    IsCommand reqdata other ↔ cmd = other :=
  ⟨fun same => command.2.symm.trans same.2, fun same => same ▸ command⟩

theorem dueError_iff_short (command : IsCommand reqdata cmd)
    (table : cmd ≠ vita4611GetChassisAddressTableInfoCmd)
    (info : cmd ≠ vita4611GetFruAddressInfoCmd) :
    DueError manager reqdata ↔ reqdata.length < requestLength cmd := by
  simp [DueError, TooShort, CarriesKey, isCommand_iff command, table, info,
    show reqdata[3]?.getD 0 = cmd from command.2]

/-- A command whose request is long enough owes no error reply. -/
theorem not_due (command : IsCommand reqdata cmd)
    (table : cmd ≠ vita4611GetChassisAddressTableInfoCmd)
    (info : cmd ≠ vita4611GetFruAddressInfoCmd) (long : ¬reqdata.length < requestLength cmd) :
    ¬DueError manager reqdata :=
  fun due => long ((dueError_iff_short command table info).mp due)

/-- A command outside these nine is never mishandled. -/
theorem not_mishandled (command : IsCommand reqdata cmd)
    (other : cmd ∉ [vita4611SetChassisIdCmd, vita4611FruControl, vita4611SetFruStatePolicyBitsCmd,
      vita4611GetFruStatePolicyBitsCmd, vita4611SetFruActivationCmd,
      vita4611GetDeviceLocatorRecordIdCmd, vita4611GetMandatorySensorNumbersCmd,
      vita4611GetChassisAddressTableInfoCmd, vita4611GetFruAddressInfoCmd]) :
    ¬Mishandled manager reqdata := by
  simp only [List.mem_cons, List.not_mem_nil, or_false, not_or] at other
  simp [Mishandled, Dereferences, isCommand_iff command, other]

/-- This is what the dispatcher needs of each handler. -/
abbrev SafeIff (manager : ChassisManager) (reqdata : List UInt8)
    (handler : Program interface ChassisManager (List UInt8)) : Prop :=
  handler.pre (fun _ _ => True) (safely manager reqdata) manager ↔ ¬Mishandled manager reqdata

theorem SafeIff.of_harmless {handler : Program interface ChassisManager (List UInt8)}
    (harmless : ¬Mishandled manager reqdata)
    (safe : handler.pre (fun _ _ => True) (safely manager reqdata) manager) :
    SafeIff manager reqdata handler :=
  ⟨fun _ => harmless, fun _ => safe⟩

theorem setIpmbState_safe (command : IsCommand reqdata vita4611SetIpmbStateCmd) :
    SafeIff manager reqdata (setIpmbState reqdata) := by
  refine .of_harmless (not_mishandled command (by decide)) ?_
  rw [pre_setIpmbState]
  exact ite_intro (fun _ _ => rfl) fun long due =>
    absurd due (not_due command (by decide) (by decide) long)

theorem setFanLevel_safe (command : IsCommand reqdata vita4611SetFanLevelCmd) :
    SafeIff manager reqdata (setFanLevel reqdata) := by
  refine .of_harmless (not_mishandled command (by decide)) ?_
  rw [pre_setFanLevel]
  apply ite_intro (fun _ _ => rfl)
  intro long
  have fine : ¬DueError manager reqdata := not_due command (by decide) (by decide) long
  exact ite_intro (fun _ => ⟨trivial, trivial, fun due => absurd due fine⟩) fun _ =>
    ⟨trivial, fun due => absurd due fine⟩

theorem getFanLevel_safe (command : IsCommand reqdata vita4611GetFanLevelCmd) :
    SafeIff manager reqdata (getFanLevel reqdata) := by
  refine .of_harmless (not_mishandled command (by decide)) ?_
  rw [pre_getFanLevel]
  exact ite_intro (fun _ _ => rfl) fun long => ⟨trivial, fun _ => ⟨trivial, fun _ due =>
    absurd due (not_due command (by decide) (by decide) long)⟩⟩

theorem setFanPolicy_safe (command : IsCommand reqdata vita4611SetFanPolicyCmd) :
    SafeIff manager reqdata (setFanPolicy reqdata) := by
  refine .of_harmless (not_mishandled command (by decide)) ?_
  rw [pre_setFanPolicy]
  apply ite_intro (fun _ _ => rfl)
  intro accepted
  have fine : ¬DueError manager reqdata :=
    not_due command (by decide) (by decide) fun short => accepted (.inl short)
  apply ite_intro (fun _ => ⟨trivial, fun due => absurd due fine⟩)
  intro _
  exact ite_intro (fun _ due => absurd due fine) fun _ =>
    ⟨trivial, fun due => absurd due fine, fun due => absurd due fine⟩

theorem getFanPolicy_safe (command : IsCommand reqdata vita4611GetFanPolicyCmd) :
    SafeIff manager reqdata (getFanPolicy reqdata) := by
  refine .of_harmless (not_mishandled command (by decide)) ?_
  rw [pre_getFanPolicy]
  apply ite_intro (fun _ _ => rfl)
  intro long
  have fine : ¬DueError manager reqdata := not_due command (by decide) (by decide) long
  refine ite_intro (fun _ => ?_) fun _ => ?_
  · exact ⟨trivial, fun _ => ⟨trivial, fun _ due => absurd due fine⟩⟩
  · exact ⟨trivial, fun _ due => absurd due fine⟩

theorem getChassisManagerIpAddresses_safe
    (command : IsCommand reqdata vita4611ChassisManagerIpAddressesCmd) :
    SafeIff manager reqdata (withArgument reqdata getChassisManagerIpAddresses) := by
  refine .of_harmless (not_mishandled command (by decide)) ?_
  rw [pre_withArgument, pre_getChassisManagerIpAddresses]
  apply ite_intro (fun _ _ => rfl)
  intro long
  apply ite_intro (fun _ _ => rfl)
  intro _ due
  exact absurd due (not_due command (by decide) (by decide) long)

theorem getFanSpeedProperties_safe
    (command : IsCommand reqdata vita4611GetFanSpeedPropertiesCmd) :
    SafeIff manager reqdata (Pure.pure (getFanSpeedProperties reqdata)) := by
  refine .of_harmless (not_mishandled command (by decide)) fun due => ?_
  exact if_pos ((dueError_iff_short command (by decide) (by decide)).mp due)

/-- A command without arguments is never short. -/
theorem bare_safe (command : IsCommand reqdata cmd) (other : ¬Mishandled manager reqdata)
    (table : cmd ≠ vita4611GetChassisAddressTableInfoCmd)
    (info : cmd ≠ vita4611GetFruAddressInfoCmd) (bare : requestLength cmd ≤ reqdata.length)
    {handler : Program interface ChassisManager (List UInt8)} {reply : List UInt8}
    (replies : handler.pre (fun _ _ => True) (safely manager reqdata) manager =
      (safely manager reqdata).value reply manager) : SafeIff manager reqdata handler := by
  refine .of_harmless other ?_
  rw [replies]
  exact fun due => absurd due (not_due command table info (Nat.not_lt.mpr bare))

theorem SafeIff.ite {condition : Prop} [Decidable condition]
    {first second : Program interface ChassisManager (List UInt8)}
    (positive : condition → SafeIff manager reqdata first)
    (negative : ¬condition → SafeIff manager reqdata second) :
    SafeIff manager reqdata (if condition then first else second) := by
  split
  · exact positive ‹_›
  · exact negative ‹_›

/-- The missing length check lets a request without arguments be read at index 4. -/
theorem setChassisIdentifier_safe (command : IsCommand reqdata vita4611SetChassisIdCmd) :
    SafeIff manager reqdata (setChassisIdentifier reqdata) := by
  have kind : Mishandled manager reqdata ↔ reqdata.length < 5 := by
    simp +decide [Mishandled, Dereferences, isCommand_iff command]
  rw [SafeIff, kind, pre_setChassisIdentifier]
  by_cases short : reqdata.length < 5
  · rw [if_pos short]
    exact ⟨fun safe => absurd (.inl rfl) safe.1, fun long => absurd short long⟩
  · rw [if_neg short]
    refine ⟨fun _ => short, fun _ => ite_intro (fun _ _ => rfl) fun _ due => ?_⟩
    exact absurd due (not_due command (by decide) (by decide) short)

/-- The length check admits a request that is read one byte past its end. -/
theorem fruControl_safe (command : IsCommand reqdata vita4611FruControl) :
    SafeIff manager reqdata (fruControl reqdata) := by
  have kind : Mishandled manager reqdata ↔ reqdata.length = 5 := by
    simp +decide [Mishandled, Dereferences, isCommand_iff command]
  rw [SafeIff, kind, pre_fruControl]
  by_cases short : reqdata.length < 5
  · rw [if_pos short]
    exact ⟨fun _ => by omega, fun _ _ => rfl⟩
  · rw [if_neg short]
    by_cases bare : reqdata.length < 6
    · rw [if_pos bare]
      exact ⟨fun safe => absurd (.inl rfl) safe.1, fun long => absurd (by omega) long⟩
    · have fine : ¬DueError manager reqdata := not_due command (by decide) (by decide) bare
      rw [if_neg bare]
      refine ⟨fun _ => by omega, fun _ => ?_⟩
      apply ite_intro (fun _ => ⟨fun _ => trivial, fun due => absurd due fine⟩)
      intro _
      exact ite_intro (fun _ due => absurd due fine) fun _ due => absurd due fine

/-- A member access is safe exactly when the key owns a device. -/
theorem useDevice_safe (owned : manager.outline.Owned) {use : Vita4611Device → Prop}
    (used : ∀ device, use device) :
    useDevice manager (reqdata.getD 4 0) use (safely manager reqdata).fault ↔
      ¬manager.deviceMap (reqdata.getD 4 0) = none := by
  unfold useDevice
  rcases present : manager.deviceMap (reqdata.getD 4 0) with _ | (_ | device)
  · simp [safely, Fault.IsRequestFault]
  · exact absurd present ((outline_owned_iff manager).mp owned _)
  · simp [used]

/-- A handler that checks the length and the table before its member access fails on unknown keys
only. -/
theorem guarded_safe (owned : manager.outline.Owned) (command : IsCommand reqdata cmd)
    (table : cmd ≠ vita4611GetChassisAddressTableInfoCmd)
    (info : cmd ≠ vita4611GetFruAddressInfoCmd) {use : Vita4611Device → Prop}
    (used : ¬DueError manager reqdata → ∀ device, use device) :
    (if reqdata.length < requestLength cmd then DueError manager reqdata → ([] : List UInt8) = []
      else if manager.deviceMapEmpty then DueError manager reqdata → ([] : List UInt8) = []
      else useDevice manager (reqdata.getD 4 0) use (safely manager reqdata).fault) ↔
      ¬((manager.deviceMapEmpty = false ∧ requestLength cmd ≤ reqdata.length) ∧
        manager.deviceMap (reqdata.getD 4 0) = none) := by
  by_cases short : reqdata.length < requestLength cmd
  · rw [if_pos short]
    exact ⟨fun _ kind => absurd kind.1.2 (by omega), fun _ _ => rfl⟩
  · rw [if_neg short]
    cases empty : manager.deviceMapEmpty with
    | true => simp
    | false =>
        have long : requestLength cmd ≤ reqdata.length := by omega
        have fine : ¬DueError manager reqdata := not_due command table info short
        simp only [Bool.false_eq_true, if_false, useDevice_safe owned (used fine), long, true_and,
          and_self]

theorem setFruStatePolicyBits_safe (owned : manager.outline.Owned)
    (command : IsCommand reqdata vita4611SetFruStatePolicyBitsCmd) :
    SafeIff manager reqdata (setFruStatePolicyBits reqdata) := by
  have kind : Mishandled manager reqdata ↔ (manager.deviceMapEmpty = false ∧ 7 ≤ reqdata.length) ∧
      manager.deviceMap (reqdata.getD 4 0) = none := by
    simp +decide [Mishandled, Dereferences, isCommand_iff command]
  rw [SafeIff, kind, pre_setFruStatePolicyBits]
  exact guarded_safe owned command (by decide) (by decide) fun fine _ due => absurd due fine

theorem getFruStatePolicyBits_safe (owned : manager.outline.Owned)
    (command : IsCommand reqdata vita4611GetFruStatePolicyBitsCmd) :
    SafeIff manager reqdata (withArgument reqdata getFruStatePolicyBits) := by
  have kind : Mishandled manager reqdata ↔ (manager.deviceMapEmpty = false ∧ 5 ≤ reqdata.length) ∧
      manager.deviceMap (reqdata.getD 4 0) = none := by
    simp +decide [Mishandled, Dereferences, isCommand_iff command]
  rw [SafeIff, kind, pre_withArgument, pre_getFruStatePolicyBits]
  exact guarded_safe owned command (by decide) (by decide) fun fine _ due => absurd due fine

theorem getDeviceLocatorRecordId_safe (owned : manager.outline.Owned)
    (command : IsCommand reqdata vita4611GetDeviceLocatorRecordIdCmd) :
    SafeIff manager reqdata (getDeviceLocatorRecordId reqdata) := by
  have kind : Mishandled manager reqdata ↔ (manager.deviceMapEmpty = false ∧ 5 ≤ reqdata.length) ∧
      manager.deviceMap (reqdata.getD 4 0) = none := by
    simp +decide [Mishandled, Dereferences, isCommand_iff command]
  rw [SafeIff, kind, pre_getDeviceLocatorRecordId]
  exact guarded_safe owned command (by decide) (by decide) fun fine _ due => absurd due fine

theorem getMandatorySensorNumbers_safe (owned : manager.outline.Owned)
    (command : IsCommand reqdata vita4611GetMandatorySensorNumbersCmd) :
    SafeIff manager reqdata (getDeviceLocatorRecordId reqdata) := by
  have kind : Mishandled manager reqdata ↔ (manager.deviceMapEmpty = false ∧ 5 ≤ reqdata.length) ∧
      manager.deviceMap (reqdata.getD 4 0) = none := by
    simp +decide [Mishandled, Dereferences, isCommand_iff command]
  rw [SafeIff, kind, pre_getDeviceLocatorRecordId]
  exact guarded_safe owned command (by decide) (by decide) fun fine _ due => absurd due fine

/-- A directive other than 0 and 1 is refused before the member access. -/
theorem setFruActivation_safe (owned : manager.outline.Owned)
    (command : IsCommand reqdata vita4611SetFruActivationCmd) :
    SafeIff manager reqdata (setFruActivation reqdata) := by
  have kind : Mishandled manager reqdata ↔ (manager.deviceMapEmpty = false ∧
      6 ≤ reqdata.length ∧ (reqdata.getD 5 0 = 0 ∨ reqdata.getD 5 0 = 1)) ∧
      manager.deviceMap (reqdata.getD 4 0) = none := by
    simp +decide [Mishandled, Dereferences, isCommand_iff command]
  rw [SafeIff, kind, pre_setFruActivation]
  by_cases directive : reqdata.getD 5 0 = 0 ∨ reqdata.getD 5 0 = 1
  · simp only [directive, if_true, and_true]
    exact guarded_safe owned command (by decide) (by decide) fun fine _ due => absurd due fine
  · simp only [directive, if_false, and_false, false_and, not_false_eq_true, iff_true]
    exact ite_intro (fun _ _ => rfl) fun _ => ite_intro (fun _ _ => rfl) fun _ _ => rfl

/-- A matched address key owes no error reply. -/
theorem not_due_of_match (command : IsCommand reqdata cmd)
    (long : requestLength cmd ≤ reqdata.length) {slot : UInt8} {device : Vita4611Device}
    (present : manager.deviceMap slot = some (some device))
    (found : Matches (reqdata.getD 5 0) (reqdata.getD 6 0) (reqdata.getD 7 0) device) :
    ¬DueError manager reqdata := by
  rintro (⟨short, _⟩ | ⟨_, unmatched⟩)
  · rw [command.2] at short
    omega
  · exact unmatched slot device present found

/-- The lookup of a request depends on the type of its address key. -/
def ChassisManager.lookup (manager : ChassisManager) (addrKeyType addrKey siteType : UInt8) :
    Option (Option Vita4611Device) :=
  if addrKeyType = 3 ∧ siteType = 0 then some (manager.findDeviceByPhysAddress addrKey)
  else manager.keyed addrKeyType addrKey

theorem lookup_matches (plain : manager.outline.Plain) {addrKeyType addrKey siteType : UInt8}
    {device : Vita4611Device}
    (found : manager.lookup addrKeyType addrKey siteType = some (some device)) :
    (∃ slot, manager.deviceMap slot = some (some device)) ∧
      Matches addrKeyType addrKey siteType device := by
  unfold ChassisManager.lookup ChassisManager.keyed at found
  split_ifs at found with site hardware ipmb
  · rcases findDevice_some (Option.some.inj found) with ⟨number, slot, present⟩
    refine ⟨⟨slot, present⟩, .inr (.inr ⟨site.1, by simpa using number, ?_⟩)⟩
    rw [site.2, siteType_zero plain present]
  · rcases findDevice_some (Option.some.inj found) with ⟨address, present⟩
    exact ⟨present, .inl ⟨hardware, by simpa using address⟩⟩
  · rcases findDevice_some (Option.some.inj found) with ⟨address, present⟩
    exact ⟨present, .inr (.inl ⟨ipmb, by simpa using address⟩)⟩

theorem lookup_misses (plain : manager.outline.Plain) {addrKeyType addrKey siteType : UInt8}
    (missing : ∀ device, manager.lookup addrKeyType addrKey siteType ≠ some (some device))
    (slot : UInt8) (device : Vita4611Device)
    (present : manager.deviceMap slot = some (some device)) :
    ¬Matches addrKeyType addrKey siteType device := by
  have absent {found : Option Vita4611Device}
      (chosen : manager.lookup addrKeyType addrKey siteType = some found) : found = none :=
    Option.eq_none_iff_forall_ne_some.mpr fun other same => missing other (by rw [chosen, same])
  rintro (⟨rfl, address⟩ | ⟨rfl, address⟩ | ⟨rfl, number, site⟩)
  · have empty : manager.findDeviceByHwAddress addrKey = none := absent rfl
    have other := findDevice_none empty slot device present
    simp [address] at other
  · have empty : manager.findDeviceByAddress addrKey = none := absent rfl
    have other := findDevice_none empty slot device present
    simp [address] at other
  · rw [siteType_zero plain present] at site
    subst site
    have empty : manager.findDeviceByPhysAddress addrKey = none := absent rfl
    have other := findDevice_none empty slot device present
    simp [number] at other

/-- A member access through a looked-up pointer is safe exactly when the address key is matched. -/
theorem useFound_safe (plain : manager.outline.Plain) (command : IsCommand reqdata cmd)
    (long : requestLength cmd ≤ reqdata.length) {found : Option (Option Vita4611Device)}
    (looked : found = manager.lookup (reqdata.getD 5 0) (reqdata.getD 6 0) (reqdata.getD 7 0))
    {use : Vita4611Device → Prop} (used : ¬DueError manager reqdata → ∀ device, use device) :
    useFound manager found use (safely manager reqdata).fault ↔ ¬Unmatched manager reqdata := by
  rcases found with _ | (_ | device)
  · have unmatched : Unmatched manager reqdata := 
      lookup_misses plain fun _ => by rw [← looked]; simp
    simp [useFound, safely, Fault.IsRequestFault, unmatched]
  · have unmatched : Unmatched manager reqdata := 
      lookup_misses plain fun _ => by rw [← looked]; simp
    simp [useFound, safely, Fault.IsRequestFault, unmatched]
  · rcases lookup_matches plain looked.symm with ⟨⟨slot, present⟩, matched⟩
    have fine := not_due_of_match command long present matched
    exact ⟨fun _ unmatched => unmatched slot device present matched, fun _ => used fine device⟩

theorem getAddTable_safe (plain : manager.outline.Plain)
    (command : IsCommand reqdata vita4611GetChassisAddressTableInfoCmd) :
    SafeIff manager reqdata (getAddTable reqdata) := by
  have kind : Mishandled manager reqdata ↔ 8 ≤ reqdata.length ∧
      manager.chassisAddressTable.entries ≠ [] ∧ reqdata.getD 5 0 ≤ 3 ∧ reqdata.getD 5 0 ≠ 2 ∧
      Unmatched manager reqdata := by
    simp +decide [Mishandled, Dereferences, isCommand_iff command]
  rw [SafeIff, kind, pre_getAddTable]
  by_cases short : reqdata.length < 8
  · rw [if_pos short]
    exact ⟨fun _ kind => absurd kind.1 (by omega), fun _ _ => rfl⟩
  · rw [if_neg short]
    by_cases refused : reqdata.getD 5 0 > 3 ∨ reqdata.getD 5 0 = 2 ∨
        manager.chassisAddressTable.entries = []
    · rw [if_pos refused]
      refine ⟨fun _ kind => ?_, fun _ _ => rfl⟩
      rcases refused with large | two | empty
      · exact absurd kind.2.2.1 (UInt8.not_le.mpr large)
      · exact kind.2.2.2.1 two
      · exact kind.2.1 empty
    · rw [if_neg refused]
      simp only [not_or] at refused
      rcases refused with ⟨small, two, filled⟩
      have rest : (8 ≤ reqdata.length ∧ manager.chassisAddressTable.entries ≠ [] ∧
          reqdata.getD 5 0 ≤ 3 ∧ reqdata.getD 5 0 ≠ 2 ∧ Unmatched manager reqdata) ↔
          Unmatched manager reqdata :=
        ⟨fun kind => kind.2.2.2.2, fun unmatched =>
          ⟨by omega, filled, UInt8.not_lt.mp small, two, unmatched⟩⟩
      rw [rest]
      have long : requestLength vita4611GetChassisAddressTableInfoCmd ≤ reqdata.length :=
        Nat.le_of_not_lt short
      by_cases site : reqdata.getD 5 0 = 3 ∧ reqdata.getD 7 0 = 0
      · rw [if_pos site]
        exact useFound_safe plain command long (if_pos site).symm fun fine _ due => absurd due fine
      · rw [if_neg site]
        apply useFound_safe plain command long (if_neg site).symm
        intro fine device
        refine ite_intro (fun _ => ⟨trivial, fun reply => ?_⟩) fun _ due => absurd due fine
        rcases (readReply reply).1 with _ | response
        · exact fun due => absurd due fine
        · exact ite_intro (fun _ due => absurd due fine) fun _ => ⟨by simp [Fault.IsRequestFault], fine⟩

/-- No enumerated device has a site type other than 0. -/
theorem unmatched_of_site (plain : manager.outline.Plain) (typed : reqdata.getD 5 0 = 3)
    (site : reqdata.getD 7 0 ≠ 0) : Unmatched manager reqdata := by
  rintro slot device present (⟨hardware, _⟩ | ⟨ipmb, _⟩ | ⟨_, _, same⟩)
  · rw [typed] at hardware
    cases hardware
  · rw [typed] at ipmb
    cases ipmb
  · exact site (same.symm.trans (siteType_zero plain present))

/-- A site type other than 0 is answered without a device, and an unknown site number through a null
pointer. -/
theorem getFruAddressInfo_safe (plain : manager.outline.Plain)
    (command : IsCommand reqdata vita4611GetFruAddressInfoCmd) :
    SafeIff manager reqdata (getFruAddressInfo reqdata) := by
  have kind : Mishandled manager reqdata ↔ reqdata.length = 8 ∧ reqdata.getD 4 0 = 0 ∧
      reqdata.getD 5 0 = 3 ∧ Unmatched manager reqdata := by
    simp +decide [Mishandled, Dereferences, isCommand_iff command]
  rw [SafeIff, kind, pre_getFruAddressInfo]
  by_cases bare : reqdata.length = 4
  · rw [if_pos bare]
    refine ⟨fun _ kind => by omega, fun _ due => ?_⟩
    rcases due with short | ⟨table | full, _⟩
    · exact absurd ⟨command.2, bare⟩ short.2
    · exact absurd table.2 (by omega)
    · exact absurd full.2 (by omega)
  · rw [if_neg bare]
    by_cases refused : reqdata.length ≠ 8 ∨ reqdata.getD 4 0 ≠ 0 ∨ reqdata.getD 5 0 ≠ 3
    · rw [if_pos refused]
      refine ⟨fun _ kind => ?_, fun _ _ => rfl⟩
      rcases refused with length | fru | typed
      · exact length kind.1
      · exact fru kind.2.1
      · exact typed kind.2.2.1
    · rw [if_neg refused]
      simp only [not_or, not_not] at refused
      rcases refused with ⟨length, fru, typed⟩
      simp only [length, fru, typed, true_and]
      have long : requestLength vita4611GetFruAddressInfoCmd ≤ reqdata.length := length.ge
      by_cases site : reqdata.getD 7 0 = 0
      · rw [if_pos site]
        exact useFound_safe plain command long (if_pos ⟨typed, site⟩).symm
          fun fine _ due => absurd due fine
      · rw [if_neg site]
        have unmatched := unmatched_of_site plain typed site
        refine ⟨fun safe => absurd (safe (.inr ⟨.inr ⟨command, length⟩, unmatched⟩)) (by simp),
          fun matched => absurd unmatched matched⟩

/-- Each case of the switch is safe exactly outside the mishandled kinds. -/
theorem chmHandler_safe (owned : manager.outline.Owned) (plain : manager.outline.Plain)
    (long : 4 ≤ reqdata.length) (command : IsCommand reqdata cmd) :
    SafeIff manager reqdata (chmHandler reqdata cmd) := by
  refine .ite (fun same => ?_) fun _ => ?_
  · subst same
    exact bare_safe command (not_mishandled command (by decide)) (by decide) (by decide) long rfl
  refine .ite (fun same => getAddTable_safe plain (same ▸ command)) fun table => ?_
  refine .ite (fun same => getChassisManagerIpAddresses_safe (same ▸ command)) fun _ => ?_
  refine .ite (fun same => ?_) fun _ => ?_
  · subst same
    exact bare_safe command (not_mishandled command (by decide)) (by decide) (by decide) long rfl
  refine .ite (fun same => setChassisIdentifier_safe (same ▸ command)) fun identifier => ?_
  refine .ite (fun same => fruControl_safe (same ▸ command)) fun control => ?_
  refine .ite (fun same => setIpmbState_safe (same ▸ command)) fun _ => ?_
  refine .ite (fun same => setFruStatePolicyBits_safe owned (same ▸ command)) fun setPolicy => ?_
  refine .ite (fun same => getFruStatePolicyBits_safe owned (same ▸ command)) fun getPolicy => ?_
  refine .ite (fun same => setFruActivation_safe owned (same ▸ command)) fun activation => ?_
  refine .ite (fun same => getDeviceLocatorRecordId_safe owned (same ▸ command)) fun locator => ?_
  refine .ite (fun same => getFanSpeedProperties_safe (same ▸ command)) fun _ => ?_
  refine .ite (fun same => setFanLevel_safe (same ▸ command)) fun _ => ?_
  refine .ite (fun same => getFanLevel_safe (same ▸ command)) fun _ => ?_
  refine .ite (fun same => setFanPolicy_safe (same ▸ command)) fun _ => ?_
  refine .ite (fun same => getFanPolicy_safe (same ▸ command)) fun _ => ?_
  refine .ite (fun same => ?_) fun _ => ?_
  · subst same
    exact bare_safe command (not_mishandled command (by decide)) (by decide) (by decide) long rfl
  refine .ite (fun same => getFruAddressInfo_safe plain (same ▸ command)) fun info => ?_
  refine .ite (fun same => getMandatorySensorNumbers_safe owned (same ▸ command)) fun mandatory => ?_
  -- An unknown command is refused, and none of the mishandled kinds is unknown.
  refine .of_harmless (not_mishandled command ?_) fun _ => rfl
  simp [identifier, control, setPolicy, getPolicy, activation, locator, mandatory, table, info]

end Commands

/-- A request to an enumerated table is handled within its bounds and answered with the due error
reply exactly when it is of no mishandled kind. -/
theorem handleChmCommand_safe_iff [Libm] (started : Started manager)
    (long : 4 ≤ reqdata.length) :
    HandledSafely manager reqdata ↔ ¬Mishandled manager reqdata := by
  rcases (started_fresh started).2.2 with ⟨owned, plain, _⟩
  rw [handledSafely_iff, pre_handleChmCommand long]
  by_cases netFn : reqdata.getD 1 0 = netfnVita4611
  · rw [if_neg (not_not_intro netFn)]
    exact chmHandler_safe owned plain long ⟨netFn, rfl⟩
  · rw [if_pos netFn]
    have other (cmd : UInt8) : ¬IsCommand reqdata cmd := fun command => netFn command.1
    simp [safely, Mishandled, Dereferences, other]

/-- The address table is asked for the hardware address of the only module. -/
theorem handleChmCommand_safe_loneManager :
    HandledSafely loneManager [0x40, 0x2c, 0, 0x01, 0, 0, 0x41, 0] := by
  have found : (loneManager.findDeviceByHwAddress 0x41).isSome := by decide +kernel
  rcases Option.isSome_iff_exists.mp found with ⟨device, chosen⟩
  rcases findDevice_some chosen with ⟨address, slot, present⟩
  apply (@handleChmCommand_safe_iff _ _ silentLibm loneManager_started (by decide)).mpr
  have command : IsCommand [0x40, 0x2c, 0, 0x01, 0, 0, 0x41, 0] 0x01 := ⟨rfl, rfl⟩
  rintro (⟨other, _⟩ | ⟨other, _⟩ | ⟨⟨_, other⟩, _⟩ | ⟨_, _, _, _, _, unmatched⟩ | ⟨other, _⟩)
  · exact absurd ((isCommand_iff command _).mp other) (by decide)
  · exact absurd ((isCommand_iff command _).mp other) (by decide)
  · simp +decide at other
  · exact unmatched slot device present (.inl ⟨rfl, by simpa using address⟩)
  · exact absurd ((isCommand_iff command _).mp other) (by decide)

/-- A FRU Control of five bytes is read at index 5. -/
theorem fruControl_reads_past_end :
    @Started silentLibm loneManager ∧ 4 ≤ [0x40, 0x2c, 0, 0x04, (1 : UInt8)].length ∧
      ((handleChmCommand [0x40, 0x2c, 0, 0x04, 1]).run loneModule loneManager 0).outcome =
        .fault .reqdataIndex ∧ ¬HandledSafely loneManager [0x40, 0x2c, 0, 0x04, 1] := by
  have fault : ((handleChmCommand [0x40, 0x2c, 0, 0x04, 1]).run loneModule loneManager 0).outcome =
      .fault .reqdataIndex := by
    decide +kernel
  exact ⟨loneManager_started, by decide, fault, fun safe => (safe loneModule).1 _ fault (.inl rfl)⟩

end Chassis.Vita4611
