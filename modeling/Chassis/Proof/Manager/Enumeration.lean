import Chassis.Proof.Manager.Bounds
import Chassis.Effect.Rely
import Chassis.Data.Numbering

namespace Chassis.Vita4611
open Effect Program Data

/-- The device was constructed for this bus address. -/
structure Vita4611Device.At (addr : UInt8) (device : Vita4611Device) : Prop where
  channel : device.channel = 0
  ipmiAddress : device.ipmiAddress = addr <<< 1
  hwAddress : device.hwAddress = addr
  siteNumber : device.siteNumber = addr - 0x40
  siteType : device.siteType = 0

/-- A 7-bit address comes back from its IPMB address. -/
theorem shift_back {addr : UInt8} (small : addr < 0x80) : (addr <<< 1) >>> 1 = addr := by
  apply UInt8.toNat_inj.mp
  have bound : addr.toNat < 128 := UInt8.lt_iff_toNat_lt.mp small
  simp only [UInt8.toNat_shiftRight, UInt8.toNat_shiftLeft, Nat.shiftLeft_eq,
    Nat.shiftRight_eq_div_pow, show UInt8.toNat 1 % 8 = 1 from rfl]
  omega

/-- The key of an address in the device map is its number, and 0 is the chassis manager's own. -/
abbrev keyAddress (found : List UInt8) (key : UInt8) : Option UInt8 :=
  numbered chmcI2cAddress found key.toNat

/-- The three tables and the counter describe the addresses found so far. -/
structure Tabled (found : List UInt8) (manager : ChassisManager) : Prop where
  discovered : manager.i2cdeviceMap = found.map fun addr => ⟨0, addr, 0, 0x20⟩
  entries : manager.chassisAddressTable.entries = found.map fun addr => ⟨addr, 0, 0⟩
  counted : manager.chassisAddressTable.chassisAddTableEntriesCount = UInt8.ofNat found.length
  absent : ∀ key, keyAddress found key = none → manager.deviceMap key = none
  present : ∀ key addr, keyAddress found key = some addr →
    ∃ device, manager.deviceMap key = some (some device) ∧ device.At addr

variable {manager : ChassisManager} {found : List UInt8} {addr key : UInt8}

/-- An address that takes the key `key` extends the tables with its device. -/
theorem Tabled.add {device : Vita4611Device} (tabled : Tabled found manager) (at' : device.At addr)
    (keyed : ∀ other, keyAddress (found ++ [addr]) other =
      if other = key then some addr else keyAddress found other) :
    Tabled (found ++ [addr]) { manager.setDevice key (some device) with
      i2cdeviceMap := manager.i2cdeviceMap ++ [⟨0, addr, 0, 0x20⟩]
      chassisAddressTable := { manager.chassisAddressTable with
        entries := manager.chassisAddressTable.entries ++ [⟨device.hwAddress, 0, device.siteType⟩]
        chassisAddTableEntriesCount :=
          manager.chassisAddressTable.chassisAddTableEntriesCount + 0x01 } } where
  discovered := by simp [tabled.discovered]
  entries := by simp [tabled.entries, at'.hwAddress, at'.siteType]
  counted := by simp [tabled.counted]
  absent other none := by
    rw [keyed] at none
    by_cases same : other = key
    · simp [same] at none
    · rw [if_neg same] at none
      exact (Function.update_of_ne same _ _).trans (tabled.absent other none)
  present other stored some := by
    rw [keyed] at some
    by_cases same : other = key
    · subst same
      rw [if_pos rfl, Option.some.injEq] at some
      exact ⟨device, Function.update_self _ _ _, some ▸ at'⟩
    · rw [if_neg same] at some
      obtain ⟨owned, present, constructed⟩ := tabled.present other stored some
      exact ⟨owned, (Function.update_of_ne same _ _).trans present, constructed⟩

theorem Vita4611Device.At.of_identity {device after : Vita4611Device} (at' : device.At addr)
    (same : after.identity = device.identity) : after.At addr where
  channel := (congrArg Identity.channel same).trans at'.channel
  ipmiAddress := (congrArg Identity.ipmiAddress same).trans at'.ipmiAddress
  hwAddress := (congrArg Identity.hwAddress same).trans at'.hwAddress
  siteNumber := (congrArg Identity.siteNumber same).trans at'.siteNumber
  siteType := (congrArg Identity.siteType same).trans at'.siteType

theorem Tabled.replace {device after : Vita4611Device} (tabled : Tabled found manager)
    (stored : manager.deviceMap key = some (some device))
    (same : after.identity = device.identity) : Tabled found (manager.setDevice key (some after)) where
  discovered := tabled.discovered
  entries := tabled.entries
  counted := tabled.counted
  absent other none := by
    have unset := tabled.absent other none
    refine (Function.update_of_ne ?_ _ _).trans unset
    rintro rfl
    rw [stored] at unset
    cases unset
  present other addr keyed := by
    obtain ⟨owned, present, at'⟩ := tabled.present other addr keyed
    by_cases here : other = key
    · subst here
      rw [stored] at present
      cases present
      exact ⟨after, Function.update_self _ _ _, at'.of_identity same⟩
    · exact ⟨owned, (Function.update_of_ne here _ _).trans present, at'⟩

/-- A program that keeps the identity of its device keeps the tables. -/
theorem onDevice_tabled {program : Program interface Vita4611Device Unit}
    (steady : ∀ identity, Steady identity program) (key : UInt8) :
    Keeps (fun _ _ => True) (Tabled found) (fun _ => True) (onDevice program key) := by
  intro manager tabled
  rw [pre_onDevice]
  rcases stored : manager.deviceMap key with _ | (_ | device)
  · exact tabled
  · exact ⟨tabled, trivial⟩
  · have same (after : Vita4611Device) (identity : after.identity = device.identity) :
        Tabled found (manager.setDevice key (some after)) :=
      tabled.replace stored identity
    exact pre_mono (steady device.identity device rfl) (fun _ _ _ => trivial)
      (fun _ after => same after) (fun _ after => same after)
      (fun _ after ended => ⟨same after ended.1, trivial⟩)

section Enumeration

theorem mem_probedAddresses : addr ∈ probedAddresses ↔ 0x03 ≤ addr ∧ addr ≤ 0x77 := by
  simp only [probedAddresses, List.mem_map, List.mem_range'_1, UInt8.le_iff_toNat_le]
  constructor
  · rintro ⟨number, ⟨low, high⟩, rfl⟩
    rw [UInt8.toNat_ofNat_of_lt' (Nat.lt_trans high (by decide))]
    exact ⟨low, Nat.le_of_lt_succ high⟩
  · rintro ⟨low, high⟩
    exact ⟨addr.toNat, ⟨low, Nat.lt_succ_of_le high⟩, UInt8.ofNat_toNat⟩

/-- The addresses are probed in ascending order. -/
theorem probedAddresses_ascending : probedAddresses.Pairwise (· < ·) := by
  decide +kernel

theorem probedAddresses_small (member : addr ∈ probedAddresses) : addr < 0x80 :=
  UInt8.lt_of_le_of_lt (mem_probedAddresses.mp member).2 (by decide)

variable [Libm]

/-- Only the returns of a program are described. -/
def returning {Value : Type} (holds : ChassisManager → Prop) : Post interface ChassisManager Value :=
  ⟨fun _ => holds, fun _ _ => True, fun _ _ => True⟩

theorem addDevice_tables (small : addr < 0x80) (tabled : Tabled found manager)
    (keyed : ∀ other, keyAddress (found ++ [addr]) other =
      if other = key then some addr else keyAddress found other) :
    (addDevice key addr).pre (fun _ _ => True) (returning (Tabled (found ++ [addr]))) manager := by
  simp only [addDevice, pre_bind, pre_modify, pre_indeterminate, pre_isolate]
  refine ⟨trivial, fun junk => ?_⟩
  refine pre_mono (Vita4611Device.pre_construct 0 (addr <<< 1) _) (fun _ _ _ => trivial) ?_
    (fun _ _ _ => trivial) (fun _ _ _ => trivial)
  rintro _ device ⟨vsocaps, constructed⟩
  have at' : { device with deviceId := 0 }.At addr := {
    channel := congrArg Identity.channel constructed
    ipmiAddress := congrArg Identity.ipmiAddress constructed
    hwAddress := (congrArg Identity.hwAddress constructed).trans (shift_back small)
    siteNumber := (congrArg Identity.siteNumber constructed).trans (by
      change (addr <<< 1) >>> 1 - 0x40 = _
      rw [shift_back small])
    siteType := congrArg Identity.siteType constructed }
  exact tabled.add at' keyed

/-- The answers to the select and to the probe decide which of the addresses are kept. -/
inductive Kept (assumed : (op : Op) → op.Answer → Prop) : List UInt8 → List UInt8 → Prop where
  | nil : Kept assumed [] []
  | unselected {addr : UInt8} {addresses kept : List UInt8}
      (refused : assumed (.selectAddress addr) false) (rest : Kept assumed addresses kept) :
      Kept assumed (addr :: addresses) kept
  | silent {addr : UInt8} {addresses kept : List UInt8} (refused : assumed (.probe addr) false)
      (rest : Kept assumed addresses kept) : Kept assumed (addr :: addresses) kept
  | found {addr : UInt8} {addresses kept : List UInt8} (selected : assumed (.selectAddress addr) true)
      (answered : assumed (.probe addr) true) (rest : Kept assumed addresses kept) :
      Kept assumed (addr :: addresses) (addr :: kept)

variable {assumed : (op : Op) → op.Answer → Prop}

/-- The loop tables the kept addresses behind those found before it, as long as there are keys
left. -/
theorem enumerateAddresses_tables (addresses : List UInt8) {n : UInt8}
    (small : ∀ addr ∈ addresses, addr < 0x80)
    (next : n.toNat = others chmcI2cAddress found + 1)
    (room : others chmcI2cAddress found + addresses.length < 255) (tabled : Tabled found manager) :
    (enumerateAddresses addresses n).rely assumed (returning fun manager =>
      ∃ kept, Kept assumed addresses kept ∧ Tabled (found ++ kept) manager) manager := by
  induction addresses generalizing n found manager with
  | nil => exact ⟨[], .nil, by rwa [List.append_nil]⟩
  | cons addr rest ih =>
      have fits := small addr List.mem_cons_self
      have later := fun other member => small other (List.mem_cons_of_mem addr member)
      rw [List.length_cons] at room
      have skipped (drops : ∀ kept, Kept assumed rest kept → Kept assumed (addr :: rest) kept) :
          (enumerateAddresses rest n).rely assumed (returning fun manager =>
            ∃ kept, Kept assumed (addr :: rest) kept ∧ Tabled (found ++ kept) manager) manager := by
        refine rely_mono (ih later next (by omega) tabled) ?_ (fun _ _ _ => trivial)
          (fun _ _ _ => trivial)
        rintro _ after ⟨kept, chosen, extended⟩
        exact ⟨kept, drops kept chosen, extended⟩
      have added (key n' : UInt8) (keeps : ∀ kept, Kept assumed rest kept →
            Kept assumed (addr :: rest) (addr :: kept))
          (keyed : ∀ other, keyAddress (found ++ [addr]) other =
            if other = key then some addr else keyAddress found other)
          (counted : n'.toNat = others chmcI2cAddress (found ++ [addr]) + 1)
          (left : others chmcI2cAddress (found ++ [addr]) + rest.length < 255) :
          (addDevice key addr >>= fun _ => enumerateAddresses rest n').rely assumed
            (returning fun manager => ∃ kept, Kept assumed (addr :: rest) kept ∧
              Tabled (found ++ kept) manager) manager := by
        rw [rely_bind]
        refine rely_mono (rely_of_pre (addDevice_tables fits tabled keyed)) ?_
          (fun _ _ _ => trivial) (fun _ _ _ => trivial)
        intro _ after extended
        refine rely_mono (ih later counted left extended) ?_ (fun _ _ _ => trivial)
          (fun _ _ _ => trivial)
        rintro _ last ⟨kept, chosen, full⟩
        exact ⟨addr :: kept, keeps kept chosen, by simpa using full⟩
      intro selected given
      cases selected with
      | false => exact skipped fun _ => .unselected given
      | true =>
          intro present answered
          cases present with
          | false => exact skipped fun _ => .silent answered
          | true =>
              change Program.rely _ (if addr = chmcI2cAddress
                then addDevice 0 addr >>= fun _ => enumerateAddresses rest n
                else addDevice n addr >>= fun _ => enumerateAddresses rest (n + 1)) _ _
              split
              · rename_i own
                subst own
                refine added 0 n (fun _ => .found given answered) (fun other => ?_) ?_ ?_
                · simp only [keyAddress, numbered_append_special, ← UInt8.toNat_inj]
                  rfl
                · rw [others_append_special, next]
                · rw [others_append_special]
                  omega
              · rename_i other
                refine added n (n + 1) (fun _ => .found given answered) (fun key => ?_) ?_ ?_
                · simp only [keyAddress, numbered_append_other other, ← next, UInt8.toNat_inj]
                · rw [others_append_other other, UInt8.toNat_add, next]
                  exact Nat.mod_eq_of_lt (by simp; omega)
                · rw [others_append_other other]
                  omega

/-- On empty tables the enumeration tables the kept addresses of an open bus. -/
theorem enumerateI2cDevices_tables (empty : Tabled [] manager) :
    enumerateI2cDevices.rely assumed (returning fun manager => ∃ kept,
      (assumed .openBus false ∧ kept = [] ∨ Kept assumed probedAddresses kept) ∧
        Tabled kept manager) manager := by
  intro opened given
  cases opened with
  | false => exact ⟨[], .inl ⟨given, rfl⟩, empty⟩
  | true =>
      refine rely_mono (enumerateAddresses_tables probedAddresses
        (fun _ => probedAddresses_small) rfl (by decide) empty) ?_ (fun _ _ _ => trivial)
        (fun _ _ _ => trivial)
      rintro _ after ⟨kept, chosen, tabled⟩
      exact ⟨kept, .inr chosen, tabled⟩

omit [Libm] in
/-- Nothing but probed addresses is kept, and each of them once. -/
theorem Kept.sublist {addresses kept : List UInt8} (chosen : Kept assumed addresses kept) :
    kept.Sublist addresses := by
  induction chosen with
  | nil => exact .slnil
  | unselected _ _ ih => exact ih.cons _
  | silent _ _ ih => exact ih.cons _
  | found _ _ _ ih => exact ih.cons_cons _

end Enumeration

section Lookup

/-- This is the only device of the map that was constructed for the address. -/
def ChassisManager.Sole (manager : ChassisManager) (addr : UInt8) (device : Vita4611Device) : Prop :=
  ∃ key, manager.deviceMap key = some (some device) ∧ device.At addr ∧
    ∀ other owned, manager.deviceMap other = some (some owned) → owned.At addr → other = key

/-- A device of the map stands for one of the addresses. -/
theorem Tabled.constructed (tabled : Tabled found manager) {device : Vita4611Device}
    (owned : manager.deviceMap key = some (some device)) :
    ∃ addr, keyAddress found key = some addr ∧ device.At addr := by
  rcases keyed : keyAddress found key with _ | addr
  · rw [tabled.absent key keyed] at owned
    cases owned
  · obtain ⟨stored, present, at'⟩ := tabled.present key addr keyed
    rw [owned] at present
    cases present
    exact ⟨addr, rfl, at'⟩

theorem Vita4611Device.At.unique {device : Vita4611Device} {first second : UInt8}
    (one : device.At first) (other : device.At second) : first = second :=
  one.hwAddress.symm.trans other.hwAddress

/-- Every address has its only device. -/
theorem Tabled.sole (tabled : Tabled found manager) (distinct : found.Nodup)
    (room : others chmcI2cAddress found < 256) (member : addr ∈ found) :
    ∃ device, manager.Sole addr device := by
  obtain ⟨index, small, numbering⟩ := exists_numbered chmcI2cAddress member
  have back : (UInt8.ofNat index).toNat = index := UInt8.toNat_ofNat_of_lt' (Nat.lt_of_le_of_lt small room)
  have keyed : keyAddress found (UInt8.ofNat index) = some addr := by rw [keyAddress, back, numbering]
  obtain ⟨device, present, at'⟩ := tabled.present _ addr keyed
  refine ⟨device, _, present, at', fun other owned stored constructed => ?_⟩
  obtain ⟨address, numbered', at''⟩ := tabled.constructed stored
  rw [at''.unique constructed] at numbered'
  exact UInt8.toNat_inj.mp (numbered_injective distinct numbered' keyed)

variable {field : Vita4611Device → UInt8} (derive : UInt8 → UInt8)

/-- A lookup by a derived number that no two addresses share finds the only device. -/
theorem Tabled.findDevice_sole (tabled : Tabled found manager)
    (derived : ∀ addr device, device.At addr → field device = derive addr)
    (injective : ∀ first ∈ found, ∀ second ∈ found, derive first = derive second → first = second)
    (member : addr ∈ found) {device : Vita4611Device} (sole : manager.Sole addr device) :
    manager.findDevice (fun device => field device == derive addr) = some device := by
  obtain ⟨key, present, at', only⟩ := sole
  rcases looked : manager.findDevice (fun device => field device == derive addr) with _ | other
  · have refused := findDevice_none looked key device present
    simp [derived addr device at'] at refused
  · obtain ⟨accepted, slot, stored⟩ := findDevice_some looked
    obtain ⟨address, keyed, constructed⟩ := tabled.constructed stored
    rw [derived address other constructed, beq_iff_eq] at accepted
    have same := injective address (mem_of_numbered keyed) addr member accepted
    subst same
    rw [only slot other stored constructed, present] at stored
    exact congrArg some (by simpa using stored.symm)

/-- A lookup by a number that belongs to no address finds nothing. -/
theorem Tabled.findDevice_missing (tabled : Tabled found manager)
    (derived : ∀ addr device, device.At addr → field device = derive addr) {number : UInt8}
    (foreign : ∀ addr ∈ found, derive addr ≠ number) :
    manager.findDevice (fun device => field device == number) = none := by
  rcases looked : manager.findDevice (fun device => field device == number) with _ | other
  · rfl
  · obtain ⟨accepted, slot, stored⟩ := findDevice_some looked
    obtain ⟨address, keyed, constructed⟩ := tabled.constructed stored
    rw [derived address other constructed, beq_iff_eq] at accepted
    exact absurd accepted (foreign address (mem_of_numbered keyed))

end Lookup

/-- The tables list these addresses in order, and the lookups find the only device of each of them
by any of its three numbers and nothing else. -/
structure Enumerates (found : List UInt8) (manager : ChassisManager) : Prop where
  discovered : manager.i2cdeviceMap = found.map fun addr => ⟨0, addr, 0, 0x20⟩
  entries : manager.chassisAddressTable.entries = found.map fun addr => ⟨addr, 0, 0⟩
  counted : manager.chassisAddressTable.chassisAddTableEntriesCount.toNat = found.length
  keys : ∀ key, (manager.deviceMap key).isSome ↔ key = 0 ∧ chmcI2cAddress ∈ found ∨
    1 ≤ key.toNat ∧ key.toNat ≤ (found.filter (· ≠ chmcI2cAddress)).length
  located : ∀ addr ∈ found, ∃ device, manager.Sole addr device ∧
    manager.findDeviceByAddress (addr <<< 1) = some device ∧
    manager.findDeviceByHwAddress addr = some device ∧
    manager.findDeviceByPhysAddress (addr - 0x40) = some device
  ipmiMissing : ∀ number, (∀ addr ∈ found, addr <<< 1 ≠ number) →
    manager.findDeviceByAddress number = none
  hwMissing : ∀ number, number ∉ found → manager.findDeviceByHwAddress number = none
  siteMissing : ∀ number, (∀ addr ∈ found, addr - 0x40 ≠ number) →
    manager.findDeviceByPhysAddress number = none

/-- Distinct 7-bit addresses have distinct derived numbers. -/
theorem Tabled.enumerates (tabled : Tabled found manager) (distinct : found.Nodup)
    (small : ∀ addr ∈ found, addr < 0x80) (room : found.length < 256) :
    Enumerates found manager where
  discovered := tabled.discovered
  entries := tabled.entries
  counted := by rw [tabled.counted, UInt8.toNat_ofNat_of_lt' (by simpa using room)]
  keys key := by
    have used := numbered_isSome_iff chmcI2cAddress found key.toNat
    rw [← UInt8.toNat_inj]
    refine Iff.trans ?_ used
    change _ ↔ (keyAddress found key).isSome
    rcases keyed : keyAddress found key with _ | addr
    · simp [tabled.absent key keyed]
    · obtain ⟨device, present, _⟩ := tabled.present key addr keyed
      simp [present]
  located addr member := by
    obtain ⟨device, sole⟩ := tabled.sole distinct (Nat.lt_of_le_of_lt others_le room) member
    refine ⟨device, sole, ?_, ?_, ?_⟩
    · refine tabled.findDevice_sole (· <<< 1) (fun _ _ at' => at'.ipmiAddress) ?_ member sole
      intro first one second other same
      rw [← shift_back (small first one), same, shift_back (small second other)]
    · exact tabled.findDevice_sole id (fun _ _ at' => at'.hwAddress)
        (fun _ _ _ _ same => same) member sole
    · exact tabled.findDevice_sole (· - 0x40) (fun _ _ at' => at'.siteNumber)
        (fun _ _ _ _ same => sub_left_injective same) member sole
  ipmiMissing number foreign :=
    tabled.findDevice_missing (· <<< 1) (fun _ _ at' => at'.ipmiAddress) foreign
  hwMissing number foreign :=
    tabled.findDevice_missing id (fun _ _ at' => at'.hwAddress)
      fun addr member same => foreign (same ▸ member)
  siteMissing number foreign :=
    tabled.findDevice_missing (· - 0x40) (fun _ _ at' => at'.siteNumber) foreign

section Probe

/-- An address acknowledges when it can be selected and responds to the probe. -/
def acknowledges (selects responds : UInt8 → Bool) (addr : UInt8) : Bool :=
  selects addr && responds addr

/-- The bus opens, and each address can be selected and responds as given. -/
def Acknowledges (selects responds : UInt8 → Bool) : (op : Op) → op.Answer → Prop
  | .openBus, answer => answer = true
  | .selectAddress addr, answer => answer = selects addr
  | .probe addr, answer => answer = responds addr
  | _, _ => True

variable {selects responds : UInt8 → Bool} {assumed : (op : Op) → op.Answer → Prop}

/-- Consistent answers keep exactly the acknowledging addresses. -/
theorem Kept.eq_filter {addresses kept : List UInt8}
    (chosen : Kept (Acknowledges selects responds) addresses kept) :
    kept = addresses.filter (acknowledges selects responds) := by
  induction chosen with
  | nil => rfl
  | unselected refused _ ih =>
      rw [List.filter_cons_of_neg (by simp [acknowledges, ← show false = selects _ from refused]), ih]
  | silent refused _ ih =>
      rw [List.filter_cons_of_neg (by simp [acknowledges, ← show false = responds _ from refused]),
        ih]
  | found selected answered _ ih =>
      rw [List.filter_cons_of_pos (by simp [acknowledges, ← show true = selects _ from selected,
        ← show true = responds _ from answered]), ih]

/-- Addresses of the probed range in their order fill the tables. -/
theorem Tabled.of_probed (tabled : Tabled found manager) (probed : found.Sublist probedAddresses) :
    found.Pairwise (· < ·) ∧ Enumerates found manager := by
  have ascending := probedAddresses_ascending.sublist probed
  refine ⟨ascending, tabled.enumerates (ascending.imp fun less => UInt8.ne_of_lt less) ?_ ?_⟩
  · exact fun addr member => probedAddresses_small (probed.subset member)
  · exact Nat.lt_of_le_of_lt probed.length_le (by decide)

variable [Libm]

/-- An enumeration that returns leaves one entry for each acknowledging address, in ascending order,
and the keys and the lookups of exactly these addresses. -/
theorem enumerateI2cDevices_enumerates (empty : Tabled [] manager)
    (environment : Environment interface) (position : Nat)
    (given : ∀ entry ∈ (enumerateI2cDevices.run environment manager position).calls,
      Acknowledges selects responds entry.op entry.answer)
    (returned : (enumerateI2cDevices.run environment manager position).outcome = .value ()) :
    ∃ found : List UInt8, found.Pairwise (· < ·) ∧
      (∀ addr, addr ∈ found ↔
        (0x03 ≤ addr ∧ addr ≤ 0x77) ∧ acknowledges selects responds addr) ∧
      Enumerates found (enumerateI2cDevices.run environment manager position).state := by
  have ended := rely_sound _ environment manager position (enumerateI2cDevices_tables empty) given
  rw [returned] at ended
  obtain ⟨kept, closed | chosen, tabled⟩ := ended
  · exact absurd closed.1 Bool.false_ne_true
  · obtain ⟨ascending, enumerates⟩ := tabled.of_probed chosen.sublist
    refine ⟨kept, ascending, fun addr => ?_, enumerates⟩
    rw [chosen.eq_filter, List.mem_filter, mem_probedAddresses]

omit [Libm] in
/-- What is kept of the probed addresses keeps their order. -/
theorem Kept.probed {closed : Prop} {kept : List UInt8}
    (chosen : closed ∧ kept = [] ∨ Kept assumed probedAddresses kept) :
    kept.Sublist probedAddresses := by
  rcases chosen with ⟨_, rfl⟩ | chosen
  · exact List.nil_sublist _
  · exact chosen.sublist

/-- Whatever is answered, an enumeration that returns leaves the tables of probed addresses. -/
theorem enumerateI2cDevices_tabled (empty : Tabled [] manager) (environment : Environment interface)
    (position : Nat)
    (returned : (enumerateI2cDevices.run environment manager position).outcome = .value ()) :
    ∃ found : List UInt8, found.Sublist probedAddresses ∧
      Tabled found (enumerateI2cDevices.run environment manager position).state := by
  have tables : enumerateI2cDevices.rely (fun _ _ => True) _ manager :=
    enumerateI2cDevices_tables empty
  have ended := rely_sound _ environment manager position tables fun _ _ => trivial
  rw [returned] at ended
  obtain ⟨kept, chosen, tabled⟩ := ended
  exact ⟨kept, Kept.probed chosen, tabled⟩

/-- The construction leaves the tables of the enumeration. -/
theorem construct_tables :
    ChassisManager.construct.rely assumed (returning fun manager => ∃ kept,
      (assumed .openBus false ∧ kept = [] ∨ Kept assumed probedAddresses kept) ∧
        Tabled kept manager) ChassisManager.blank := by
  have exposed (found : List UInt8) : Keeps (fun _ _ => True) (Tabled found) (fun _ => True)
      exposeFruSensors := by
    refine keeps_forEach fun key => onDevice_tabled (fun _ => ?_) key
    exact keeps_read fun _ _ => keeps_bind (keeps_forEach fun index =>
      Vita4611Device.exposeSensor_steady key index) fun _ =>
        Vita4611Device.getAllSensorReadings_steady
  simp only [ChassisManager.construct, rely_bind, rely_modify]
  refine rely_mono (enumerateI2cDevices_tables ⟨rfl, rfl, rfl, fun _ _ => rfl,
    fun key _ keyed => by simp [keyAddress] at keyed⟩) ?_ (fun _ _ _ => trivial)
    (fun _ _ _ => trivial)
  rintro _ after ⟨kept, chosen, tabled⟩
  exact rely_of_pre (pre_mono (exposed kept after tabled) (fun _ _ held => held)
    (fun _ _ held => ⟨kept, chosen, held⟩) (fun _ _ _ => trivial) (fun _ _ _ => trivial))

/-- Every started manager has the tables of some of the probed addresses. -/
theorem started_tabled (started : Started manager) :
    ∃ found : List UInt8, found.Sublist probedAddresses ∧ Tabled found manager := by
  obtain ⟨environment, returned, rfl⟩ := started
  have constructed : ChassisManager.construct.rely (fun _ _ => True) _ ChassisManager.blank :=
    construct_tables
  have ended := rely_sound _ environment _ 0 constructed fun _ _ => trivial
  rw [returned] at ended
  obtain ⟨found, chosen, tabled⟩ := ended
  exact ⟨found, Kept.probed chosen, tabled⟩

end Probe

section LoneModule

theorem blank_tabled : Tabled [] ChassisManager.blank where
  discovered := rfl
  entries := rfl
  counted := rfl
  absent _ _ := rfl
  present key addr keyed := by simp [keyAddress] at keyed

theorem acknowledges_loneModule (index : Nat) (op : Op) :
    Acknowledges (fun _ => true) (· == 0x41) op (loneModule index op) := by
  cases op <;> first | rfl | trivial

/-- The only module is the only acknowledging device. -/
theorem enumerateI2cDevices_loneModule :
    ∃ found : List UInt8, found.Pairwise (· < ·) ∧
      (∀ addr, addr ∈ found ↔
        (0x03 ≤ addr ∧ addr ≤ 0x77) ∧ acknowledges (fun _ => true) (· == 0x41) addr) ∧
      Enumerates found (@enumerateI2cDevices silentLibm |>.run loneModule
        .blank 0).state := by
  refine @enumerateI2cDevices_enumerates _ _ _ silentLibm blank_tabled loneModule 0 ?_
    (by decide +kernel)
  exact calls_assumed _ acknowledges_loneModule _ _

end LoneModule

end Chassis.Vita4611
