import Chassis.Proof.Manager.DeviceMap
import Chassis.Proof.Manager.Enumeration
import Chassis.Proof.Manager.Rules

namespace Chassis.Vita4611
open Effect Program Automaton

/-- A manager started on an open bus where the addresses can be selected and respond as given. -/
def StartedWith [Libm] (selects responds : UInt8 → Bool) (manager : ChassisManager) : Prop :=
  ∃ environment : Environment interface,
    let run := ChassisManager.construct.run environment .blank 0
    run.outcome = .value () ∧ run.state = manager ∧
      ∀ entry ∈ run.calls, Acknowledges selects responds entry.op entry.answer

/-- The running system never changes what was discovered. -/
theorem discovered_rules (found : List I2cDeviceInfo) :
    ManagerRules fun manager => manager.i2cdeviceMap = found where
  devices _ _ _ kept := kept
  identifier _ _ _ kept := kept
  links _ _ _ kept := by
    simp only [applyIpmbState]
    split_ifs <;> exact kept
  timer _ _ kept := kept

variable {selects responds : UInt8 → Bool} {start manager : ChassisManager} {system : System}

/-- The list of discovered addresses has the acknowledging addresses in ascending order. -/
structure Discovers (selects responds : UInt8 → Bool) (found : List UInt8)
    (manager : ChassisManager) : Prop where
  discovered : manager.i2cdeviceMap = found.map fun addr => ⟨0, addr, 0, 0x20⟩
  ascending : found.Pairwise (· < ·)
  acknowledged : ∀ addr, addr ∈ found ↔
    (0x03 ≤ addr ∧ addr ≤ 0x77) ∧ acknowledges selects responds addr = true

theorem started_discovers [Libm] (started : StartedWith selects responds start) :
    ∃ found, Discovers selects responds found start := by
  obtain ⟨environment, returned, rfl, given⟩ := started
  have ended := rely_sound _ environment _ 0 construct_tables given
  rw [returned] at ended
  obtain ⟨found, closed | chosen, tabled⟩ := ended
  · exact absurd closed.1 Bool.false_ne_true
  · refine ⟨found, tabled.discovered, (tabled.of_probed chosen.sublist).1, ?_⟩
    intro addr
    rw [chosen.eq_filter, List.mem_filter, mem_probedAddresses]

/-- The discovered addresses stay those of the start. -/
theorem reachable_discovers [Libm] (started : StartedWith selects responds start)
    (reached : Reachable System.step ⟨start, none⟩ system) :
    ∃ found, Discovers selects responds found system.manager := by
  obtain ⟨found, discovers⟩ := started_discovers started
  have kept := (discovered_rules _).reachable discovers.discovered reached
  exact ⟨found, { discovers with discovered := kept }⟩

def doubled (addr : UInt8) : UInt8 := addr <<< 1

/-- The answer has the manager's own address first, then twice each other acknowledging address, and
no address twice. -/
def Lists (selects responds : UInt8 → Bool) (answer : RspType) : Prop :=
  ∃ others, answer = responseSuccess (chmcIpmiAddress :: others) ∧
    (chmcIpmiAddress :: others).Nodup ∧
    ∀ number, number ∈ others ↔ ∃ addr, (0x03 ≤ addr ∧ addr ≤ 0x77) ∧
      acknowledges selects responds addr = true ∧ addr ≠ chmcI2cAddress ∧ doubled addr = number

namespace Discovers

variable {found : List UInt8}

theorem answer (discovers : Discovers selects responds found manager) :
    lcrGetDeviceList manager = responseSuccess (chmcIpmiAddress :: found.map doubled) := by
  rw [lcrGetDeviceList, ChassisManager.getDeviceList, discovers.discovered, List.map_map]
  rfl

theorem small (discovers : Discovers selects responds found manager) {addr : UInt8}
    (member : addr ∈ found) : addr < 0x80 :=
  UInt8.lt_of_le_of_lt ((discovers.acknowledged addr).mp member).1.2 (by decide)

/-- The doubled addresses are distinct. -/
theorem doubled_nodup (discovers : Discovers selects responds found manager) :
    (found.map doubled).Nodup := by
  have distinct : found.Nodup := discovers.ascending.imp fun less => UInt8.ne_of_lt less
  refine distinct.map_on ?_
  intro first one second other same
  have shifted : first <<< 1 = second <<< 1 := same
  rw [← shift_back (discovers.small one), shifted, shift_back (discovers.small other)]

/-- Only the manager's own address is doubled to its IPMI address. -/
theorem own_mem (discovers : Discovers selects responds found manager) :
    chmcIpmiAddress ∈ found.map doubled ↔ chmcI2cAddress ∈ found := by
  constructor
  · intro member
    obtain ⟨addr, found, same⟩ := List.mem_map.mp member
    have shifted : addr <<< 1 = chmcIpmiAddress := same
    have own : addr = chmcI2cAddress := by
      rw [← shift_back (discovers.small found), shifted]
      rfl
    exact own ▸ found
  · exact fun member => List.mem_map.mpr ⟨chmcI2cAddress, member, rfl⟩

theorem lists_iff (discovers : Discovers selects responds found manager) :
    Lists selects responds (lcrGetDeviceList manager) ↔
      acknowledges selects responds chmcI2cAddress = false := by
  have own : chmcI2cAddress ∈ found ↔ acknowledges selects responds chmcI2cAddress = true := by
    rw [discovers.acknowledged]
    exact and_iff_right ⟨by decide, by decide⟩
  rw [discovers.answer, ← Bool.not_eq_true, ← own]
  constructor
  · rintro ⟨others, same, distinct, -⟩ member
    cases same
    exact (List.nodup_cons.mp distinct).1 (discovers.own_mem.mpr member)
  · intro absent
    refine ⟨_, rfl, List.nodup_cons.mpr ⟨fun member => absent (discovers.own_mem.mp member),
      discovers.doubled_nodup⟩, ?_⟩
    intro number
    rw [List.mem_map]
    constructor
    · rintro ⟨addr, member, doubled⟩
      obtain ⟨probed, acknowledged⟩ := (discovers.acknowledged addr).mp member
      exact ⟨addr, probed, acknowledged, fun same => absent (same ▸ member), doubled⟩
    · rintro ⟨addr, probed, acknowledged, -, doubled⟩
      exact ⟨addr, (discovers.acknowledged addr).mpr ⟨probed, acknowledged⟩, doubled⟩

end Discovers

/-- The device list is as it should be in exactly the systems whose own address did not acknowledge
at the start. -/
theorem lcrGetDeviceList_lists_iff [Libm] (started : StartedWith selects responds start)
    (reached : Reachable System.step ⟨start, none⟩ system) :
    Lists selects responds (lcrGetDeviceList system.manager) ↔
      acknowledges selects responds chmcI2cAddress = false := by
  obtain ⟨found, discovers⟩ := reachable_discovers started reached
  exact discovers.lists_iff

section Tables

/-- The running system never changes the lists of the devices, and of the address table no more than
the identifier of the chassis. -/
theorem tables_rules (found : List I2cDeviceInfo) (entries : List CatEntry) (count : UInt8) :
    ManagerRules fun manager => manager.i2cdeviceMap = found ∧
      manager.chassisAddressTable.entries = entries ∧
      manager.chassisAddressTable.chassisAddTableEntriesCount = count where
  devices _ _ _ kept := kept
  identifier _ _ _ kept := kept
  links _ _ _ kept := by
    simp only [applyIpmbState]
    split_ifs <;> exact kept
  timer _ _ kept := kept

/-- The tables are those of the addresses as long as the map keeps its keys and identities. -/
theorem Tabled.transfer {found : List UInt8} {after : ChassisManager} (tabled : Tabled found start)
    (discovered : after.i2cdeviceMap = start.i2cdeviceMap)
    (entries : after.chassisAddressTable.entries = start.chassisAddressTable.entries)
    (counted : after.chassisAddressTable.chassisAddTableEntriesCount =
      start.chassisAddressTable.chassisAddTableEntriesCount)
    (devices : after.outline.devices = start.outline.devices) : Tabled found after where
  discovered := discovered.trans tabled.discovered
  entries := entries.trans tabled.entries
  counted := counted.trans tabled.counted
  absent key none := by
    have missing := tabled.absent key none
    rw [← Option.not_isSome_iff_eq_none] at missing ⊢
    rwa [← isSome_outline, devices, isSome_outline]
  present key addr keyed := by
    obtain ⟨device, stored, at'⟩ := tabled.present key addr keyed
    have same : after.outline.devices key = some (some device.identity) := by
      rw [devices]
      simp only [ChassisManager.outline, stored, Option.map_some]
    simp only [ChassisManager.outline, Option.map_eq_some_iff] at same
    obtain ⟨_, present, own, rfl, identity⟩ := same
    exact ⟨own, present, at'.of_identity identity⟩

/-- Commands that name only keys of the map at the subscript operator keep everything that the
enumeration has left: both tables, the counter, the keys and the three lookups. -/
theorem reach_enumerates [Libm] (started : Started start)
    (reach : Reach System.step (fun system event => event.Known system) ⟨start, none⟩ system) :
    ∃ found : List UInt8, found.Pairwise (· < ·) ∧ (∀ addr ∈ found, 0x03 ≤ addr ∧ addr ≤ 0x77) ∧
      Enumerates found start ∧ Enumerates found system.manager := by
  obtain ⟨found, probed, tabled⟩ := started_tabled started
  obtain ⟨discovered, entries, counted⟩ :=
    (tables_rules _ _ _).reachable ⟨rfl, rfl, rfl⟩ reach.reachable
  have later := tabled.transfer discovered entries counted (reach_devices reach)
  obtain ⟨ascending, enumerates⟩ := tabled.of_probed probed
  exact ⟨found, ascending, fun addr member => mem_probedAddresses.mp (probed.subset member),
    enumerates, (later.of_probed probed).2⟩

/-- A FRU Control for the known key 1 keeps the tables of the only module. -/
theorem reach_enumerates_loneManager :
    ∃ system, @Reach _ _ (@System.step silentLibm) (fun system event => event.Known system)
        ⟨loneManager, none⟩ system ∧ system.ending = none ∧
      ∃ found : List UInt8, found.Pairwise (· < ·) ∧
        (∀ addr ∈ found, 0x03 ≤ addr ∧ addr ≤ 0x77) ∧
        Enumerates found loneManager ∧ Enumerates found system.manager := by
  let _ := silentLibm
  let control : Event := ⟨.passthrough [0x40, 0x2c, 0, 0x04, 1, 0], loneModule⟩
  have known : control.Known ⟨loneManager, none⟩ := fun _ _ => by decide +kernel
  have reach := Reach.next .start known (step_running (by decide +kernel))
  exact ⟨_, reach, rfl, reach_enumerates loneManager_started reach⟩

end Tables

section LoneModule

theorem loneModule_starts :
    ∃ manager, @StartedWith silentLibm (fun _ => true) (· == 0x41) manager := by
  refine ⟨_, loneModule, by decide +kernel, rfl, ?_⟩
  exact calls_assumed _ acknowledges_loneModule _ _

theorem loneModule_listed : ∃ manager,
    @StartedWith silentLibm (fun _ => true) (· == 0x41) manager ∧
      Lists (fun _ => true) (· == 0x41) (lcrGetDeviceList manager) := by
  obtain ⟨manager, started⟩ := loneModule_starts
  have silent : acknowledges (fun _ => true) (· == 0x41) chmcI2cAddress = false := by decide
  have reached : @Reachable _ _ (@System.step silentLibm) ⟨manager, none⟩ ⟨manager, none⟩ := .start
  exact ⟨manager, started, (@lcrGetDeviceList_lists_iff _ _ _ _ silentLibm started reached).mpr
    silent⟩

/-- Only the manager itself acknowledges, and it answers no request. -/
def ownAddress : Environment interface := fun index op =>
  match op with
  | .probe addr => addr == chmcI2cAddress
  | op => loneModule index op

theorem acknowledges_ownAddress (index : Nat) (op : Op) :
    Acknowledges (fun _ => true) (· == chmcI2cAddress) op (ownAddress index op) := by
  cases op <;> first | rfl | trivial

theorem ownAddress_starts :
    ∃ manager, @StartedWith silentLibm (fun _ => true) (· == chmcI2cAddress) manager := by
  refine ⟨_, ownAddress, by decide +kernel, rfl, ?_⟩
  exact calls_assumed _ acknowledges_ownAddress _ _

/-- The manager lists itself as a device. -/
theorem own_listed_twice : ¬∀ (selects responds : UInt8 → Bool) (start : ChassisManager)
    (system : System), @StartedWith silentLibm selects responds start →
      @Reachable _ _ (@System.step silentLibm) ⟨start, none⟩ system →
        Lists selects responds (lcrGetDeviceList system.manager) := by
  intro always
  obtain ⟨manager, started⟩ := ownAddress_starts
  obtain ⟨found, discovers⟩ := @started_discovers _ _ _ silentLibm started
  have silent := discovers.lists_iff.mp (always _ _ manager ⟨manager, none⟩ started .start)
  exact absurd silent (by decide)

end LoneModule

end Chassis.Vita4611
