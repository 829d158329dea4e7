import Chassis.Proof.Manager.Settings

namespace Chassis.Vita4611
open Effect Program Automaton

/-- The written bytes come first, and the stored ones stay behind them. -/
theorem writeFront_toList (field : Vector UInt8 20) {bytes : List UInt8}
    (short : bytes.length ≤ 20) :
    (writeFront field bytes).toList = bytes ++ field.toList.drop bytes.length := by
  apply List.ext_getElem
  · simp
    omega
  · intro index inside _
    have bound : index < 20 := by simpa using inside
    simp only [writeFront, Vector.getElem_toList, Vector.getElem_ofFn, List.getElem_append,
      List.getElem_drop]
    by_cases written : index < bytes.length
    · simp [written]
    · rw [dif_neg written, List.getD_eq_getElem?_getD, List.getElem?_eq_none (by omega)]
      simp only [show bytes.length + (index - bytes.length) = index by omega]
      rfl

variable {reqdata identifier : List UInt8} {idType : UInt8} {system : System}

/-- This is a Get Chassis Identifier request. -/
def AsksIdentifier (reqdata : List UInt8) : Prop :=
  4 ≤ reqdata.length ∧ IsCommand reqdata vita4611GetChassisIdCmd

/-- The event is a Set Chassis Identifier command with too long an identifier. -/
def Event.Oversized (manager : ChassisManager) (event : Event) : Prop :=
  match event.operation with
  | .passthrough reqdata => Dispatched manager reqdata ∧
      IsCommand reqdata vita4611SetChassisIdCmd ∧ 20 < (reqdata.drop 5).length
  | .pollDeviceSensors => False
  | .pollSdrs => False

/-- The whole reply follows from the settings. -/
def Settings.identifierReply (settings : Settings) : List UInt8 :=
  0x03 :: settings.chassisIdType :: settings.chassisIdField.toList

theorem run_identifier (asks : AsksIdentifier reqdata) (environment : Environment interface)
    (manager : ChassisManager) :
    ((handleChmCommand reqdata).run environment manager 0).outcome =
      .value manager.settings.identifierReply := by
  rw [run_command asks.2 asks.1]
  rfl

section Histories

variable [Libm]

/-- The last accepted Set of the history to this system came in the system `before`. -/
inductive LastSet (start : ChassisManager) (idType : UInt8) (identifier : List UInt8)
    (before : System) : System → Prop where
  | set (event : Event) {after system : System}
      (reached : Reachable System.step ⟨start, none⟩ before)
      (sets : event.SetsIdentifier before.manager idType identifier)
      (taken : before.step event = some after)
      (others : Reach System.step (fun system event => ¬∃ idType identifier,
        event.SetsIdentifier system.manager idType identifier) after system) :
      LastSet start idType identifier before system

/-- The last Set decides the reply to Get, which it starts with, and an oversized Set changes
nothing. -/
structure LastSetWins (idType : UInt8) (identifier : List UInt8) (first second : System) : Prop where
  reply : ∀ reqdata, AsksIdentifier reqdata → ∀ environment other, ∃ rest,
    ((handleChmCommand reqdata).run environment first.manager 0).outcome =
      .value (0x03 :: idType :: identifier ++ rest) ∧
    ((handleChmCommand reqdata).run other second.manager 0).outcome =
      .value (0x03 :: idType :: identifier ++ rest)
  refused : ∀ (manager : ChassisManager) (event : Event), event.Oversized manager →
    (event.run manager).state = manager

/-- An oversized identifier is refused before anything is stored. -/
theorem run_oversized {manager : ChassisManager} {event : Event}
    (oversized : event.Oversized manager) : (event.run manager).state = manager := by
  suffices met : event.operation.program.pre (fun _ _ => True)
      ⟨fun _ state => state = manager, fun _ state => state = manager,
        fun _ state => state = manager⟩ manager from
    pre_state _ event.environment manager 0 met
  rcases event with ⟨operation, environment⟩
  cases operation with
  | passthrough reqdata =>
      obtain ⟨dispatched, command, long⟩ := oversized
      rw [Operation.program, pre_bind, pre_dispatched dispatched,
        pre_command command dispatched.2.1]
      change (setChassisIdentifier reqdata).pre _ _ _
      rw [List.length_drop] at long
      rw [pre_setChassisIdentifier, if_neg (by omega), if_pos (by rw [List.length_drop]; omega)]
      rfl
  | pollDeviceSensors => exact oversized.elim
  | pollSdrs => exact oversized.elim

omit [Libm] in
/-- The identifier is at most as long as the field that keeps it. -/
theorem Event.SetsIdentifier.short {manager : ChassisManager} {event : Event}
    (sets : event.SetsIdentifier manager idType identifier) : identifier.length ≤ 20 := by
  rcases event with ⟨_ | _ | _, environment⟩
  · exact sets.2.2.2.2.2
  · exact sets.elim
  · exact sets.elim

/-- Only an accepted Set changes the reply to Get. -/
theorem identifierReply_kept {manager : ChassisManager} {event : Event}
    (other : ¬∃ idType identifier, event.SetsIdentifier manager idType identifier) :
    (event.run manager).state.settings.identifierReply = manager.settings.identifierReply := by
  by_cases policy : ∃ key mask bits, event.SetsPolicy manager key mask bits
  · obtain ⟨key, mask, bits, sets⟩ := policy
    rw [settings_policied sets]
    rfl
  · rw [settings_kept other policy]

/-- After its last Set a history replies the set bytes and what was stored behind them before. -/
theorem LastSet.reply {start : ChassisManager} {before : System}
    (last : LastSet start idType identifier before system) : identifier.length ≤ 20 ∧
      system.manager.settings.identifierReply = 0x03 :: idType :: identifier ++
        before.manager.settings.chassisIdField.toList.drop identifier.length := by
  rcases last with ⟨event, reached, sets, taken, others⟩
  refine ⟨sets.short, ?_⟩
  apply others.invariant fun system => system.manager.settings.identifierReply = _
  · rw [(step_eq_some taken).2.1, settings_identified sets]
    simp only [Settings.identifierReply, writeFront_toList _ sets.short]
    rfl
  · intro system event after kept other taken
    rw [(step_eq_some taken).2.1, identifierReply_kept other]
    exact kept

/-- Two histories with the same last Set reply the same exactly when their fields agreed behind the
identifier before it. -/
theorem lastSetWins_iff {start other : ChassisManager} {before before' first second : System}
    (firstLast : LastSet start idType identifier before first)
    (secondLast : LastSet other idType identifier before' second) :
    LastSetWins idType identifier first second ↔
      before.manager.chassisAddressTable.chassisIdField.toList.drop identifier.length =
        before'.manager.chassisAddressTable.chassisIdField.toList.drop identifier.length := by
  have replied (reqdata : List UInt8) (asks : AsksIdentifier reqdata)
      (environment : Environment interface) {start : ChassisManager} {before system : System}
      (last : LastSet start idType identifier before system) :
      ((handleChmCommand reqdata).run environment system.manager 0).outcome =
        .value (0x03 :: idType :: identifier ++
          before.manager.settings.chassisIdField.toList.drop identifier.length) := by
    rw [run_identifier asks, last.reply.2]
  constructor
  · intro wins
    have asks : AsksIdentifier [0x40, 0x2c, 0, 0x02] := ⟨by decide, by decide⟩
    have quiet : Environment interface := fun _ _ => default
    obtain ⟨rest, same, same'⟩ := wins.reply _ asks quiet quiet
    rw [replied _ asks quiet firstLast] at same
    rw [replied _ asks quiet secondLast] at same'
    have equal := same.trans same'.symm
    simpa [ChassisManager.settings] using equal
  · intro agree
    refine ⟨fun reqdata asks environment environment' => ?_, fun manager event => run_oversized⟩
    refine ⟨_, replied reqdata asks environment firstLast, ?_⟩
    rw [replied reqdata asks environment' secondLast]
    change Outcome.value (_ ++ List.drop _ before'.manager.chassisAddressTable.chassisIdField.toList)
      = Outcome.value (_ ++ List.drop _ before.manager.chassisAddressTable.chassisIdField.toList)
    rw [agree]

end Histories

section LoneModule

/-- The type byte of this Set announces an identifier of one byte. -/
def setChassisId (identifier : List UInt8) : Event :=
  ⟨.passthrough ([0x40, 0x2c, 0, 0x03, 0xC1] ++ identifier), loneModule⟩

/-- The only module's manager after one Set. -/
def namedManager (identifier : List UInt8) : ChassisManager :=
  (@Event.run silentLibm (setChassisId identifier) loneManager).state

/-- A Set to the only module's manager, or to the manager that a Set has left, is a last Set. -/
theorem lastSet_loneManager :
    @LastSet silentLibm loneManager 0xC1 [9] ⟨loneManager, none⟩ ⟨namedManager [9], none⟩ := by
  let _ := silentLibm
  refine .set (setChassisId [9]) .start ?_ (step_running (by decide +kernel)) .start
  exact ⟨⟨by decide +kernel, by decide, by decide⟩, by decide, by decide, rfl, rfl, by decide⟩

/-- The second Set has one byte, as many as its type byte says. -/
def renamedManager (identifier : List UInt8) : ChassisManager :=
  (@Event.run silentLibm (setChassisId [9]) (namedManager identifier)).state

theorem lastSet_namedManager_one : @LastSet silentLibm loneManager 0xC1 [9]
    ⟨namedManager [7], none⟩ ⟨renamedManager [7], none⟩ := by
  let _ := silentLibm
  refine .set (setChassisId [9]) (.next .start trivial (step_running (by decide +kernel)))
    ?_ (step_running (by decide +kernel)) .start
  exact ⟨⟨by decide +kernel, by decide, by decide⟩, by decide, by decide, rfl, rfl, by decide⟩

theorem lastSet_namedManager_two : @LastSet silentLibm loneManager 0xC1 [9]
    ⟨namedManager [7, 8], none⟩ ⟨renamedManager [7, 8], none⟩ := by
  let _ := silentLibm
  refine .set (setChassisId [9]) (.next .start trivial (step_running (by decide +kernel)))
    ?_ (step_running (by decide +kernel)) .start
  exact ⟨⟨by decide +kernel, by decide, by decide⟩, by decide, by decide, rfl, rfl, by decide⟩

/-- An earlier identifier of one byte leaves nothing behind. -/
theorem lastSetWins_one : @LastSetWins silentLibm 0xC1 [9]
    ⟨namedManager [9], none⟩ ⟨renamedManager [7], none⟩ := by
  apply (@lastSetWins_iff _ _ silentLibm _ _ _ _ _ _ lastSet_loneManager
    lastSet_namedManager_one).mpr
  decide +kernel

/-- An earlier identifier of two bytes leaves its second byte in the reply. -/
theorem lastSet_leaves_byte : @Started silentLibm loneManager ∧
    @LastSet silentLibm loneManager 0xC1 [9] ⟨loneManager, none⟩ ⟨namedManager [9], none⟩ ∧
    @LastSet silentLibm loneManager 0xC1 [9]
      ⟨namedManager [7, 8], none⟩ ⟨renamedManager [7, 8], none⟩ ∧
    ¬@LastSetWins silentLibm 0xC1 [9] ⟨namedManager [9], none⟩ ⟨renamedManager [7, 8], none⟩ := by
  let _ := silentLibm
  refine ⟨loneManager_started, lastSet_loneManager, lastSet_namedManager_two, fun wins => ?_⟩
  obtain ⟨rest, same, same'⟩ := wins.reply [0x40, 0x2c, 0, 0x02] ⟨by decide, by decide⟩ loneModule
    loneModule
  have equal := same.trans same'.symm
  exact absurd equal (by decide +kernel)

end LoneModule

end Chassis.Vita4611
