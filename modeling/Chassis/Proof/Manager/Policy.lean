import Chassis.Proof.Manager.Settings

namespace Chassis.Vita4611
open Effect Program Automaton

/-- A masked update of the policy bits changes exactly the bits that its mask selects. -/
def maskedUpdate (old : UInt8) (command : UInt8 × UInt8) : UInt8 :=
  (old &&& ~~~command.1) ||| (command.2 &&& command.1)

/-- The stored product is the masked update exactly when no bit outside the mask was set. -/
theorem maskedUpdate_eq_iff (old mask bits : UInt8) :
    maskedUpdate old (mask, bits) = mask &&& bits ↔ old &&& ~~~mask = 0 := by
  constructor
  · intro equal
    apply UInt8.toBitVec_inj.mp
    ext index inside
    have same := congrArg (fun byte => byte.toBitVec[index]) equal
    simp only [maskedUpdate, UInt8.toBitVec_and, UInt8.toBitVec_or, UInt8.toBitVec_not,
      BitVec.getElem_and, BitVec.getElem_or, BitVec.getElem_not] at same
    cases stored : old.toBitVec[index] <;> cases chosen : mask.toBitVec[index] <;> simp_all
  · intro clear
    rw [maskedUpdate, clear, UInt8.zero_or, UInt8.and_comm]

/-- This is a Get FRU State Policy Bits request for the device of the key. -/
def AsksPolicy (key : UInt8) (reqdata : List UInt8) : Prop :=
  5 ≤ reqdata.length ∧ IsCommand reqdata vita4611GetFruStatePolicyBitsCmd ∧
    reqdata.getD 4 0 = key

/-- Every Get FRU State Policy Bits for the key returns these bits. -/
def GetsPolicy (manager : ChassisManager) (key policy : UInt8) : Prop :=
  ∀ reqdata, AsksPolicy key reqdata → ∀ environment,
    ((handleChmCommand reqdata).run environment manager 0).outcome = .value [0x03, policy]

/-- A complete Set FRU State Policy Bits command brings its key, its mask, and its bits. -/
def Event.policySet (manager : ChassisManager) (event : Event) : Option (UInt8 × UInt8 × UInt8) :=
  match event.operation with
  | .passthrough reqdata =>
      if Dispatched manager reqdata ∧ IsCommand reqdata vita4611SetFruStatePolicyBitsCmd ∧
          7 ≤ reqdata.length then
        some (reqdata.getD 4 0, reqdata.getD 5 0, reqdata.getD 6 0)
      else none
  | .pollDeviceSensors => none
  | .pollSdrs => none

theorem Event.policySet_eq_some_iff {manager : ChassisManager} {event : Event}
    {key mask bits : UInt8} : event.policySet manager = some (key, mask, bits) ↔
      event.SetsPolicy manager key mask bits := by
  rcases event with ⟨_ | _ | _, environment⟩
  · simp only [policySet, SetsPolicy, Option.ite_none_right_eq_some, Option.some.injEq,
      Prod.mk.injEq, and_assoc]
  · simp [policySet, SetsPolicy]
  · simp [policySet, SetsPolicy]

/-- A tracked system remembers the masks and values of the Set commands to one device. -/
structure Tracked where
  system : System
  commands : List (UInt8 × UInt8)

/-- The commands of one device are kept in order. -/
def Event.commands (manager : ChassisManager) (key : UInt8) (event : Event) : List (UInt8 × UInt8) :=
  match event.policySet manager with
  | some (target, command) => if target = key then [command] else []
  | none => []

def Tracked.step [Libm] (key : UInt8) (tracked : Tracked) (event : Event) : Option Tracked :=
  (tracked.system.step event).map fun next =>
    ⟨next, tracked.commands ++ event.commands tracked.system.manager key⟩

/-- Get returns the fold of the masked updates over the device's commands so far. -/
def Tracked.Folds (key initial : UInt8) (tracked : Tracked) : Prop :=
  GetsPolicy tracked.system.manager key (tracked.commands.foldl maskedUpdate initial)

/-- A Set to the device finds no policy bit set outside its mask. -/
def Tracked.Covers (key : UInt8) (tracked : Tracked) (event : Event) : Prop :=
  ∀ mask bits, event.SetsPolicy tracked.system.manager key mask bits →
    ∀ old ∈ tracked.system.manager.settings.policies key, old &&& ~~~mask = 0

instance (key : UInt8) (tracked : Tracked) (event : Event) : Decidable (tracked.Covers key event) :=
  decidable_of_iff ((event.policySet tracked.system.manager).all (fun set =>
      decide (set.1 = key → (tracked.system.manager.settings.policies key).all
        fun old => old &&& ~~~set.2.1 = 0)) = true) (by
      simp only [Option.all_eq_true, decide_eq_true_eq]
      constructor
      · intro all mask bits sets
        exact all _ (Event.policySet_eq_some_iff.mpr sets) rfl
      · rintro covers ⟨target, mask, bits⟩ set rfl
        exact covers mask bits (Event.policySet_eq_some_iff.mp set))

section Reply

variable {manager : ChassisManager} {key policy : UInt8} {reqdata : List UInt8}

/-- The reply to Get shows the policy bits of a device, and there is none without a device. -/
theorem pre_policy (asks : AsksPolicy key reqdata) :
    (handleChmCommand reqdata).pre (fun _ _ => True)
      ⟨fun reply _ => ∀ policy, reply = [0x03, policy] ↔ manager.settings.policies key = some policy,
        fun _ _ => False, fun _ _ => manager.settings.policies key = none⟩ manager := by
  obtain ⟨long, command, rfl⟩ := asks
  rw [pre_command command (by omega)]
  change (withArgument reqdata getFruStatePolicyBits).pre _ _ _
  rw [pre_withArgument, if_neg (by omega), pre_getFruStatePolicyBits]
  have absent (none : (manager.deviceMap (reqdata.getD 4 0)).join = none) :
      manager.settings.policies (reqdata.getD 4 0) = Option.none :=
    congrArg (Option.map Vita4611Device.fruActivationPolicy) none
  refine ite_intro (fun empty policy => ?_) fun _ => ?_
  · rw [absent (by rw [deviceMap_of_empty empty]; rfl)]
    simp
  · unfold useDevice
    split
    · rename_i device present
      intro policy
      simp [ChassisManager.settings, show manager.deviceMap (reqdata[4]?.getD 0) =
        some (some device) by simpa using present]
    · rename_i present
      exact absent (by rw [present]; rfl)
    · rename_i present
      exact absent (by rw [present]; rfl)

theorem getsPolicy_iff :
    GetsPolicy manager key policy ↔ manager.settings.policies key = some policy := by
  constructor
  · intro gets
    have asks : AsksPolicy key [0x40, 0x2c, 0, 0x0B, key] := ⟨by simp, ⟨rfl, rfl⟩, rfl⟩
    have quiet : Environment interface := fun _ _ => default
    have ended := (pre_sound _ quiet manager 0 (pre_policy asks)).2
    rw [gets _ asks quiet] at ended
    exact (ended policy).mp rfl
  · intro stored reqdata asks environment
    have ended := (pre_sound _ environment manager 0 (pre_policy asks)).2
    generalize ((handleChmCommand reqdata).run environment manager 0).outcome = outcome at ended
    cases outcome with
    | value reply => exact congrArg _ ((ended policy).mpr stored)
    | thrown exception => exact ended.elim
    | fault reason => exact absurd (stored.symm.trans ended) (by simp)

end Reply

section Runs

variable [Libm] {key : UInt8} {tracked next : Tracked} {event : Event}

theorem Tracked.step_eq_some (taken : tracked.step key event = some next) :
    next.system.manager = (event.run tracked.system.manager).state ∧
      next.commands = tracked.commands ++ event.commands tracked.system.manager key := by
  obtain ⟨after, stepped, rfl⟩ := Option.map_eq_some_iff.mp taken
  exact ⟨(Vita4611.step_eq_some stepped).2.1, rfl⟩

/-- Any event but a Set to the device keeps its policy bits. -/
theorem policies_kept {manager : ChassisManager}
    (other : ¬∃ mask bits, event.SetsPolicy manager key mask bits) :
    (event.run manager).state.settings.policies key = manager.settings.policies key := by
  by_cases identifier : ∃ idType identifier, event.SetsIdentifier manager idType identifier
  · obtain ⟨idType, identifier, sets⟩ := identifier
    rw [settings_identified sets]
  · by_cases policy : ∃ target mask bits, event.SetsPolicy manager target mask bits
    · obtain ⟨target, mask, bits, sets⟩ := policy
      rw [settings_policied sets]
      apply Function.update_of_ne
      rintro rfl
      exact other ⟨mask, bits, sets⟩
    · rw [settings_kept identifier policy]

theorem policies_set {manager : ChassisManager} {mask bits : UInt8}
    (sets : event.SetsPolicy manager key mask bits) :
    (event.run manager).state.settings.policies key =
      (manager.settings.policies key).map fun _ => mask &&& bits := by
  rw [settings_policied sets]
  exact Function.update_self ..

omit [Libm] in
theorem Event.commands_set {manager : ChassisManager} {mask bits : UInt8}
    (sets : event.SetsPolicy manager key mask bits) :
    event.commands manager key = [(mask, bits)] := by
  rw [commands, Event.policySet_eq_some_iff.mpr sets]
  exact if_pos rfl

omit [Libm] in
theorem Event.commands_other {manager : ChassisManager}
    (other : ¬∃ mask bits, event.SetsPolicy manager key mask bits) :
    event.commands manager key = [] := by
  rw [commands]
  rcases set : event.policySet manager with _ | ⟨target, mask, bits⟩
  · rfl
  · apply if_neg
    rintro rfl
    exact other ⟨mask, bits, Event.policySet_eq_some_iff.mp set⟩

/-- From a state whose Get agrees with the fold, one event keeps it so exactly when it is no Set to
the device or a Set that covers the bits. -/
theorem folds_iff_covers {initial : UInt8} (folds : tracked.Folds key initial)
    (taken : tracked.step key event = some next) :
    next.Folds key initial ↔ tracked.Covers key event := by
  rw [Tracked.Folds, getsPolicy_iff] at folds
  obtain ⟨ran, commands⟩ := Tracked.step_eq_some taken
  rw [Tracked.Folds, getsPolicy_iff, ran, commands, List.foldl_append]
  generalize tracked.commands.foldl maskedUpdate initial = old at folds
  by_cases set : ∃ mask bits, event.SetsPolicy tracked.system.manager key mask bits
  · obtain ⟨mask, bits, sets⟩ := set
    rw [policies_set sets, Event.commands_set sets, folds, Option.map_some, Option.some.injEq,
      eq_comm, List.foldl_cons, List.foldl_nil, maskedUpdate_eq_iff]
    constructor
    · intro clear mask' bits' sets' stored member
      have same := (Event.policySet_eq_some_iff.mpr sets).symm.trans
        (Event.policySet_eq_some_iff.mpr sets')
      simp only [Option.some.injEq, Prod.mk.injEq, true_and] at same
      rw [folds] at member
      cases member
      rwa [← same.1]
    · intro covers
      exact covers mask bits sets old (by rw [folds]; rfl)
  · rw [policies_kept set, Event.commands_other set]
    exact iff_of_true folds fun mask bits sets => absurd ⟨mask, bits, sets⟩ set

/-- Get returns the fold throughout a run exactly when each Set to the device covers the bits that
it finds. -/
theorem policy_folds_iff {start : ChassisManager} {initial : UInt8}
    (first : GetsPolicy start key initial) (events : List Event) :
    Along (Tracked.step key) (fun _ _ next => next.Folds key initial) ⟨⟨start, none⟩, []⟩ events ↔
      Along (Tracked.step key) (fun tracked event _ => tracked.Covers key event)
        ⟨⟨start, none⟩, []⟩ events := by
  have folds : (⟨⟨start, none⟩, []⟩ : Tracked).Folds key initial := first
  exact along_iff_of_step (fun _ => True) (fun _ _ _ _ _ => trivial)
    (fun _ _ _ _ folds taken => folds_iff_covers folds taken) trivial folds events

end Runs

section LoneModule

/-- The Set goes to the device of key 1. -/
def setPolicyBits (mask bits : UInt8) : Event :=
  ⟨.passthrough [0x40, 0x2c, 0, 0x0A, 1, mask, bits], loneModule⟩

theorem getsPolicy_loneManager : GetsPolicy loneManager 1 0 :=
  getsPolicy_iff.mpr (by decide +kernel)

/-- The mask of the second Set selects the bit that the first one has set. -/
theorem policy_folds_twice : @Along _ _ (@Tracked.step silentLibm 1)
    (fun _ _ next => next.Folds 1 0) ⟨⟨loneManager, none⟩, []⟩
      [setPolicyBits 1 1, setPolicyBits 3 2] := by
  let _ := silentLibm
  apply (policy_folds_iff getsPolicy_loneManager _).mpr
  intro first taken
  have stored : first.system.manager.settings.policies 1 = some 1 := by
    rw [(Tracked.step_eq_some taken).1]
    decide +kernel
  constructor
  · change Tracked.Covers 1 ⟨⟨loneManager, none⟩, []⟩ (setPolicyBits 1 1)
    decide +kernel
  · intro second _
    refine ⟨?_, trivial⟩
    intro mask bits sets old member
    obtain ⟨_, _, _, _, rfl, _⟩ := sets
    rw [stored] at member
    cases member
    decide

/-- The second Set clears the bit that the first one has set, which its mask does not select. -/
theorem setPolicyBits_clears : @Started silentLibm loneManager ∧ GetsPolicy loneManager 1 0 ∧
    ¬@Along _ _ (@Tracked.step silentLibm 1) (fun _ _ next => next.Folds 1 0)
      ⟨⟨loneManager, none⟩, []⟩ [setPolicyBits 1 1, setPolicyBits 2 2] := by
  let _ := silentLibm
  refine ⟨loneManager_started, getsPolicy_loneManager, fun folds => ?_⟩
  have first : System.step ⟨loneManager, none⟩ (setPolicyBits 1 1) =
      some ⟨((setPolicyBits 1 1).run loneManager).state, none⟩ :=
    step_running (by decide +kernel)
  have second : System.step ⟨((setPolicyBits 1 1).run loneManager).state, none⟩
      (setPolicyBits 2 2) = some ⟨((setPolicyBits 2 2).run
        ((setPolicyBits 1 1).run loneManager).state).state, none⟩ :=
    step_running (by decide +kernel)
  have last := ((folds _ (Option.map_eq_some_iff.mpr ⟨_, first, rfl⟩)).2 _
    (Option.map_eq_some_iff.mpr ⟨_, second, rfl⟩)).1
  exact absurd (getsPolicy_iff.mp last) (by decide +kernel)

end LoneModule

end Chassis.Vita4611
