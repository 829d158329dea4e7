import Chassis.Proof.Manager.DeviceMap

namespace Chassis.Vita4611
open Effect Program Automaton

variable {manager : ChassisManager} {system after : System} {event : Event}
  {reqdata : List UInt8} {start : ChassisManager}

/-- Both enable flags are zero or one. -/
def Outline.Binary (outline : Outline) : Prop :=
  (outline.linkA = 0 ∨ outline.linkA = 1) ∧ (outline.linkB = 0 ∨ outline.linkB = 1)

/-- The byte turns the link on, or keeps it on with `0xFF`. -/
def TurnsOn (ipmbState enable : UInt8) : Prop :=
  if ipmbState = 0xFF then enable = 1 else ipmbState % 2 = 1

theorem byte_parity (byte : UInt8) : byte % 2 = 0 ∨ byte % 2 = 1 := by
  refine (Nat.mod_two_eq_zero_or_one byte.toNat).imp (fun even => ?_) fun odd => ?_
  · exact UInt8.toNat_inj.mp (by simpa using even)
  · exact UInt8.toNat_inj.mp (by simpa using odd)

theorem applyIpmbState_linkA (ipmbAState ipmbBState : UInt8) :
    (applyIpmbState manager ipmbAState ipmbBState).mIpmbAEnable =
      if ipmbAState = 0xFF then manager.mIpmbAEnable else ipmbAState % 2 := by
  simp only [applyIpmbState]
  rcases byte_parity ipmbAState with even | odd
  · split_ifs <;> simp_all
  · split_ifs <;> simp_all

theorem applyIpmbState_linkB (ipmbAState ipmbBState : UInt8) :
    (applyIpmbState manager ipmbAState ipmbBState).mIpmbBEnable =
      if ipmbBState = 0xFF then manager.mIpmbBEnable else ipmbBState % 2 := by
  simp only [applyIpmbState]
  rcases byte_parity ipmbBState with even | odd
  · split_ifs <;> simp_all
  · split_ifs <;> simp_all

theorem applyIpmbState_binary (binary : manager.outline.Binary) (ipmbAState ipmbBState : UInt8) :
    (applyIpmbState manager ipmbAState ipmbBState).outline.Binary := by
  constructor
  · simp only [ChassisManager.outline, applyIpmbState_linkA]
    split
    · exact binary.1
    · exact byte_parity ipmbAState
  · simp only [ChassisManager.outline, applyIpmbState_linkB]
    split
    · exact binary.2
    · exact byte_parity ipmbBState

theorem advanced_binary {operation : Operation} {next : ChassisManager}
    (binary : manager.outline.Binary) (advanced : Advanced operation manager next) :
    next.outline.Binary := by
  cases operation with
  | passthrough reqdata =>
      rcases advanced with same | ⟨_, change⟩
      · rwa [same]
      · cases change with
        | kept same => rwa [same]
        | linked => exact applyIpmbState_binary binary _ _
        | inserted => exact binary
  | pollDeviceSensors => rwa [show next.outline = manager.outline from advanced]
  | pollSdrs => rwa [show next.outline = manager.outline from advanced]

theorem advanced_plain {operation : Operation} {next : ChassisManager}
    (plain : manager.outline.Plain) (advanced : Advanced operation manager next) :
    next.outline.Plain := by
  cases operation with
  | passthrough reqdata =>
      rcases advanced with same | ⟨_, change⟩
      · rwa [same]
      · cases change with
        | kept same => rwa [same]
        | linked => simpa only [Outline.Plain, ChassisManager.outline, applyIpmbState_deviceMap]
            using plain
        | inserted looked absent =>
            intro key identity present
            rw [ChassisManager.outline_setDevice] at present
            change Function.update manager.outline.devices (reqdata.getD 4 0) _ key = _ at present
            by_cases same : key = reqdata.getD 4 0
            · simp [same] at present
            · exact plain key identity (by rwa [Function.update_of_ne same] at present)
  | pollDeviceSensors => rwa [show next.outline = manager.outline from advanced]
  | pollSdrs => rwa [show next.outline = manager.outline from advanced]

theorem reachable_binary [Libm] (started : Started start)
    (reachable : Reachable System.step ⟨start, none⟩ system) : system.manager.outline.Binary :=
  reachable.invariant (fun system => system.manager.outline.Binary)
    ⟨.inr (started_fresh started).1, .inr (started_fresh started).2.1⟩
    fun _ _ _ binary _ taken => advanced_binary binary (step_advanced taken)

theorem reachable_plain [Libm] (started : Started start)
    (reachable : Reachable System.step ⟨start, none⟩ system) : system.manager.outline.Plain :=
  reachable.invariant (fun system => system.manager.outline.Plain)
    (started_fresh started).2.2.plain
    fun _ _ _ plain _ taken => advanced_plain plain (step_advanced taken)

theorem channel_open_iff (binary : manager.outline.Binary) :
    manager.channel ≠ none ↔ manager.mIpmbAEnable = 1 ∨ manager.mIpmbBEnable = 1 := by
  rcases binary with ⟨linkA, linkB⟩
  change (manager.mIpmbAEnable = 0 ∨ manager.mIpmbAEnable = 1) at linkA
  rcases linkA with off | on
  · simp [ChassisManager.channel, selectChannel, off]
  · simp [ChassisManager.channel, selectChannel, on]

section Recovery

/-- The request is a Set IPMB State command whose first link byte enables link A. -/
def Recovery (reqdata : List UInt8) : Prop :=
  reqdata.getD 0 0 = chmcIpmiAddress ∧ IsCommand reqdata vita4611SetIpmbStateCmd ∧
    6 ≤ reqdata.length ∧ reqdata.getD 4 0 % 2 = 1 ∧ reqdata.getD 4 0 ≠ 0xFF

/-- Every such request reaches its handler, turns link A on, and opens channel 0. -/
def Recovers (manager : ChassisManager) : Prop :=
  ∀ reqdata, Recovery reqdata → ∀ environment : Environment interface,
    let run := (executePassthroughCmd reqdata).run environment manager 0
    run.outcome = .value (responseSuccess [0x03]) ∧
      run.state = applyIpmbState manager (reqdata.getD 4 0) (reqdata.getD 5 0) ∧
      run.state.mIpmbAEnable = 1 ∧ run.state.channel = some 0

theorem pre_recovery (opened : manager.channel ≠ none) (recovery : Recovery reqdata) :
    (executePassthroughCmd reqdata).pre (fun _ _ => True)
      (Post.returns fun answer state => answer = responseSuccess [0x03] ∧
        state = applyIpmbState manager (reqdata.getD 4 0) (reqdata.getD 5 0)) manager := by
  rcases recovery with ⟨own, command, long, _⟩
  rw [pre_dispatched ⟨opened, by omega, own⟩, pre_command command (by omega)]
  change (setIpmbState reqdata).pre _ _ manager
  rw [pre_setIpmbState, if_neg (by omega)]
  exact ⟨rfl, rfl⟩

theorem recovers_of_open (opened : manager.channel ≠ none) : Recovers manager := by
  intro reqdata recovery environment
  have ended := (pre_sound _ environment manager 0 (pre_recovery opened recovery)).2
  rcases recovery with ⟨_, _, _, odd, notKept⟩
  have linkA : (applyIpmbState manager (reqdata.getD 4 0) (reqdata.getD 5 0)).mIpmbAEnable = 1 := by
    rw [applyIpmbState_linkA, if_neg notKept, odd]
  have channel : (applyIpmbState manager (reqdata.getD 4 0) (reqdata.getD 5 0)).channel = some 0 := by
    simp only [ChassisManager.channel, selectChannel, linkA, if_true]
  generalize (executePassthroughCmd reqdata).run environment manager 0 = run at ended ⊢
  rcases run with ⟨_ | _ | _, state, calls⟩
  · rcases ended with ⟨rfl, rfl⟩
    exact ⟨rfl, rfl, linkA, channel⟩
  · exact ended.elim
  · exact ended.elim

/-- The closed gate answers before the request is classified. -/
theorem open_of_recovers (recovers : Recovers manager) : manager.channel ≠ none := by
  intro closed
  have answered := (recovers [0x40, 0x2c, 0, 0x09, 1, 0] ⟨rfl, ⟨rfl, rfl⟩, by decide, by decide,
    by decide⟩ fun _ op => (default : Op.Answer op)).1
  have refused : (executePassthroughCmd [0x40, 0x2c, 0, 0x09, 1, 0]).pre (fun _ _ => True)
      (Post.returns fun answer _ => answer = responseIllegalCommand) manager := by
    rw [pre_executePassthroughCmd, closed]
    exact rfl
  have ended := (pre_sound _ (fun _ op => (default : Op.Answer op)) manager 0 refused).2
  rw [answered] at ended
  cases ended

/-- A Set IPMB State command that reaches its handler leaves one of the links on. -/
def Event.KeepsLink (system : System) (event : Event) : Prop :=
  match event.operation with
  | .passthrough reqdata => Dispatched system.manager reqdata →
      IsCommand reqdata vita4611SetIpmbStateCmd → 6 ≤ reqdata.length →
      TurnsOn (reqdata.getD 4 0) system.manager.mIpmbAEnable ∨
        TurnsOn (reqdata.getD 5 0) system.manager.mIpmbBEnable
  | .pollDeviceSensors => True
  | .pollSdrs => True

theorem turnsOn_linkA {ipmbAState ipmbBState : UInt8}
    (on : TurnsOn ipmbAState manager.mIpmbAEnable) :
    (applyIpmbState manager ipmbAState ipmbBState).mIpmbAEnable = 1 := by
  rw [applyIpmbState_linkA]
  unfold TurnsOn at on
  split_ifs at on ⊢ <;> exact on

theorem turnsOn_linkB {ipmbAState ipmbBState : UInt8}
    (on : TurnsOn ipmbBState manager.mIpmbBEnable) :
    (applyIpmbState manager ipmbAState ipmbBState).mIpmbBEnable = 1 := by
  rw [applyIpmbState_linkB]
  unfold TurnsOn at on
  split_ifs at on ⊢ <;> exact on

/-- One of the links is on. -/
def Outline.Lit (outline : Outline) : Prop := outline.linkA = 1 ∨ outline.linkB = 1

theorem advanced_lit (lit : system.manager.outline.Lit) (keeps : event.KeepsLink system)
    (advanced : Advanced event.operation system.manager after.manager) :
    after.manager.outline.Lit := by
  rcases event with ⟨operation, environment⟩
  cases operation with
  | passthrough reqdata =>
      rcases advanced with same | ⟨dispatched, change⟩
      · rwa [same]
      · generalize after.manager = changed at change ⊢
        cases change with
        | kept same => rwa [same]
        | linked command long =>
            exact (keeps dispatched command long).imp turnsOn_linkA turnsOn_linkB
        | inserted => exact lit
  | pollDeviceSensors => rwa [show after.manager.outline = system.manager.outline from advanced]
  | pollSdrs => rwa [show after.manager.outline = system.manager.outline from advanced]

/-- A history whose Set IPMB State commands always leave a link on can be recovered from, and a
reachable state can be recovered from exactly when one of its links is on. -/
theorem setIpmbState_recovers [Libm] (started : Started start)
    (reachable : Reachable System.step ⟨start, none⟩ system) :
    (Reach System.step (fun system event => event.KeepsLink system) ⟨start, none⟩ system →
        Recovers system.manager) ∧
      (Recovers system.manager ↔
        system.manager.mIpmbAEnable = 1 ∨ system.manager.mIpmbBEnable = 1) := by
  have binary := reachable_binary started reachable
  refine ⟨fun reach => recovers_of_open ((channel_open_iff binary).mpr ?_),
    fun recovers => (channel_open_iff binary).mp (open_of_recovers recovers),
    fun lit => recovers_of_open ((channel_open_iff binary).mpr lit)⟩
  exact reach.invariant (fun system => system.manager.outline.Lit)
    (.inl (started_fresh started).1)
    fun _ _ _ lit keeps taken => advanced_lit lit keeps (step_advanced taken)

/-- The manager of one module after link A was turned off. -/
def linkOffManager : ChassisManager :=
  (@Event.run silentLibm ⟨.passthrough [0x40, 0x2c, 0, 0x09, 0, 1], loneModule⟩ loneManager).state

theorem linkOffManager_reachable :
    @Reachable _ _ (@System.step silentLibm) ⟨loneManager, none⟩ ⟨linkOffManager, none⟩ :=
  .next .start trivial (@step_running _ _ silentLibm (by decide +kernel))

/-- Link A is off and link B is on when the recovery request arrives. -/
theorem setIpmbState_recovers_linkOff :
    linkOffManager.mIpmbAEnable = 0 ∧ Recovers linkOffManager := by
  have recovers := (@setIpmbState_recovers _ _ silentLibm loneManager_started
    linkOffManager_reachable).2
  dsimp only at recovers
  exact ⟨by decide +kernel, recovers.mpr (.inr (by decide +kernel))⟩

/-- After both links are turned off the gate refuses the request that enables link A. -/
theorem setIpmbState_locks_out :
    ∃ start, @Started silentLibm start ∧
      ∃ system, @Reachable _ _ (@System.step silentLibm) ⟨start, none⟩ system ∧
        system.ending = none ∧ Recovery [0x40, 0x2c, 0, 0x09, 1, 1] ∧
        ((executePassthroughCmd [0x40, 0x2c, 0, 0x09, 1, 1]).run loneModule system.manager
          0).outcome = .value responseIllegalCommand ∧
        ((executePassthroughCmd [0x40, 0x2c, 0, 0x09, 1, 1]).run loneModule system.manager
          0).state.mIpmbAEnable = 0 := by
  let _ := silentLibm
  let bothOff : Event := ⟨.passthrough [0x40, 0x2c, 0, 0x09, 0, 0], loneModule⟩
  exact ⟨loneManager, loneManager_started, ⟨(bothOff.run loneManager).state, none⟩,
    .next .start trivial (step_running (by decide +kernel)), rfl,
    ⟨rfl, ⟨rfl, rfl⟩, by decide, by decide, by decide⟩, by decide +kernel, by decide +kernel⟩

end Recovery

end Chassis.Vita4611
