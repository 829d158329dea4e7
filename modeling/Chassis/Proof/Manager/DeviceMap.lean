import Chassis.Proof.Manager.System

namespace Chassis.Vita4611
open Effect Program Automaton

variable {manager : ChassisManager} {system after : System} {event : Event}
  {reqdata : List UInt8} {allowed : ChassisManager → Op → Prop}

theorem applyIpmbState_deviceMap (manager : ChassisManager) (ipmbAState ipmbBState : UInt8) :
    (applyIpmbState manager ipmbAState ipmbBState).deviceMap = manager.deviceMap := by
  simp only [applyIpmbState]
  split_ifs <;> rfl

/-- A command that reaches the subscript operator names a key of the map. -/
def Event.Known (system : System) (event : Event) : Prop :=
  match event.operation with
  | .passthrough reqdata => Dispatched system.manager reqdata →
      Subscripts system.manager reqdata → (system.manager.deviceMap (reqdata.getD 4 0)).isSome
  | .pollDeviceSensors => True
  | .pollSdrs => True

/-- The map kept its keys and the identities of its devices. -/
theorem devices_kept (known : event.Known system)
    (advanced : Advanced event.operation system.manager after.manager) :
    after.manager.outline.devices = system.manager.outline.devices := by
  rcases event with ⟨operation, environment⟩
  cases operation with
  | passthrough reqdata =>
      rcases advanced with same | ⟨dispatched, change⟩
      · rw [same]
      · generalize after.manager = changed at change
        cases change with
        | kept same => rw [same]
        | linked =>
            simp only [ChassisManager.outline, applyIpmbState_deviceMap]
        | inserted looked absent =>
            have present := known dispatched looked
            rw [absent] at present
            cases present
  | pollDeviceSensors => exact congrArg Outline.devices advanced
  | pollSdrs => exact congrArg Outline.devices advanced

section Insertion

/-- An insertion leaves a null pointer under the key that the request names. -/
abbrev Inserts {Value : Type} (manager : ChassisManager) (reqdata : List UInt8)
    (program : Program interface ChassisManager Value) : Prop :=
  program.pre (fun _ _ => True)
    ⟨fun _ state => state = manager.setDevice (reqdata.getD 4 0) none,
      fun _ state => state = manager.setDevice (reqdata.getD 4 0) none,
      fun _ state => state = manager.setDevice (reqdata.getD 4 0) none⟩ manager

theorem touch_absent (absent : manager.deviceMap (reqdata.getD 4 0) = none) :
    manager.touch (reqdata.getD 4 0) = manager.setDevice (reqdata.getD 4 0) none := by
  simp only [ChassisManager.touch, absent]

theorem useDevice_absent {use : Vita4611Device → Prop} {fault : Fault → ChassisManager → Prop}
    (absent : manager.deviceMap (reqdata.getD 4 0) = none)
    (faulted : fault .nullDevice (manager.setDevice (reqdata.getD 4 0) none)) :
    useDevice manager (reqdata.getD 4 0) use fault := by
  simp only [useDevice, absent, faulted]

theorem fruControl_inserts (long : 6 ≤ reqdata.length)
    (absent : manager.deviceMap (reqdata.getD 4 0) = none) :
    Inserts manager reqdata (fruControl reqdata) := by
  rw [Inserts, pre_fruControl, if_neg (by omega), if_neg (by omega), touch_absent absent]
  exact ite_intro (fun _ => ⟨fun _ => trivial, rfl⟩) fun _ => ite_intro (fun _ => rfl) fun _ => rfl

theorem setFruStatePolicyBits_inserts (filled : manager.deviceMapEmpty = false)
    (long : 7 ≤ reqdata.length) (absent : manager.deviceMap (reqdata.getD 4 0) = none) :
    Inserts manager reqdata (setFruStatePolicyBits reqdata) := by
  rw [Inserts, pre_setFruStatePolicyBits, if_neg (by omega), if_neg (by simp [filled])]
  exact useDevice_absent absent rfl

theorem getFruStatePolicyBits_inserts (filled : manager.deviceMapEmpty = false)
    (long : 5 ≤ reqdata.length) (absent : manager.deviceMap (reqdata.getD 4 0) = none) :
    Inserts manager reqdata (withArgument reqdata getFruStatePolicyBits) := by
  rw [Inserts, pre_withArgument, if_neg (by omega), pre_getFruStatePolicyBits,
    if_neg (by simp [filled])]
  exact useDevice_absent absent rfl

theorem setFruActivation_inserts (filled : manager.deviceMapEmpty = false)
    (long : 6 ≤ reqdata.length) (absent : manager.deviceMap (reqdata.getD 4 0) = none) :
    Inserts manager reqdata (setFruActivation reqdata) := by
  rw [Inserts, pre_setFruActivation, if_neg (by omega), if_neg (by simp [filled]),
    touch_absent absent]
  exact ite_intro (fun _ => useDevice_absent absent rfl) fun _ => rfl

theorem getDeviceLocatorRecordId_inserts (filled : manager.deviceMapEmpty = false)
    (long : 5 ≤ reqdata.length) (absent : manager.deviceMap (reqdata.getD 4 0) = none) :
    Inserts manager reqdata (getDeviceLocatorRecordId reqdata) := by
  rw [Inserts, pre_getDeviceLocatorRecordId, if_neg (by omega), if_neg (by simp [filled])]
  exact useDevice_absent absent rfl

/-- Each of the six commands fills an absent key with a null pointer. -/
theorem handleChmCommand_inserts (looked : Subscripts manager reqdata)
    (absent : manager.deviceMap (reqdata.getD 4 0) = none) :
    Inserts manager reqdata (handleChmCommand reqdata) := by
  have admitted : 4 ≤ reqdata.length := by
    rcases looked with ⟨_, long⟩ | ⟨_, ⟨_, long⟩ | ⟨_, long⟩ | ⟨_, long⟩ | ⟨_, long⟩ | ⟨_, long⟩⟩ <;>
      omega
  rw [Inserts]
  rcases looked with ⟨command, long⟩ | ⟨filled, ⟨command, long⟩ | ⟨command, long⟩ |
    ⟨command, long⟩ | ⟨command, long⟩ | ⟨command, long⟩⟩
  all_goals rw [pre_command command admitted]
  · exact fruControl_inserts long absent
  · exact setFruStatePolicyBits_inserts filled long absent
  · exact getFruStatePolicyBits_inserts filled long absent
  · exact setFruActivation_inserts filled long absent
  · exact getDeviceLocatorRecordId_inserts filled long absent
  · exact getDeviceLocatorRecordId_inserts filled long absent

theorem executePassthroughCmd_inserts (dispatched : Dispatched manager reqdata)
    (looked : Subscripts manager reqdata)
    (absent : manager.deviceMap (reqdata.getD 4 0) = none) :
    Inserts manager reqdata (executePassthroughCmd reqdata) := by
  rw [Inserts, pre_dispatched dispatched]
  exact handleChmCommand_inserts looked absent

/-- A command that breaks the condition gives the map a new key. -/
theorem unknown_inserts [Libm] {environment : Environment interface}
    (dispatched : Dispatched manager reqdata) (looked : Subscripts manager reqdata)
    (absent : manager.deviceMap (reqdata.getD 4 0) = none) :
    (Event.run ⟨.passthrough reqdata, environment⟩ manager).state =
      manager.setDevice (reqdata.getD 4 0) none := by
  have inserts : Inserts manager reqdata (Operation.passthrough reqdata).program := by
    rw [Operation.program, Inserts, pre_bind]
    exact executePassthroughCmd_inserts dispatched looked absent
  exact pre_state _ environment manager 0 inserts

end Insertion

section Runs

variable [Libm] {start : ChassisManager}

/-- The keys and the identities stay those of the enumeration. -/
theorem reach_devices (reach : Reach System.step (fun system event => event.Known system)
    ⟨start, none⟩ system) : system.manager.outline.devices = start.outline.devices :=
  reach.invariant (fun system => system.manager.outline.devices = start.outline.devices) rfl
    fun _ _ _ kept known taken => (devices_kept known (step_advanced taken)).trans kept

/-- A poll of a map without null pointers dereferences none. -/
theorem poll_not_null (owned : manager.outline.Owned) {operation : Operation}
    (poll : operation = .pollDeviceSensors ∨ operation = .pollSdrs)
    (environment : Environment interface) :
    (Event.run ⟨operation, environment⟩ manager).outcome ≠ .fault .nullDevice := by
  intro null
  have ended := (pre_sound _ environment manager 0 (program_advances operation)).2
  change Post.holds _ (Event.run ⟨operation, environment⟩ manager).outcome _ at ended
  rw [null] at ended
  rcases poll with rfl | rfl
  · exact ended.2 rfl owned
  · exact ended.2 rfl owned

/-- Commands that name only keys of the map at the subscript operator keep the map's keys and leave
no null pointer to a poll, and any other command adds a key. -/
theorem deviceMap_owned (started : Started start)
    (reach : Reach System.step (fun system event => event.Known system) ⟨start, none⟩ system) :
    (∀ key, (system.manager.deviceMap key).isSome = (start.deviceMap key).isSome) ∧
      (∀ key, system.manager.deviceMap key ≠ some none) ∧
      (∀ environment,
        (Event.run ⟨.pollDeviceSensors, environment⟩ system.manager).outcome ≠ .fault .nullDevice ∧
        (Event.run ⟨.pollSdrs, environment⟩ system.manager).outcome ≠ .fault .nullDevice) ∧
      ∀ event after, system.step event = some after →
        ((∀ key, (after.manager.deviceMap key).isSome = (start.deviceMap key).isSome) ↔
          event.Known system) := by
  have devices := reach_devices reach
  have keys (key : UInt8) : (system.manager.deviceMap key).isSome = (start.deviceMap key).isSome := by
    rw [← isSome_outline, devices, isSome_outline]
  have owned : system.manager.outline.Owned := by
    intro key
    rw [devices]
    exact (started_fresh started).2.2.owned key
  refine ⟨keys, (outline_owned_iff _).mp owned, fun environment =>
    ⟨poll_not_null owned (.inl rfl) environment, poll_not_null owned (.inr rfl) environment⟩, ?_⟩
  intro event after taken
  constructor
  · intro same
    rcases event with ⟨operation, environment⟩
    cases operation with
    | passthrough reqdata =>
        intro dispatched looked
        by_contra missing
        have absent : system.manager.deviceMap (reqdata.getD 4 0) = none := by simpa using missing
        have key := same (reqdata.getD 4 0)
        rw [(step_eq_some taken).2.1, unknown_inserts dispatched looked absent, ← keys, absent] at key
        simp [ChassisManager.setDevice] at key
    | pollDeviceSensors => trivial
    | pollSdrs => trivial
  · intro known key
    rw [← isSome_outline, devices_kept known (step_advanced taken), isSome_outline]
    exact keys key

end Runs

/-- A FRU Control for the known key 1 and a poll stay within the condition. -/
theorem deviceMap_owned_loneManager :
    ∃ system, @Reach _ _ (@System.step silentLibm) (fun system event => event.Known system)
        ⟨loneManager, none⟩ system ∧ system.ending = none ∧
      (∀ key, (system.manager.deviceMap key).isSome = (loneManager.deviceMap key).isSome) ∧
      ∀ key, system.manager.deviceMap key ≠ some none := by
  let _ := silentLibm
  let control : Event := ⟨.passthrough [0x40, 0x2c, 0, 0x04, 1, 0], loneModule⟩
  let poll : Event := ⟨.pollDeviceSensors, loneModule⟩
  have known : control.Known ⟨loneManager, none⟩ := fun _ _ => by decide +kernel
  have idle : poll.Known ⟨(control.run loneManager).state, none⟩ := trivial
  have reach := Reach.next (Reach.next .start known (step_running (by decide +kernel)))
    idle (step_running (by decide +kernel))
  have kept := deviceMap_owned loneManager_started reach
  exact ⟨_, reach, rfl, kept.1, kept.2.1⟩

/-- A FRU Control for the unknown key 9 inserts a null pointer that the next poll dereferences. -/
theorem fruControl_inserts_null :
    ∃ start, @Started silentLibm start ∧ start.deviceMap 9 = none ∧
      ∃ system, @Reachable _ _ (@System.step silentLibm) ⟨start, none⟩ system ∧
        system.ending = none ∧ system.manager.deviceMap 9 = some none ∧
        (@Event.run silentLibm ⟨.pollDeviceSensors, loneModule⟩ system.manager).outcome =
          .fault .nullDevice := by
  let _ := silentLibm
  let control : Event := ⟨.passthrough [0x40, 0x2c, 0, 0x04, 9, 0], loneModule⟩
  exact ⟨loneManager, loneManager_started, by decide +kernel,
    ⟨(control.run loneManager).state, none⟩,
    .next .start trivial (step_running (by decide +kernel)), rfl, by decide +kernel,
    by decide +kernel⟩

end Chassis.Vita4611
