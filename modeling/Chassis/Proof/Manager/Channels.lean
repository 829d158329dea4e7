import Chassis.Proof.Manager.Links

namespace Chassis.Vita4611
open Effect Program Automaton

variable {manager : ChassisManager} {system : System} {reqdata : List UInt8}
  {start : ChassisManager}

/-- A request is sent on no link whose flag is off at that moment. -/
def Respects (state : ChassisManager) (op : Op) : Prop :=
  ∀ arguments, op = .sendRequest arguments →
    (state.mIpmbAEnable = 0 → arguments.reqChannel ≠ 0) ∧
      (state.mIpmbBEnable = 0 → arguments.reqChannel ≠ 4)

/-- A poll reaches the devices before the first null pointer. -/
def ChassisManager.polled (manager : ChassisManager) : List UInt8 → List Vita4611Device
  | [] => []
  | key :: rest =>
      match manager.deviceMap key with
      | none => manager.polled rest
      | some none => []
      | some (some device) => device :: manager.polled rest

/-- While link A is off no operation reaches a place that sends on the fixed channel 0. -/
def Spares (manager : ChassisManager) (operation : Operation) : Prop :=
  manager.mIpmbAEnable = 0 →
    match operation with
    | .passthrough reqdata => ¬(Dispatched manager reqdata ∧ SendsFixed manager reqdata)
    | .pollDeviceSensors => ∀ device ∈ manager.polled allKeys, device.fruinfo.sensors = []
    | .pollSdrs => ∀ device ∈ manager.polled allKeys, device.dynamicSensors ≠ 1

theorem respects_zero {arguments : Ipmb.SendRequest} (on : manager.mIpmbAEnable ≠ 0)
    (zero : arguments.reqChannel = 0) : Respects manager (.sendRequest arguments) := by
  rintro _ ⟨⟩
  refine ⟨fun off => absurd off on, fun _ => ?_⟩
  rw [zero]
  decide

theorem not_respects {arguments : Ipmb.SendRequest} (off : manager.mIpmbAEnable = 0)
    (zero : arguments.reqChannel = 0) : ¬Respects manager (.sendRequest arguments) :=
  fun respects => (respects arguments rfl).1 off zero

theorem channel_respects {ch : UInt8} (selected : manager.channel = some ch) :
    (manager.mIpmbAEnable = 0 → ch ≠ 0) ∧ (manager.mIpmbBEnable = 0 → ch ≠ 4) := by
  simp only [ChassisManager.channel, selectChannel] at selected
  split_ifs at selected with linkA links
  · cases selected
    simp [linkA]
  · cases selected
    simp [links.2]

section Passthrough

theorem respects_of_outline {state : ChassisManager} (same : state.outline = manager.outline)
    {op : Op} (respects : Respects manager op) : Respects state op := by
  intro arguments sent
  have linkA : state.mIpmbAEnable = manager.mIpmbAEnable := congrArg Outline.linkA same
  have linkB : state.mIpmbBEnable = manager.mIpmbBEnable := congrArg Outline.linkB same
  rw [linkA, linkB]
  exact respects arguments sent

theorem passthrough_respects (spares : Spares manager (.passthrough reqdata)) {state : ChassisManager}
    {op : Op} (call : PassthroughCall reqdata manager state op) : Respects state op := by
  apply respects_of_outline call.1
  intro arguments sent
  rcases call.2 arguments sent with selected | ⟨dispatched, sends, zero⟩
  · exact channel_respects selected
  · refine ⟨fun off => absurd ⟨dispatched, sends⟩ (spares off), fun _ => ?_⟩
    rw [zero]
    decide

/-- Only a key of type 0 or 1 can own a device here. -/
theorem keyed_owned {addrKeyType addrKey : UInt8}
    (found : (manager.keyed addrKeyType addrKey).join.isSome) :
    (addrKeyType = 0 ∨ addrKeyType = 1) ∧
      ∃ device, manager.keyed addrKeyType addrKey = some (some device) := by
  refine ⟨?_, ?_⟩
  · unfold ChassisManager.keyed at found
    split_ifs at found with hardware ipmb
    · exact .inl hardware
    · exact .inr ipmb
    · cases found
  · generalize manager.keyed addrKeyType addrKey = keyed at found
    rcases keyed with _ | (_ | device)
    · cases found
    · cases found
    · exact ⟨device, rfl⟩

theorem spares_passthrough (respects : (executePassthroughCmd reqdata).pre Respects .any
    manager) : Spares manager (.passthrough reqdata) := by
  rintro off ⟨dispatched, sends⟩
  rw [pre_dispatched dispatched] at respects
  rcases sends with ⟨command, long, control, owned⟩ | ⟨command, long, filled, fru, found⟩
  · rw [pre_command command (by omega)] at respects
    change (fruControl reqdata).pre _ _ manager at respects
    rw [pre_fruControl, if_neg (by omega), if_neg (by omega), if_pos control] at respects
    exact not_respects off rfl (respects.1 owned)
  · rw [pre_command command (by omega)] at respects
    change (getAddTable reqdata).pre _ _ manager at respects
    rcases keyed_owned found with ⟨typed, device, owned⟩
    have admitted : ¬(reqdata.getD 5 0 > 3 ∨ reqdata.getD 5 0 = 2 ∨
        manager.chassisAddressTable.entries = []) := by
      rcases typed with zero | one
      · rw [zero]
        simp [filled]
      · rw [one]
        simp [filled]
    have addressed : ¬(reqdata.getD 5 0 = 3 ∧ reqdata.getD 7 0 = 0) := by
      rcases typed with zero | one
      · rw [zero]
        simp
      · rw [one]
        simp
    rw [pre_getAddTable, if_neg (by omega), if_neg admitted, if_neg addressed, owned] at respects
    simp only [useFound, if_pos fru] at respects
    exact not_respects off rfl respects.1

end Passthrough

section Polls

variable {program : Program interface Vita4611Device Unit} {quiet : Vita4611Device → Prop}

/-- A device program is silent on a quiet device and starts with a request on channel 0 on any
other. -/
structure Silenced (program : Program interface Vita4611Device Unit)
    (quiet : Vita4611Device → Prop) : Prop where
  silent : ∀ (allowed : Vita4611Device → Op → Prop) (post : Post interface Vita4611Device Unit)
    (device : Vita4611Device), quiet device →
    program.pre allowed post device = post.value () device
  speaks : ∀ (allowed : Vita4611Device → Op → Prop) (post : Post interface Vita4611Device Unit)
    (device : Vita4611Device), ¬quiet device → program.pre allowed post device →
    ∃ arguments : Ipmb.SendRequest, arguments.reqChannel = 0 ∧
      allowed device (.sendRequest arguments)

/-- While link A is off a poll respects the links exactly when every device it reaches is quiet. -/
theorem poll_respects_iff (silenced : Silenced program quiet) (off : manager.mIpmbAEnable = 0)
    (keys : List UInt8) :
    (forEach (onDevice program) keys).pre Respects .any manager ↔
      ∀ device ∈ manager.polled keys, quiet device := by
  induction keys with
  | nil => simp [forEach, ChassisManager.polled, Post.any]
  | cons key rest ih =>
      rw [forEach, pre_then, pre_onDevice, ChassisManager.polled]
      rcases present : manager.deviceMap key with _ | (_ | device)
      · exact ih
      · simp [Post.any]
      · by_cases still : quiet device
        · simp only [silenced.silent _ _ device still, ChassisManager.setDevice_self present,
            List.forall_mem_cons, still, true_and]
          exact ih
        · refine ⟨fun respects => ?_, fun all => absurd (all device List.mem_cons_self) still⟩
          rcases silenced.speaks _ _ device still respects with ⟨arguments, zero, sent⟩
          rw [ChassisManager.setDevice_self present] at sent
          exact absurd sent (not_respects off zero)

theorem getAllSensorReadings_silenced [Libm] :
    Silenced Vita4611Device.getAllSensorReadings fun device => device.fruinfo.sensors = [] where
  silent allowed post device quiet := by
    simp only [Vita4611Device.getAllSensorReadings, pre_bind, pre_read, quiet]
    rfl
  speaks allowed post device noisy holds := by
    rcases List.exists_cons_of_ne_nil noisy with ⟨sensor, sensors, nonempty⟩
    rw [Vita4611Device.getAllSensorReadings, pre_bind, pre_read] at holds
    simp only [nonempty, List.length_cons, List.range_succ_eq_map, forEach, pre_then,
      Vita4611Device.getSensorReading, pre_bind, pre_read, List.getElem?_cons_zero,
      pre_sendIpmbRequest] at holds
    exact ⟨_, rfl, holds.1⟩

theorem checkSdrInfo_silenced [Libm] :
    Silenced (do
      let device ← Program.read
      if device.dynamicSensors = 1 then Vita4611Device.checkSdrInfo else Pure.pure ())
      fun device => device.dynamicSensors ≠ 1 where
  silent allowed post device quiet := by
    simp only [pre_bind, pre_read, if_neg quiet, pre_pure]
  speaks allowed post device noisy holds := by
    rw [ne_eq, not_not] at noisy
    simp only [pre_bind, pre_read, if_pos noisy, Vita4611Device.checkSdrInfo,
      pre_sendIpmbRequest] at holds
    exact ⟨_, rfl, holds.1⟩

/-- While link A is on a poll of plain devices uses channel 0 only. -/
theorem tended_respects {program : Program interface ChassisManager Unit}
    (tended : Tended manager.outline program) (plain : manager.outline.Plain)
    (on : manager.mIpmbAEnable ≠ 0) : program.pre Respects .any manager := by
  refine pre_mono (tended manager rfl) ?_ (fun _ _ _ => trivial) (fun _ _ _ => trivial)
    (fun _ _ _ => trivial)
  rintro state op ⟨same, call⟩
  apply respects_of_outline same
  intro arguments sent
  have zero : arguments.reqChannel = 0 := by
    rcases call arguments sent with zero | ⟨key, identity, present, own⟩
    · exact zero
    · rw [own]
      exact (plain key identity present).1
  exact respects_zero on zero arguments rfl

end Polls

/-- An operation respects the links under every environment exactly when it spares them. -/
theorem pre_respects_iff [Libm] (plain : manager.outline.Plain) (operation : Operation) :
    operation.program.pre Respects .any manager ↔ Spares manager operation := by
  cases operation with
  | passthrough reqdata =>
      rw [Operation.program, pre_bind]
      refine ⟨spares_passthrough, fun spares => ?_⟩
      exact pre_mono executePassthroughCmd_passes (fun _ _ => passthrough_respects spares)
        (fun _ _ _ => trivial) (fun _ _ never => never.elim) (fun _ _ _ => trivial)
  | pollDeviceSensors =>
      rw [Operation.program, pre_bind]
      by_cases off : manager.mIpmbAEnable = 0
      · exact (poll_respects_iff getAllSensorReadings_silenced off allKeys).trans
          ⟨fun quiet _ => quiet, fun spares => spares off⟩
      · exact ⟨fun _ on => absurd on off, fun _ => tended_respects pollDeviceSensors_tended plain off⟩
  | pollSdrs =>
      rw [Operation.program, pre_bind]
      by_cases off : manager.mIpmbAEnable = 0
      · exact (poll_respects_iff checkSdrInfo_silenced off allKeys).trans
          ⟨fun quiet _ => quiet, fun spares => spares off⟩
      · exact ⟨fun _ on => absurd on off, fun _ => tended_respects pollSdrs_tended plain off⟩

end Chassis.Vita4611
