import Chassis.Proof.Manager.Dispatch
import Chassis.Automaton.Run

namespace Chassis.Vita4611
open Effect Program Automaton

variable {manager : ChassisManager} {system after : System} {event : Event}

instance (op : interface.Op) : Nonempty (interface.Answer op) :=
  inferInstanceAs (Nonempty (Op.Answer op))

/-- An operation changes the outline only as a passthrough request does. -/
def Advanced (operation : Operation) (before after : ChassisManager) : Prop :=
  match operation with
  | .passthrough reqdata => Passed reqdata before after
  | .pollDeviceSensors => after.outline = before.outline
  | .pollSdrs => after.outline = before.outline

/-- Every call of an operation is a passthrough call or the call of a poll. -/
def OperationCall (operation : Operation) (before state : ChassisManager) (op : Op) : Prop :=
  match operation with
  | .passthrough reqdata => PassthroughCall reqdata before state op
  | .pollDeviceSensors => state.outline = before.outline ∧ PollCall before.outline op
  | .pollSdrs => state.outline = before.outline ∧ PollCall before.outline op

/-- A null device stops an operation only if the map has one or the operation is a command. -/
def Stopped (operation : Operation) (before : ChassisManager) (reason : Fault) : Prop :=
  match operation with
  | .passthrough _ => True
  | .pollDeviceSensors => reason = .nullDevice → ¬before.outline.Owned
  | .pollSdrs => reason = .nullDevice → ¬before.outline.Owned

theorem program_advances [Libm] (operation : Operation) :
    operation.program.pre (OperationCall operation manager)
      ⟨fun _ => Advanced operation manager, fun _ => Advanced operation manager,
        fun reason state => Advanced operation manager state ∧ Stopped operation manager reason⟩
      manager := by
  cases operation with
  | passthrough reqdata =>
      rw [Operation.program, pre_bind]
      exact pre_mono executePassthroughCmd_passes (fun _ _ held => held) (fun _ _ held => held)
        (fun _ _ never => never.elim) (fun _ _ held => ⟨held, trivial⟩)
  | pollDeviceSensors =>
      rw [Operation.program, pre_bind]
      exact pollDeviceSensors_tended manager rfl
  | pollSdrs =>
      rw [Operation.program, pre_bind]
      exact pollSdrs_tended manager rfl

theorem run_advanced [Libm] (event : Event) (manager : ChassisManager) :
    Advanced event.operation manager (event.run manager).state := by
  exact pre_state _ event.environment manager 0 (pre_mono (program_advances event.operation)
    (fun _ _ call => call) (fun _ _ held => held) (fun _ _ held => held) (fun _ _ held => held.1))

/-- A step is taken by a running process and records its run. -/
theorem step_eq_some [Libm] (taken : system.step event = some after) :
    system.ending = none ∧ after.manager = (event.run system.manager).state ∧
      after.ending = endingOf event.operation.caught (event.run system.manager).outcome := by
  unfold System.step at taken
  split at taken
  · cases taken
  · rename_i running
    cases taken
    exact ⟨by simpa using running, rfl, rfl⟩

/-- An operation that ends well leaves a running process. -/
theorem step_running [Libm]
    (returned : endingOf event.operation.caught (event.run manager).outcome = none) :
    System.step ⟨manager, none⟩ event = some ⟨(event.run manager).state, none⟩ := by
  simp [System.step, returned]

theorem step_advanced [Libm] (taken : system.step event = some after) :
    Advanced event.operation system.manager after.manager := by
  rw [(step_eq_some taken).2.1]
  exact run_advanced event system.manager

end Chassis.Vita4611
