import Chassis.Proof.Manager.Dispatch

namespace Chassis.Vita4611
open Effect Program

/-- The request resets its addressee. -/
def isReset (arguments : Ipmb.SendRequest) : Bool :=
  arguments.netfn == 0x06 && (arguments.cmd == 0x02 || arguments.cmd == 0x03)

/-- The reset command of a control option. -/
def resetCommand (option : UInt8) : Option UInt8 :=
  if option = 0x00 then some 0x02 else if option = 0x01 then some 0x03 else none

/-- The request that the handler sends for a reset command. -/
def resetRequest (cmd : UInt8) : Ipmb.SendRequest := ⟨0, 0x8a, 0x06, 0x00, cmd, [0x03]⟩

/-- The four options are accepted. -/
def controlReply (option : UInt8) : List UInt8 :=
  if option = 0x00 ∨ option = 0x01 ∨ option = 0x02 ∨ option = 0x03 then [0x03] else []

theorem resetCommand_eq_some {option reset : UInt8} (chosen : resetCommand option = some reset) :
    option = 0x00 ∧ reset = 0x02 ∨ option = 0x01 ∧ reset = 0x03 := by
  unfold resetCommand at chosen
  split_ifs at chosen with cold warm
  · exact .inl ⟨cold, (Option.some.inj chosen).symm⟩
  · exact .inr ⟨warm, (Option.some.inj chosen).symm⟩

theorem resetRequest_resets {option reset : UInt8} (chosen : resetCommand option = some reset) :
    isReset (resetRequest reset) = true := by
  obtain ⟨_, rfl⟩ | ⟨_, rfl⟩ := resetCommand_eq_some chosen
  · rfl
  · rfl

theorem controlReply_of_reset {option reset : UInt8} (chosen : resetCommand option = some reset) :
    controlReply option = [0x03] := by
  obtain ⟨rfl, _⟩ | ⟨rfl, _⟩ := resetCommand_eq_some chosen
  · rfl
  · rfl

section Runs

variable {reqdata : List UInt8} {manager : ChassisManager} {device : Vita4611Device}

theorem run_deviceMapAt {key : UInt8} (environment : Environment interface) (position : Nat)
    (found : manager.deviceMap key = some (some device)) :
    (deviceMapAt key).run environment manager position = ⟨.value (some device), manager, []⟩ := by
  simp only [deviceMapAt, run_bind, run_read, Run.andThen, found, run_pure, List.append_nil]

/-- The handler keeps the manager, and it sends at most one request. -/
theorem run_fruControl (environment : Environment interface) (position : Nat)
    (long : 6 ≤ reqdata.length) (found : manager.deviceMap (reqdata.getD 4 0) = some (some device)) :
    (fruControl reqdata).run environment manager position =
      ⟨.value (controlReply (reqdata.getD 5 0)), manager,
        (resetCommand (reqdata.getD 5 0)).toList.map fun cmd =>
          ⟨manager, .sendRequest (resetRequest cmd),
            environment position (.sendRequest (resetRequest cmd))⟩⟩ := by
  have short : ¬reqdata.length < 5 := by omega
  generalize chosen : reqdata.getD 5 0 = option
  simp (disch := omega) only [fruControl, short, run_ite, if_false, run_bind, run_reqByte,
    Run.andThen, run_deviceMapAt _ _ found, chosen, List.length_nil, List.nil_append, run_pure]
  by_cases cold : option = 0x00
  · subst cold
    rfl
  by_cases warm : option = 0x01
  · subst warm
    rfl
  by_cases other : option = 0x02 ∨ option = 0x03
  · rw [if_neg cold, if_neg warm, if_pos other]
    rcases other with rfl | rfl
    · rfl
    · rfl
  · have refused : ¬(option = 0x00 ∨ option = 0x01 ∨ option = 0x02 ∨ option = 0x03) := by
      simp only [cold, warm, other, or_self, not_false_eq_true]
    rw [if_neg cold, if_neg warm, if_neg other, controlReply, if_neg refused, resetCommand,
      if_neg cold, if_neg warm]
    rfl

/-- A FRU Control command is dispatched to its handler. -/
theorem run_handleChmCommand (environment : Environment interface) (position : Nat)
    (long : 6 ≤ reqdata.length) (netFn : reqdata.getD 1 0 = netfnVita4611)
    (cmd : reqdata.getD 3 0 = vita4611FruControl) :
    (handleChmCommand reqdata).run environment manager position =
      (fruControl reqdata).run environment manager position := by
  rw [run_command ⟨netFn, cmd⟩ (by omega)]
  rfl

end Runs

section Reset

/-- Resets go only to the named device, with the command of the option, and a reset is reported as
done only if the device has answered it with completion code zero. -/
structure ResetsOnly (device : Vita4611Device) (option : UInt8)
    (run : Run interface ChassisManager (List UInt8)) : Prop where
  aimed : ∀ entry ∈ run.calls, ∀ arguments, entry.op = .sendRequest arguments →
    isReset arguments = true →
    arguments.addr = device.ipmiAddress ∧ resetCommand option = some arguments.cmd
  answered : (option = 0x00 ∨ option = 0x01) → run.outcome = .value [0x03] →
    ∃ state arguments result, ⟨state, .sendRequest arguments, DBusReply.reply result⟩ ∈ run.calls ∧
      isReset arguments = true ∧ arguments.addr = device.ipmiAddress ∧
      result.status = Ipmb.IpmbResponseStatus.success.code ∧ result.cc = 0

/-- The device answers the request with completion code zero. -/
def Accepted (answer : DBusReply) : Prop :=
  ∃ result, answer = .reply result ∧ result.status = Ipmb.IpmbResponseStatus.success.code ∧
    result.cc = 0

variable {reqdata : List UInt8} {manager : ChassisManager} {device : Vita4611Device}

/-- A run without calls resets nothing. -/
theorem resetsOnly_silent {option : UInt8} (chosen : resetCommand option = none)
    (outcome : Outcome interface (List UInt8)) (state : ChassisManager) :
    ResetsOnly device option ⟨outcome, state, []⟩ := by
  constructor
  · intro entry member
    cases member
  · rintro (rfl | rfl)
    · cases chosen
    · cases chosen

/-- A run with one reset reaches the device exactly when the fixed address is the device's own and
the reset is accepted. -/
theorem resetsOnly_single_iff (device : Vita4611Device) (manager : ChassisManager)
    {option reset : UInt8} (chosen : resetCommand option = some reset) (answer : DBusReply) :
    ResetsOnly device option ⟨.value (controlReply option), manager,
        [⟨manager, .sendRequest (resetRequest reset), answer⟩]⟩ ↔
      device.ipmiAddress = 0x8a ∧ Accepted answer := by
  have either : option = 0x00 ∨ option = 0x01 := (resetCommand_eq_some chosen).imp And.left And.left
  have resets := resetRequest_resets chosen
  constructor
  · intro reaches
    have aimed := reaches.aimed _ (List.mem_singleton_self _) (resetRequest reset) rfl resets
    obtain ⟨state, arguments, result, member, _, _, status, cc⟩ :=
      reaches.answered either (by rw [controlReply_of_reset chosen])
    cases List.mem_singleton.mp member
    exact ⟨aimed.1.symm, result, rfl, status, cc⟩
  · rintro ⟨address, result, rfl, status, cc⟩
    constructor
    · intro entry member arguments same _
      cases List.mem_singleton.mp member
      cases same
      exact ⟨address.symm, chosen⟩
    · intro _ _
      exact ⟨manager, resetRequest reset, result, List.mem_singleton_self _, resets,
        address.symm, status, cc⟩

/-- A FRU Control command reaches the device that it names exactly when it resets nothing, or when the
device has the address `0x8a` and accepts the reset. -/
theorem fruControl_reaches_iff (environment : Environment interface) (position : Nat)
    (long : 6 ≤ reqdata.length) (netFn : reqdata.getD 1 0 = netfnVita4611)
    (cmd : reqdata.getD 3 0 = vita4611FruControl)
    (found : manager.deviceMap (reqdata.getD 4 0) = some (some device)) :
    ResetsOnly device (reqdata.getD 5 0)
        ((handleChmCommand reqdata).run environment manager position) ↔
      ∀ reset, resetCommand (reqdata.getD 5 0) = some reset → device.ipmiAddress = 0x8a ∧
        Accepted (environment position (.sendRequest (resetRequest reset))) := by
  rw [run_handleChmCommand environment position long netFn cmd,
    run_fruControl environment position long found]
  generalize reqdata.getD 5 0 = option
  cases chosen : resetCommand option with
  | none =>
      constructor
      · intro _ reset absent
        cases absent
      · intro _
        exact resetsOnly_silent chosen _ manager
  | some reset =>
      have single := resetsOnly_single_iff device manager chosen
        (environment position (.sendRequest (resetRequest reset)))
      constructor
      · intro reaches other same
        cases same
        exact single.mp reaches
      · intro holds
        exact single.mpr (holds reset rfl)

/-- One module is present at address `0x45`, and it answers no request during the start. -/
def resetModule : Environment interface := fun _ op =>
  match op with
  | .sendRequest _ => DBusReply.methodError
  | .openBus => true
  | .selectAddress _ => true
  | .probe addr => addr == (0x45 : UInt8)
  | op => (default : op.Answer)

def resetManager : ChassisManager :=
  (@ChassisManager.construct silentLibm |>.run resetModule .blank 0).state

/-- The module accepts every request later. -/
def acceptingModule : Environment interface := fun _ op =>
  match op with
  | .sendRequest _ => DBusReply.reply ⟨0, 0x07, 0, 0x02, 0, []⟩
  | op => (default : op.Answer)

/-- A cold reset of the module at the fixed address is carried out. -/
theorem fruControl_reaches_module :
    ∃ device, resetManager.deviceMap 1 = some (some device) ∧ ResetsOnly device 0x00
      ((handleChmCommand [0x40, 0x2c, 0, 0x04, 1, 0]).run acceptingModule resetManager 0) := by
  have seen : (resetManager.deviceMap 1).map (fun slot => slot.map fun device =>
      device.ipmiAddress) = some (some 0x8a) := by decide +kernel
  obtain ⟨slot, present, seen⟩ := Option.map_eq_some_iff.mp seen
  obtain ⟨device, rfl, address⟩ := Option.map_eq_some_iff.mp seen
  refine ⟨device, present, ?_⟩
  generalize resetManager = manager at present
  have reaches := fruControl_reaches_iff acceptingModule 0
    (show 6 ≤ [0x40, 0x2c, 0, 0x04, 1, (0 : UInt8)].length by decide) rfl rfl present
  apply reaches.mpr
  intro reset _
  exact ⟨address, ⟨0, 0x07, 0, 0x02, 0, []⟩, rfl, rfl, rfl⟩

/-- A cold reset of the module at `0x82` is sent to `0x8a` and reported as done. -/
theorem fruControl_resets_other :
    @Started silentLibm loneManager ∧ ∃ device, loneManager.deviceMap 1 = some (some device) ∧
      device.ipmiAddress = 0x82 ∧
      ((handleChmCommand [0x40, 0x2c, 0, 0x04, 1, 0]).run loneModule loneManager 0).outcome =
        .value [0x03] ∧
      ¬ResetsOnly device 0x00
        ((handleChmCommand [0x40, 0x2c, 0, 0x04, 1, 0]).run loneModule loneManager 0) := by
  have seen : (loneManager.deviceMap 1).map (fun slot => slot.map fun device =>
      device.ipmiAddress) = some (some 0x82) := by decide +kernel
  obtain ⟨slot, present, seen⟩ := Option.map_eq_some_iff.mp seen
  obtain ⟨device, rfl, address⟩ := Option.map_eq_some_iff.mp seen
  refine ⟨loneManager_started, device, present, address, ?_⟩
  generalize loneManager = manager at present
  have ran := run_fruControl loneModule 0
    (show 6 ≤ [0x40, 0x2c, 0, 0x04, 1, (0 : UInt8)].length by decide) present
  rw [← run_handleChmCommand loneModule 0 (by decide) rfl rfl] at ran
  refine ⟨congrArg Run.outcome ran, ?_⟩
  intro reaches
  rw [ran] at reaches
  have aimed := (reaches.aimed _ (List.mem_singleton_self _) (resetRequest 0x02) rfl rfl).1
  rw [address] at aimed
  exact absurd aimed (by decide)

end Reset

end Chassis.Vita4611
