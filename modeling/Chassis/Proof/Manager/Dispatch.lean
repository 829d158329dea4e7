import Chassis.Proof.Manager.Outline

namespace Chassis.Vita4611
open Effect Program

variable {reqdata : List UInt8} {manager : ChassisManager} {allowed : ChassisManager → Op → Prop}

/-- The dispatcher reads two bytes that every admitted request has. -/
theorem pre_handleChmCommand (long : 4 ≤ reqdata.length)
    (post : Post interface ChassisManager (List UInt8)) :
    (handleChmCommand reqdata).pre allowed post manager =
      if reqdata.getD 1 0 ≠ netfnVita4611 then post.value [] manager
      else (chmHandler reqdata (reqdata.getD 3 0)).pre allowed post manager := by
  simp only [handleChmCommand, pre_bind]
  rw [pre_reqByte_inside (by omega)]
  dsimp only
  rw [pre_reqByte_inside (by omega)]
  simp only [pre_ite, pre_pure]

/-- The request carries this command of the standard. -/
def IsCommand (reqdata : List UInt8) (cmd : UInt8) : Prop :=
  reqdata.getD 1 0 = netfnVita4611 ∧ reqdata.getD 3 0 = cmd

instance : Decidable (IsCommand reqdata cmd) := inferInstanceAs (Decidable (_ ∧ _))

theorem pre_command {cmd : UInt8} (command : IsCommand reqdata cmd) (long : 4 ≤ reqdata.length)
    (post : Post interface ChassisManager (List UInt8)) :
    (handleChmCommand reqdata).pre allowed post manager =
      (chmHandler reqdata cmd).pre allowed post manager := by
  rw [pre_handleChmCommand long, if_neg (not_not_intro command.1), command.2]

theorem run_command {cmd : UInt8} (command : IsCommand reqdata cmd) (long : 4 ≤ reqdata.length)
    (environment : Environment interface) (position : Nat) :
    (handleChmCommand reqdata).run environment manager position =
      (chmHandler reqdata cmd).run environment manager position := by
  have own : ¬reqdata.getD 1 0 ≠ netfnVita4611 := not_not_intro command.1
  simp (disch := omega) only [handleChmCommand, run_bind, run_reqByte, andThen_value,
    List.length_nil, Nat.add_zero, List.nil_append, run_ite, if_neg own, command.2]

/-- A request without the two bytes of the dispatcher is out of range. -/
theorem pre_handleChmCommand_short (short : reqdata.length < 4)
    {post : Post interface ChassisManager (List UInt8)}
    (outside : post.fault .reqdataIndex manager) :
    (handleChmCommand reqdata).pre allowed post manager := by
  simp only [handleChmCommand, pre_bind]
  by_cases first : 1 < reqdata.length
  · rw [pre_reqByte_inside first]
    dsimp only
    rw [pre_reqByte_outside (by omega)]
    exact outside
  · rw [pre_reqByte_outside (by omega)]
    exact outside

/-- The command and its length bring the request to the subscript operator of the device map. -/
def Subscripts (manager : ChassisManager) (reqdata : List UInt8) : Prop :=
  (IsCommand reqdata vita4611FruControl ∧ 6 ≤ reqdata.length) ∨
    manager.deviceMapEmpty = false ∧
      ((IsCommand reqdata vita4611SetFruStatePolicyBitsCmd ∧ 7 ≤ reqdata.length) ∨
        (IsCommand reqdata vita4611GetFruStatePolicyBitsCmd ∧ 5 ≤ reqdata.length) ∨
        (IsCommand reqdata vita4611SetFruActivationCmd ∧ 6 ≤ reqdata.length) ∨
        (IsCommand reqdata vita4611GetDeviceLocatorRecordIdCmd ∧ 5 ≤ reqdata.length) ∨
        (IsCommand reqdata vita4611GetMandatorySensorNumbersCmd ∧ 5 ≤ reqdata.length))

/-- The command makes the manager itself send a request on the fixed channel 0. -/
def SendsFixed (manager : ChassisManager) (reqdata : List UInt8) : Prop :=
  (IsCommand reqdata vita4611FruControl ∧ 6 ≤ reqdata.length ∧
      (reqdata.getD 5 0 = 0 ∨ reqdata.getD 5 0 = 1) ∧
      (manager.deviceMap (reqdata.getD 4 0)).join.isSome) ∨
    (IsCommand reqdata vita4611GetChassisAddressTableInfoCmd ∧ 8 ≤ reqdata.length ∧
      manager.chassisAddressTable.entries ≠ [] ∧ reqdata.getD 4 0 > 0 ∧
      (manager.keyed (reqdata.getD 5 0) (reqdata.getD 6 0)).join.isSome)

/-- A command keeps the outline, sets the links, or inserts a null pointer. -/
inductive Change (reqdata : List UInt8) (before : ChassisManager) : ChassisManager → Prop where
  | kept {after : ChassisManager} (same : after.outline = before.outline) :
      Change reqdata before after
  | linked (command : IsCommand reqdata vita4611SetIpmbStateCmd) (long : 6 ≤ reqdata.length) :
      Change reqdata before (applyIpmbState before (reqdata.getD 4 0) (reqdata.getD 5 0))
  | inserted (looked : Subscripts before reqdata)
      (absent : before.deviceMap (reqdata.getD 4 0) = none) :
      Change reqdata before (before.setDevice (reqdata.getD 4 0) none)

/-- A command sends before it changes the outline, and only on the fixed channel. -/
def CommandCall (reqdata : List UInt8) (before state : ChassisManager) (op : Op) : Prop :=
  state.outline = before.outline ∧ ∀ arguments, op = .sendRequest arguments →
    arguments.reqChannel = 0 ∧ SendsFixed before reqdata

/-- No handler lets an exception escape. -/
def changed {Value : Type} (reqdata : List UInt8) (before : ChassisManager) :
    Post interface ChassisManager Value :=
  ⟨fun _ => Change reqdata before, fun _ _ => False, fun _ => Change reqdata before⟩

theorem Change.refl : Change reqdata manager manager := .kept rfl

theorem Change.touch (looked : Subscripts manager reqdata) :
    Change reqdata manager (manager.touch (reqdata.getD 4 0)) := by
  unfold ChassisManager.touch
  split
  · exact .refl
  · exact .inserted looked ‹_›

/-- A member access keeps the device's identity or follows an insertion. -/
theorem Change.useDevice {fault : Fault → ChassisManager → Prop} {use : Vita4611Device → Prop}
    (looked : Subscripts manager reqdata)
    (faulted : ∀ after, Change reqdata manager after → fault .nullDevice after)
    (used : ∀ device, manager.deviceMap (reqdata.getD 4 0) = some (some device) → use device) :
    Vita4611.useDevice manager (reqdata.getD 4 0) use fault := by
  unfold Vita4611.useDevice
  split
  · exact used _ ‹_›
  · exact faulted _ .refl
  · exact faulted _ (.inserted looked ‹_›)

theorem CommandCall.local {op : Op} (internal : ∀ arguments, op ≠ .sendRequest arguments) :
    CommandCall reqdata manager manager op :=
  ⟨rfl, fun arguments sent => absurd sent (internal arguments)⟩

theorem ite_intro {condition first second : Prop} [Decidable condition]
    (positive : condition → first) (negative : ¬condition → second) :
    if condition then first else second := by
  split
  · exact positive ‹_›
  · exact negative ‹_›

theorem pre_ite_intro {Value : Type} {condition : Prop} [Decidable condition]
    {first second : Program interface ChassisManager Value}
    {post : Post interface ChassisManager Value}
    (positive : condition → first.pre allowed post manager)
    (negative : ¬condition → second.pre allowed post manager) :
    (if condition then first else second).pre allowed post manager := by
  rw [pre_ite]
  exact ite_intro positive negative

section Handlers

/-- This is what a handler of the dispatcher has to meet. -/
abbrev Changes (reqdata : List UInt8) (manager : ChassisManager)
    (handler : Program interface ChassisManager (List UInt8)) : Prop :=
  handler.pre (CommandCall reqdata manager) (changed reqdata manager) manager

theorem getAddTable_changes
    (command : IsCommand reqdata vita4611GetChassisAddressTableInfoCmd) :
    Changes reqdata manager (getAddTable reqdata) := by
  rw [Changes, pre_getAddTable]
  apply ite_intro (fun _ => .refl)
  intro long
  apply ite_intro (fun _ => .refl)
  intro admitted
  refine ite_intro (fun _ => ?_) fun _ => ?_
  · rcases manager.findDeviceByPhysAddress (reqdata.getD 6 0) with _ | device <;> exact .refl
  · rcases found : manager.keyed (reqdata.getD 5 0) (reqdata.getD 6 0) with _ | (_ | device)
    · exact .refl
    · exact .refl
    · refine ite_intro (fun fru => ⟨⟨rfl, ?_⟩, fun reply => ?_⟩) fun _ => .refl
      · rintro _ ⟨⟩
        refine ⟨rfl, .inr ⟨command, by omega, fun empty => admitted (.inr (.inr empty)), fru, ?_⟩⟩
        rw [found]
        rfl
      · rcases (readReply reply).1 with _ | response
        · exact .refl
        · exact ite_intro (fun _ => .refl) fun _ => .refl

theorem fruControl_changes (command : IsCommand reqdata vita4611FruControl) :
    Changes reqdata manager (fruControl reqdata) := by
  rw [Changes, pre_fruControl]
  apply ite_intro (fun _ => .refl)
  intro _
  apply ite_intro (fun _ => .refl)
  intro long
  have touched : Change reqdata manager (manager.touch (reqdata.getD 4 0)) :=
    .touch (.inl ⟨command, by omega⟩)
  refine ite_intro (fun control => ⟨fun owned => ⟨rfl, ?_⟩, touched⟩) fun _ =>
    ite_intro (fun _ => touched) fun _ => touched
  rintro _ ⟨⟩
  exact ⟨rfl, .inl ⟨command, by omega, control, owned⟩⟩

theorem setFruStatePolicyBits_changes
    (command : IsCommand reqdata vita4611SetFruStatePolicyBitsCmd) :
    Changes reqdata manager (setFruStatePolicyBits reqdata) := by
  rw [Changes, pre_setFruStatePolicyBits]
  apply ite_intro (fun _ => .refl)
  intro long
  apply ite_intro (fun _ => .refl)
  intro filled
  refine Change.useDevice (.inr ⟨by simpa using filled, .inl ⟨command, by omega⟩⟩)
    (fun _ held => held) fun device present => ?_
  exact .kept (ChassisManager.outline_replace present rfl)

theorem getFruStatePolicyBits_changes
    (command : IsCommand reqdata vita4611GetFruStatePolicyBitsCmd) :
    Changes reqdata manager (withArgument reqdata getFruStatePolicyBits) := by
  rw [Changes, pre_withArgument, pre_getFruStatePolicyBits]
  apply ite_intro (fun _ => .refl)
  intro long
  apply ite_intro (fun _ => .refl)
  intro filled
  exact Change.useDevice (.inr ⟨by simpa using filled, .inr (.inl ⟨command, by omega⟩)⟩)
    (fun _ held => held) fun _ _ => .refl

theorem setFruActivation_changes (command : IsCommand reqdata vita4611SetFruActivationCmd) :
    Changes reqdata manager (setFruActivation reqdata) := by
  rw [Changes, pre_setFruActivation]
  apply ite_intro (fun _ => .refl)
  intro long
  apply ite_intro (fun _ => .refl)
  intro filled
  have looked : Subscripts manager reqdata :=
    .inr ⟨by simpa using filled, .inr (.inr (.inl ⟨command, by omega⟩))⟩
  refine ite_intro (fun _ => ?_) fun _ => .touch looked
  apply Change.useDevice looked (fun _ held => held)
  intro device present
  exact .kept (ChassisManager.outline_replace present rfl)

theorem getDeviceLocatorRecordId_changes
    (command : IsCommand reqdata vita4611GetDeviceLocatorRecordIdCmd ∨
      IsCommand reqdata vita4611GetMandatorySensorNumbersCmd) :
    Changes reqdata manager (getDeviceLocatorRecordId reqdata) := by
  rw [Changes, pre_getDeviceLocatorRecordId]
  apply ite_intro (fun _ => .refl)
  intro long
  apply ite_intro (fun _ => .refl)
  intro filled
  refine Change.useDevice (.inr ⟨by simpa using filled, .inr (.inr (.inr ?_))⟩)
    (fun _ held => held) fun _ _ => .refl
  exact command.imp (fun locator => ⟨locator, by omega⟩) (fun mandatory => ⟨mandatory, by omega⟩)

theorem setIpmbState_changes (command : IsCommand reqdata vita4611SetIpmbStateCmd) :
    Changes reqdata manager (setIpmbState reqdata) := by
  rw [Changes, pre_setIpmbState]
  exact ite_intro (fun _ => .refl) fun long => .linked command (by omega)

theorem setChassisIdentifier_changes : Changes reqdata manager (setChassisIdentifier reqdata) := by
  rw [Changes, pre_setChassisIdentifier]
  exact ite_intro (fun _ => .refl) fun _ => ite_intro (fun _ => .refl) fun _ => .kept rfl

theorem getChassisManagerIpAddresses_changes :
    Changes reqdata manager (withArgument reqdata getChassisManagerIpAddresses) := by
  rw [Changes, pre_withArgument, pre_getChassisManagerIpAddresses]
  exact ite_intro (fun _ => .refl) fun _ => ite_intro (fun _ => .refl) fun _ => .refl

theorem getFanLevel_changes : Changes reqdata manager (getFanLevel reqdata) := by
  rw [Changes, pre_getFanLevel]
  exact ite_intro (fun _ => .refl) fun _ => ⟨.local (fun _ => nofun), fun _ =>
    ⟨.local (fun _ => nofun), fun _ => .refl⟩⟩

theorem setFanLevel_changes : Changes reqdata manager (setFanLevel reqdata) := by
  rw [Changes, pre_setFanLevel]
  refine ite_intro (fun _ => .refl) fun _ => ite_intro (fun _ => ?_) fun _ => ?_
  · exact ⟨.local (fun _ => nofun), .local (fun _ => nofun), .refl⟩
  · exact ⟨.local (fun _ => nofun), .refl⟩

theorem setFanPolicy_changes : Changes reqdata manager (setFanPolicy reqdata) := by
  rw [Changes, pre_setFanPolicy]
  refine ite_intro (fun _ => .refl) fun _ => ite_intro (fun _ => ?_) fun _ => ?_
  · exact ⟨⟨rfl, fun _ => nofun⟩, .kept rfl⟩
  · exact ite_intro (fun _ => .kept rfl) fun _ => ⟨⟨rfl, fun _ => nofun⟩, .kept rfl, .kept rfl⟩

theorem getFanPolicy_changes : Changes reqdata manager (getFanPolicy reqdata) := by
  rw [Changes, pre_getFanPolicy]
  refine ite_intro (fun _ => .refl) fun _ => ite_intro (fun _ => ?_) fun _ => ?_
  · exact ⟨.local (fun _ => nofun), fun _ => ⟨.local (fun _ => nofun), fun _ => .refl⟩⟩
  · exact ⟨.local (fun _ => nofun), fun _ => .refl⟩

theorem getFruAddressInfo_changes : Changes reqdata manager (getFruAddressInfo reqdata) := by
  rw [Changes, pre_getFruAddressInfo]
  apply ite_intro (fun _ => .refl)
  intro _
  apply ite_intro (fun _ => .refl)
  intro _
  refine ite_intro (fun _ => ?_) fun _ => .refl
  rcases manager.findDeviceByPhysAddress (reqdata.getD 6 0) with _ | device <;> exact .refl

end Handlers

theorem chmHandler_changes {cmd : UInt8} (command : IsCommand reqdata cmd) :
    Changes reqdata manager (chmHandler reqdata cmd) := by
  rcases command with ⟨netFn, code⟩
  refine pre_ite_intro (fun _ => .refl) fun _ => ?_
  apply pre_ite_intro (fun cmd => getAddTable_changes ⟨netFn, code.trans cmd⟩)
  intro _
  apply pre_ite_intro (fun _ => getChassisManagerIpAddresses_changes)
  intro _
  refine pre_ite_intro (fun _ => .refl) fun _ => ?_
  apply pre_ite_intro (fun _ => setChassisIdentifier_changes)
  intro _
  apply pre_ite_intro (fun cmd => fruControl_changes ⟨netFn, code.trans cmd⟩)
  intro _
  apply pre_ite_intro (fun cmd => setIpmbState_changes ⟨netFn, code.trans cmd⟩)
  intro _
  apply pre_ite_intro (fun cmd => setFruStatePolicyBits_changes ⟨netFn, code.trans cmd⟩)
  intro _
  apply pre_ite_intro (fun cmd => getFruStatePolicyBits_changes ⟨netFn, code.trans cmd⟩)
  intro _
  apply pre_ite_intro (fun cmd => setFruActivation_changes ⟨netFn, code.trans cmd⟩)
  intro _
  refine pre_ite_intro (fun cmd => getDeviceLocatorRecordId_changes (.inl ⟨netFn, code.trans cmd⟩))
    fun _ => ?_
  refine pre_ite_intro (fun _ => .refl) fun _ => ?_
  apply pre_ite_intro (fun _ => setFanLevel_changes)
  intro _
  apply pre_ite_intro (fun _ => getFanLevel_changes)
  intro _
  apply pre_ite_intro (fun _ => setFanPolicy_changes)
  intro _
  apply pre_ite_intro (fun _ => getFanPolicy_changes)
  intro _
  refine pre_ite_intro (fun _ => .refl) fun _ => ?_
  apply pre_ite_intro (fun _ => getFruAddressInfo_changes)
  intro _
  exact pre_ite_intro (fun cmd => getDeviceLocatorRecordId_changes (.inr ⟨netFn, code.trans cmd⟩))
    fun _ => .refl

theorem handleChmCommand_changes (long : 4 ≤ reqdata.length) :
    Changes reqdata manager (handleChmCommand reqdata) := by
  rw [Changes, pre_handleChmCommand long]
  exact ite_intro (fun _ => .refl) fun netFn => chmHandler_changes ⟨not_not.mp netFn, rfl⟩

/-- The open link that a command is forwarded on. -/
def ChassisManager.channel (manager : ChassisManager) : Option UInt8 :=
  selectChannel manager.mIpmbAEnable manager.mIpmbBEnable

/-- A request for the chassis manager itself passes the gate and the length check. -/
def Dispatched (manager : ChassisManager) (reqdata : List UInt8) : Prop :=
  manager.channel ≠ none ∧ 4 ≤ reqdata.length ∧ reqdata.getD 0 0 = chmcIpmiAddress

instance (manager : ChassisManager) (reqdata : List UInt8) : Decidable (Dispatched manager reqdata) :=
  inferInstanceAs (Decidable (_ ∧ _ ∧ _))

/-- A non-empty answer of a handler becomes a success. -/
def chmResponse (chmResponseData : List UInt8) : RspType :=
  if chmResponseData ≠ [] then responseSuccess chmResponseData else responseIllegalCommand

theorem pre_executePassthroughCmd (post : Post interface ChassisManager RspType) :
    (executePassthroughCmd reqdata).pre allowed post manager =
      match manager.channel with
      | none => post.value responseIllegalCommand manager
      | some ch =>
          if reqdata.length < 4 then post.value responseReqDataLenInvalid manager
          else if reqdata.getD 0 0 = chmcIpmiAddress then
            (handleChmCommand reqdata).pre allowed
              ⟨fun data => post.value (chmResponse data), post.thrown, post.fault⟩ manager
          else if manager.verifyIpmiAddressIsValid (reqdata.getD 0 0) = false then
            post.value responseIllegalCommand manager
          else if reqdata.getD 1 0 = netfnVita4611 then
            (forwardVita ch (reqdata.getD 0 0) (reqdata.getD 2 0) (reqdata.getD 3 0)
              (manager.findDeviceByAddress (reqdata.getD 0 0)).isSome (reqdata.drop 4)).pre
              allowed post manager
          else
            (forwardIpmi ch (reqdata.getD 0 0) (reqdata.getD 1 0) (reqdata.getD 2 0)
              (reqdata.getD 3 0) (manager.findDeviceByAddress (reqdata.getD 0 0)).isSome
              (reqdata.drop 4)).pre allowed post manager := by
  simp only [executePassthroughCmd, pre_bind, pre_read, ChassisManager.channel]
  rcases selectChannel manager.mIpmbAEnable manager.mIpmbBEnable with _ | ch
  · rfl
  · by_cases short : reqdata.length < 4
    · simp only [short, if_true, pre_pure]
    · simp (disch := omega) only [short, if_false, pre_bind, pre_reqByte_inside, pre_ite, pre_pure]
      congr 2
      simp only [chmResponse, Post.mk.injEq, and_true]
      funext data
      split_ifs <;> rfl

/-- A dispatched request is answered by its handler. -/
theorem pre_dispatched (dispatched : Dispatched manager reqdata)
    (post : Post interface ChassisManager RspType) :
    (executePassthroughCmd reqdata).pre allowed post manager =
      (handleChmCommand reqdata).pre allowed
        ⟨fun data => post.value (chmResponse data), post.thrown, post.fault⟩ manager := by
  rcases dispatched with ⟨opened, long, own⟩
  rcases Option.ne_none_iff_exists'.mp opened with ⟨ch, selected⟩
  rw [pre_executePassthroughCmd, selected]
  simp only [own, if_neg (show ¬reqdata.length < 4 by omega), if_true]

/-- A forwarded request uses the open link and changes nothing. -/
abbrev Forwards (ch : UInt8) (manager : ChassisManager)
    (program : Program interface ChassisManager RspType) : Prop :=
  program.pre
    (fun (state : ChassisManager) (op : Op) => state = manager ∧
      ∀ arguments, op = .sendRequest arguments → arguments.reqChannel = ch)
    ⟨fun _ state => state = manager, fun _ _ => False, fun _ _ => False⟩ manager

theorem responseWithCode_forwards (ch : UInt8) (cc : Option UInt8) :
    Forwards ch manager (responseWithCode cc) := by
  cases cc with
  | some cc => exact rfl
  | none => exact ⟨⟨rfl, fun _ => nofun⟩, fun _ => rfl⟩

theorem forwardVita_forwards (ch ipmiAddress lun cmd : UInt8) (known : Bool)
    (arguments : List UInt8) :
    Forwards ch manager (forwardVita ch ipmiAddress lun cmd known arguments) := by
  refine pre_ite_intro (fun _ => ?_) fun _ => rfl
  rw [pre_bind, pre_sendIpmbRequest]
  refine ⟨⟨rfl, fun _ sent => by cases sent; rfl⟩, fun reply => ?_⟩
  rcases readReply reply with ⟨_ | answer, cc⟩
  · refine pre_ite_intro (fun _ => rfl) fun _ => ?_
    exact responseWithCode_forwards ch cc
  · exact rfl

theorem forwardIpmi_forwards (ch ipmiAddress netFn lun cmd : UInt8) (known : Bool)
    (arguments : List UInt8) :
    Forwards ch manager (forwardIpmi ch ipmiAddress netFn lun cmd known arguments) := by
  refine pre_ite_intro (fun _ => ?_) fun _ => rfl
  rw [pre_bind, pre_sendIpmbRequest]
  refine ⟨⟨rfl, fun _ sent => by cases sent; rfl⟩, fun reply => ?_⟩
  rcases readReply reply with ⟨_ | answer, cc⟩
  · exact responseWithCode_forwards ch cc
  · exact rfl

/-- A passthrough request either keeps the outline or is a dispatched command. -/
def Passed (reqdata : List UInt8) (before after : ChassisManager) : Prop :=
  after.outline = before.outline ∨ Dispatched before reqdata ∧ Change reqdata before after

/-- A passthrough request sends on the open link, or a dispatched command sends on channel 0. -/
def PassthroughCall (reqdata : List UInt8) (before state : ChassisManager) (op : Op) : Prop :=
  state.outline = before.outline ∧ ∀ arguments, op = .sendRequest arguments →
    before.channel = some arguments.reqChannel ∨
      Dispatched before reqdata ∧ SendsFixed before reqdata ∧ arguments.reqChannel = 0

theorem executePassthroughCmd_passes :
    (executePassthroughCmd reqdata).pre (PassthroughCall reqdata manager)
      ⟨fun _ => Passed reqdata manager, fun _ _ => False, fun _ => Passed reqdata manager⟩
      manager := by
  rw [pre_executePassthroughCmd]
  rcases selected : manager.channel with _ | ch
  · exact .inl rfl
  · have forwarded {program : Program interface ChassisManager RspType}
        (forwards : Forwards ch manager program) :
        program.pre (PassthroughCall reqdata manager) ⟨fun _ => Passed reqdata manager,
          fun _ _ => False, fun _ => Passed reqdata manager⟩ manager := by
      refine pre_mono forwards ?_ ?_ (fun _ _ never => never) (fun _ _ never => never.elim)
      · rintro _ op ⟨rfl, sent⟩
        refine ⟨rfl, fun arguments sending => .inl ?_⟩
        rw [selected, sent arguments sending]
      · rintro _ _ rfl
        exact .inl rfl
    refine ite_intro (fun _ => .inl rfl) fun long => ite_intro (fun own => ?_) fun _ => ?_
    · have dispatched : Dispatched manager reqdata :=
        ⟨by rw [selected]; nofun, by omega, own⟩
      refine pre_mono (handleChmCommand_changes (by omega)) ?_ ?_ (fun _ _ never => never) ?_
      · intro state op call
        refine ⟨call.1, fun arguments sent => .inr ?_⟩
        rcases call.2 arguments sent with ⟨fixed, sends⟩
        exact ⟨dispatched, sends, fixed⟩
      · exact fun _ _ changed => .inr ⟨dispatched, changed⟩
      · exact fun _ _ changed => .inr ⟨dispatched, changed⟩
    · refine ite_intro (fun _ => .inl rfl) fun _ => ite_intro (fun _ => ?_) fun _ => ?_
      · exact forwarded (forwardVita_forwards ..)
      · exact forwarded (forwardIpmi_forwards ..)

end Chassis.Vita4611
