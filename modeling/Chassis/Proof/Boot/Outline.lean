import Chassis.Construction.Boot.Manager
import Chassis.Data.List

namespace Chassis.Boot
open Effect Program Json Monitor

/-- What the code never changes of an element. -/
def AdcElement.wiring (adc : AdcElement) : String × String × ℚ := (adc.name, adc.path, adc.scaleCoeff)

/-- The limits, the rails and the lines stay as the constructor sets them. -/
structure Manager.Wired (limitJson : Value ℚ) (manager : Manager) : Prop where
  limits : manager.limitJson = limitJson
  adcs : manager.adcs.map AdcElement.wiring =
    rails.map fun rail => (rail.name, rail.path, rail.scaleCoeff)
  sysreset : manager.sysreset.chip = 1 ∧ manager.sysreset.line = 0
  psEnable : manager.psEnable.chip = 2 ∧ manager.psEnable.line = 3
  switchGpio : manager.switchGpio.chip = 0 ∧ manager.switchGpio.line = 6

theorem construct_wired (limitJson : Value ℚ) (junk : Rail → AdcElement) :
    (Manager.construct limitJson junk).Wired limitJson := by
  refine ⟨rfl, ?_, ⟨rfl, rfl⟩, ⟨rfl, rfl⟩, ⟨rfl, rfl⟩⟩
  rw [Manager.construct, List.map_map]
  rfl

/-- An update of an element that keeps its wiring keeps the wiring of the manager. -/
theorem Manager.Wired.updateAdc {limitJson : Value ℚ} {manager : Manager}
    (wired : manager.Wired limitJson) (index : Nat) {update : AdcElement → AdcElement}
    (same : ∀ adc, (update adc).wiring = adc.wiring) :
    (manager.updateAdc index update).Wired limitJson := by
  refine ⟨wired.limits, ?_, wired.sysreset, wired.psEnable, wired.switchGpio⟩
  have kept : ∀ adc, (update adc).wiring = id adc.wiring := same
  rw [Manager.updateAdc, Data.map_modify _ kept, List.modify_id]
  exact wired.adcs

section Specs

variable {limitJson : Value ℚ} {allowed : List (Call interface Manager) → Op → Prop}

theorem Manager.Wired.withPsEnable {manager : Manager} (wired : manager.Wired limitJson)
    {status : Int} {dbusflag : Bool} :
    Manager.Wired limitJson { manager with
      psEnable := { manager.psEnable with status := status, dbusflag := dbusflag } } :=
  ⟨wired.limits, wired.adcs, wired.sysreset, wired.psEnable, wired.switchGpio⟩

theorem Manager.Wired.withSysreset {manager : Manager} (wired : manager.Wired limitJson)
    {status : Int} {dbusflag : Bool} :
    Manager.Wired limitJson { manager with
      sysreset := { manager.sysreset with status := status, dbusflag := dbusflag } } :=
  ⟨wired.limits, wired.adcs, wired.sysreset, wired.psEnable, wired.switchGpio⟩

theorem Manager.Wired.withSwitchGpio {manager : Manager} (wired : manager.Wired limitJson)
    {status : Int} :
    Manager.Wired limitJson { manager with
      switchGpio := { manager.switchGpio with status := status } } :=
  ⟨wired.limits, wired.adcs, wired.sysreset, wired.psEnable, wired.switchGpio⟩

/-- Requests for a line as an output need a permission of their own. -/
def Op.drives : Op → Bool
  | .requestOutput _ _ _ => true
  | _ => false

/-- Every call but a request for an output is allowed. -/
def Ordinary (allowed : List (Call interface Manager) → Op → Prop) : Prop :=
  ∀ history op, op.drives = false → allowed history op

/-- A spec of a function: the calls it returns after, and the wiring that all its endings keep. -/
abbrev wiredEnding {Value' : Type} (limitJson : Value ℚ)
    (returns : Value' → List (Call interface Manager) → Manager → Prop) :
    Ending interface Manager Value' where
  value value more state := state.Wired limitJson ∧ returns value more state
  thrown _ _ state := state.Wired limitJson
  fault _ _ state := state.Wired limitJson

/-- A call that may throw ends in the exception or goes on. -/
theorem guards_attempt {Value' : Type} {shared : Manager → Prop} {op : Op}
    {answer : op.Answer → Bool} {exception : Exception}
    {rest : Unit → Program interface Manager Value'} {ending : Ending interface Manager Value'}
    {history : List (Call interface Manager)} {state : Manager} (kept : shared state)
    (permitted : allowed history op)
    (fails : ∀ result changed, shared changed →
      ending.thrown exception (history ++ [⟨changed, op, result⟩]) changed)
    (goes : ∀ (result : op.Answer) changed, shared changed → answer result = true →
      (rest ()).guards shared allowed ending (history ++ [⟨changed, op, result⟩]) changed) :
    (attempt op answer exception >>= rest).guards shared allowed ending history state := by
  refine ⟨kept, permitted, ?_⟩
  intro result changed still
  change Program.guards shared allowed (Program.bind
    (if answer result = true then Pure.pure () else .throw exception) rest) ending _ changed
  split
  next passed => exact goes result changed still passed
  next => exact fails result changed still

/-- Line 6 of chip 0, the front panel switch, was read as one. -/
def SwitchOn (call : Call interface Manager) : Prop :=
  ∃ state, call = ⟨state, .getValue 0 6, some 1⟩

theorem guards_waitForSwitch (ordinary : Ordinary allowed) {state : Manager}
    (wired : state.Wired limitJson) :
    waitForSwitch.guards (Manager.Wired limitJson) allowed (wiredEnding limitJson
      fun on more _ => on = true → ∃ call ∈ more, SwitchOn call) [] state := by
  obtain ⟨chip, line⟩ := wired.switchGpio
  simp only [waitForSwitch, guards_tryCatch]
  rw [guards_bind, guards_read]
  apply guards_attempt wired (ordinary _ _ rfl)
  · exact fun _ _ kept => ⟨kept, nofun⟩
  intro _ _ kept _
  apply guards_attempt kept (ordinary _ _ rfl)
  · exact fun _ _ kept => ⟨kept, nofun⟩
  intro _ _ kept _
  apply guards_attempt kept (ordinary _ _ rfl)
  · exact fun _ _ kept => ⟨kept, nofun⟩
  intro _ _ kept _
  refine ⟨kept, ordinary _ _ rfl, ?_⟩
  intro value changed kept
  cases value with
  | none => exact ⟨kept, nofun⟩
  | some value =>
      apply guards_attempt kept.withSwitchGpio (ordinary _ _ rfl)
      · exact fun _ _ kept => ⟨kept, nofun⟩
      intro _ _ kept _
      refine ⟨kept, ?_⟩
      intro on
      have one : value = 1 := of_decide_eq_true on
      subst one
      rw [chip, line]
      exact ⟨_, by simp, changed, rfl⟩

/-- The line was driven to the value as an output. -/
def Drove (chip line : Nat) (value : Int) (call : Call interface Manager) : Prop :=
  ∃ state, call = ⟨state, .requestOutput chip line value, true⟩

/-- A setter that reports success has driven its line. -/
theorem guards_driveLine {gpio : Manager → GpioInfo} {value : Int}
    {driven released : Manager → Manager} {chip line : Nat} (ordinary : Ordinary allowed)
    (permitted : ∀ more, allowed more (.requestOutput chip line value))
    (declared : ∀ manager : Manager, manager.Wired limitJson →
      (gpio manager).chip = chip ∧ (gpio manager).line = line)
    (drivenWired : ∀ manager : Manager, manager.Wired limitJson → (driven manager).Wired limitJson)
    (releasedWired : ∀ manager : Manager, manager.Wired limitJson →
      (released manager).Wired limitJson) {state : Manager} (wired : state.Wired limitJson) :
    (driveLine gpio value driven released).guards (Manager.Wired limitJson) allowed (wiredEnding
      limitJson fun done more _ => done = true → ∃ call ∈ more, Drove chip line value call) []
      state := by
  obtain ⟨rfl, rfl⟩ := declared state wired
  simp only [driveLine, guards_tryCatch]
  rw [guards_bind, guards_read]
  apply guards_attempt wired (ordinary _ _ rfl)
  · exact fun _ _ kept => ⟨kept, nofun⟩
  intro _ _ kept _
  apply guards_attempt kept (ordinary _ _ rfl)
  · exact fun _ _ kept => ⟨kept, nofun⟩
  intro _ _ kept _
  apply guards_attempt kept (permitted _)
  · exact fun _ _ kept => ⟨kept, nofun⟩
  intro result changed kept passed
  apply guards_attempt (drivenWired _ kept) (ordinary _ _ rfl)
  · exact fun _ _ kept => ⟨kept, nofun⟩
  intro _ _ kept _
  refine ⟨releasedWired _ kept, ?_⟩
  intro _
  have drove : result = true := passed
  rw [drove]
  exact ⟨_, by simp, changed, rfl⟩

theorem guards_setPs (ordinary : Ordinary allowed)
    (permitted : ∀ more, allowed more (.requestOutput 2 3 1))
    {state : Manager} (wired : state.Wired limitJson) :
    setPs.guards (Manager.Wired limitJson) allowed (wiredEnding limitJson
      fun done more _ => done = true → ∃ call ∈ more, Drove 2 3 1 call) [] state :=
  guards_driveLine ordinary permitted (fun _ wired => wired.psEnable)
    (fun _ wired => wired.withPsEnable) (fun _ wired => wired.withPsEnable) wired

theorem guards_unsetPs (ordinary : Ordinary allowed)
    (permitted : ∀ more, allowed more (.requestOutput 2 3 0)) {state : Manager}
    (wired : state.Wired limitJson) :
    unsetPs.guards (Manager.Wired limitJson) allowed (wiredEnding limitJson
      fun done more _ => done = true → ∃ call ∈ more, Drove 2 3 0 call) [] state :=
  guards_driveLine ordinary permitted (fun _ wired => wired.psEnable)
    (fun _ wired => wired.withPsEnable) (fun _ wired => wired.withPsEnable) wired

/-- The setter of the alarm drives the line of the switch. -/
theorem guards_setAlarmGpio (ordinary : Ordinary allowed)
    (permitted : ∀ more, allowed more (.requestOutput 0 6 1)) {state : Manager}
    (wired : state.Wired limitJson) :
    setAlarmGpio.guards (Manager.Wired limitJson) allowed (wiredEnding limitJson
      fun done more _ => done = true → ∃ call ∈ more, Drove 0 6 1 call) [] state :=
  guards_driveLine ordinary permitted (fun _ wired => wired.switchGpio)
    (fun _ wired => wired.withSwitchGpio) (fun _ wired => wired) wired

theorem guards_setSr (ordinary : Ordinary allowed)
    (permitted : ∀ more, allowed more (.requestOutput 1 0 0))
    {state : Manager} (wired : state.Wired limitJson) :
    setSr.guards (Manager.Wired limitJson) allowed (wiredEnding limitJson
      fun done more _ => done = true → ∃ call ∈ more, Drove 1 0 0 call) [] state :=
  guards_driveLine ordinary permitted (fun _ wired => wired.sysreset)
    (fun _ wired => wired.withSysreset) (fun _ wired => wired.withSysreset) wired

theorem Ordinary.after (ordinary : Ordinary allowed) (front : List (Call interface Manager)) :
    Ordinary fun later => allowed (front ++ later) :=
  fun later op plain => ordinary (front ++ later) op plain

theorem guards_waitForDBus (ordinary : Ordinary allowed) (attempts : Nat)
    (history : List (Call interface Manager)) {state : Manager} (wired : state.Wired limitJson) :
    (waitForDBus attempts).guards (Manager.Wired limitJson) allowed
      (wiredEnding limitJson fun _ _ _ => True) history state := by
  induction attempts generalizing history state with
  | zero => exact ⟨wired, ordinary _ _ rfl, fun _ _ kept => ⟨kept, trivial⟩⟩
  | succ attempts ih =>
      refine ⟨wired, ordinary _ _ rfl, ?_⟩
      intro ready changed kept
      cases ready with
      | true => exact ⟨kept, trivial⟩
      | false => exact ih _ kept

/-- The service was observed active. -/
def Active (serviceName : String) (call : Call interface Manager) : Prop :=
  ∃ state, call = ⟨state, .activeState serviceName, some "active"⟩

theorem guards_queryService (ordinary : Ordinary allowed) (serviceName : String) (attempts : Nat)
    (history : List (Call interface Manager)) {state : Manager} (wired : state.Wired limitJson) :
    (queryService serviceName attempts).guards (Manager.Wired limitJson) allowed
      (wiredEnding limitJson fun active more _ => active = true →
        ∃ call ∈ more, Active serviceName call) history state := by
  induction attempts generalizing history state with
  | zero => exact ⟨wired, nofun⟩
  | succ attempts ih =>
      refine ⟨wired, ordinary _ _ rfl, ?_⟩
      intro answer changed kept
      cases answer with
      | none => exact ih _ kept
      | some found =>
          refine ⟨kept, ?_⟩
          intro active
          have same : found = "active" := eq_of_beq active
          rw [same]
          exact ⟨_, by simp, changed, rfl⟩

theorem guards_isServiceActive (ordinary : Ordinary allowed) (serviceName : String)
    {state : Manager} (wired : state.Wired limitJson) :
    (isServiceActive serviceName).guards (Manager.Wired limitJson) allowed
      (wiredEnding limitJson fun active more _ => active = true →
        ∃ call ∈ more, Active serviceName call) [] state := by
  rw [isServiceActive, guards_bind]
  apply guards_mono (guards_waitForDBus ordinary 10 [] wired)
  · intro _ history next kept
    exact guards_queryService ordinary serviceName 5 history kept.1
  · exact fun _ _ _ kept => kept
  · exact fun _ _ _ kept => kept

/-- What was observed of a service is known to the rest of the program. -/
theorem guards_service {Value' : Type} {serviceName : String}
    {rest : Bool → Program interface Manager Value'}
    {returns : Value' → List (Call interface Manager) → Manager → Prop}
    (ordinary : Ordinary allowed) {state : Manager} (wired : state.Wired limitJson)
    (goes : ∀ (active : Bool) more next, next.Wired limitJson →
      (active = true → ∃ call ∈ more, Active serviceName call) →
      (rest active).guards (Manager.Wired limitJson) (fun later => allowed (more ++ later))
        (wiredEnding limitJson fun value later => returns value (more ++ later)) [] next) :
    (isServiceActive serviceName >>= rest).guards (Manager.Wired limitJson) allowed
      (wiredEnding limitJson returns) [] state := by
  apply guards_then (guards_isServiceActive ordinary serviceName wired)
  · intro active more next ended
    exact goes active more next ended.1 ended.2
  · exact fun _ _ _ kept => kept
  · exact fun _ _ _ kept => kept

/-- The recorded status of the fan controller was observed in this call. -/
theorem guards_watchServices (ordinary : Ordinary allowed) {state : Manager}
    (wired : state.Wired limitJson) :
    watchServices.guards (Manager.Wired limitJson) allowed (wiredEnding limitJson
      fun _ more next => next.fanControllerServiceStatus = true →
        ∃ call ∈ more, Active fanControllerService call) [] state := by
  unfold watchServices
  apply guards_service ordinary wired
  intro temp first state wired _
  apply guards_service (ordinary.after _) wired
  intro voltage second state wired _
  apply guards_service ((ordinary.after _).after _) wired
  intro fanController third state wired observed
  apply guards_service (((ordinary.after _).after _).after _) wired
  intro mandatorySensor fourth state wired _
  apply guards_service ((((ordinary.after _).after _).after _).after _) wired
  intro gpio fifth state wired _
  apply guards_service (((((ordinary.after _).after _).after _).after _).after _) wired
  intro ipmi sixth state wired _
  refine ⟨⟨wired.limits, wired.adcs, wired.sysreset, wired.psEnable, wired.switchGpio⟩, ?_⟩
  intro active
  obtain ⟨call, member, seen⟩ := observed active
  exact ⟨call, by simp [member], seen⟩

/-- A report that the fan controller runs rests on an observation. -/
theorem guards_getFanControllerStatus (ordinary : Ordinary allowed) {state : Manager}
    (wired : state.Wired limitJson) :
    getFanControllerStatus.guards (Manager.Wired limitJson) allowed (wiredEnding limitJson
      fun running more _ => running = true → ∃ call ∈ more, Active fanControllerService call) []
      state := by
  rw [getFanControllerStatus, guards_bind]
  apply guards_mono (guards_watchServices ordinary wired)
  · exact fun _ _ _ ended => ended
  · exact fun _ _ _ kept => kept
  · exact fun _ _ _ kept => kept

/-- The voltage lies strictly within the bound of the rail. -/
def Passes (limitJson : Value ℚ) (rail : Rail) (bound : Bound) (vCurrent : ℚ) : Prop :=
  ∃ limit ∈ limitOf limitJson rail.name bound.key, bound.admits limit vCurrent = true

instance (limitJson : Value ℚ) (rail : Rail) (bound : Bound) (vCurrent : ℚ) :
    Decidable (Passes limitJson rail bound vCurrent) :=
  inferInstanceAs (Decidable (∃ limit ∈ limitOf limitJson rail.name bound.key, _))

/-- The turn of a rail in a pass: its file is read, the reading is scaled, and the voltage is
compared with both limits. What a comparison has seen may depend on the reading and on the state. -/
def Turned (seen : Nat → Rail → Int → Bound → Manager → Prop) (rail : Rail)
    (turn : List (Call interface Manager)) : Prop :=
  ∃ index content raw read scale above below, rails[index]? = some rail ∧
    stoi content = some raw ∧
    turn = [⟨read, .readFile rail.path, content⟩, ⟨scale, .scale index, ()⟩,
      ⟨above, .compare index .min, ()⟩, ⟨below, .compare index .max, ()⟩] ∧
    seen index rail raw .min above ∧ seen index rail raw .max below

/-- Both comparisons of the turn have found the voltage in the element within the limits. -/
def Compared (limitJson : Value ℚ) : Rail → List (Call interface Manager) → Prop :=
  Turned fun index rail _ bound state =>
    ∃ adc ∈ state.adcs[index]?, Passes limitJson rail bound adc.vCurrent

/-- The voltage that was read in the turn lies strictly between the limits of the rail. -/
def Nominal (limitJson : Value ℚ) : Rail → List (Call interface Manager) → Prop :=
  Turned fun _ rail raw bound _ => Passes limitJson rail bound (rail.voltage raw)

theorem guards_readLimit {Value' : Type} {name bound : String}
    {rest : ℚ → Program interface Manager Value'} {ending : Ending interface Manager Value'}
    {history : List (Call interface Manager)} {state : Manager} {shared : Manager → Prop}
    (fails : ending.thrown .typeError history state)
    (goes : ∀ limit, limitOf state.limitJson name bound = some limit →
      (rest limit).guards shared allowed ending history state) :
    (readLimit name bound >>= rest).guards shared allowed ending history state := by
  simp only [readLimit, guards_bind, guards_read]
  cases found : limitOf state.limitJson name bound with
  | none => exact fails
  | some limit => exact goes limit found

theorem Manager.Wired.element {manager : Manager} (wired : manager.Wired limitJson) {index : Nat}
    {rail : Rail} (present : rails[index]? = some rail) :
    ∃ adc, manager.adcs[index]? = some adc ∧
      adc.wiring = (rail.name, rail.path, rail.scaleCoeff) := by
  have entry := congrArg (·[index]?) wired.adcs
  simp only [List.getElem?_map, present, Option.map_some] at entry
  exact Option.map_eq_some_iff.mp entry

/-- A comparison that passes has found the voltage in the element within the limit. -/
theorem guards_compareVoltage {Value' : Type} {index : Nat} {bound : Bound} {limit : ℚ}
    {rest : Bool → Program interface Manager Value'} {ending : Ending interface Manager Value'}
    {history : List (Call interface Manager)} {state : Manager} {shared : Manager → Prop}
    (kept : shared state) (permitted : allowed history (.compare index bound))
    (goes : ∀ (passed : Bool) changed, shared changed →
      (passed = true → ∃ adc ∈ changed.adcs[index]?, bound.admits limit adc.vCurrent = true) →
      (rest passed).guards shared allowed ending
        (history ++ [⟨changed, .compare index bound, ()⟩]) changed) :
    (compareVoltage index bound limit >>= rest).guards shared allowed ending history state := by
  unfold compareVoltage
  rw [guards_bind, guards_bind]
  refine ⟨kept, permitted, ?_⟩
  intro _ changed still
  apply goes _ changed still
  intro passed
  exact (Option.any_eq_true _ _).mp passed

/-- A rail that is found safe has passed both comparisons. -/
theorem guards_checkRail {index : Nat} {rail : Rail} {ending : Ending interface Manager Bool}
    {history : List (Call interface Manager)} {state : Manager} (ordinary : Ordinary allowed)
    (wired : state.Wired limitJson)
    (fails : ∀ more next, next.Wired limitJson → ending.thrown .typeError more next)
    (goes : ∀ (safe : Bool) more next, next.Wired limitJson →
      (safe = true → ∃ above below,
        more = [⟨above, .compare index .min, ()⟩, ⟨below, .compare index .max, ()⟩] ∧
        (∃ adc ∈ above.adcs[index]?, Passes limitJson rail .min adc.vCurrent) ∧
        ∃ adc ∈ below.adcs[index]?, Passes limitJson rail .max adc.vCurrent) →
      ending.value safe (history ++ more) next) :
    (checkRail index rail.name).guards (Manager.Wired limitJson) allowed ending history state := by
  unfold checkRail
  apply guards_readLimit (fails _ _ wired)
  intro low lowLimit
  apply guards_readLimit (fails _ _ wired)
  intro high highLimit
  rw [wired.limits] at lowLimit highLimit
  apply guards_compareVoltage wired (ordinary _ _ rfl)
  intro above first wired aboveLow
  cases above with
  | false =>
      rw [if_neg nofun, guards_bind, guards_pure]
      exact goes false _ _ (wired.updateAdc index fun _ => rfl) nofun
  | true =>
      rw [if_pos rfl]
      apply guards_compareVoltage wired (ordinary _ _ rfl)
      intro below second wired belowHigh
      simp only [guards_bind, guards_modify, guards_pure, List.append_assoc]
      apply goes below
      · exact wired.updateAdc index fun _ => rfl
      intro passed
      obtain ⟨lowest, found, admitted⟩ := aboveLow rfl
      obtain ⟨highest, found', admitted'⟩ := belowHigh passed
      exact ⟨first, second, rfl, ⟨lowest, found, low, lowLimit, admitted⟩,
        highest, found', high, highLimit, admitted'⟩

/-- A safe rail has had its turn. -/
theorem guards_updateRail (ordinary : Ordinary allowed) {index : Nat} {rail : Rail}
    (present : rails[index]? = some rail) {state : Manager} (wired : state.Wired limitJson) :
    (updateRail index).guards (Manager.Wired limitJson) allowed (wiredEnding limitJson
      fun safe more _ => safe = true → Compared limitJson rail more) [] state := by
  obtain ⟨adc, found, wiring⟩ := wired.element present
  have name : adc.name = rail.name := congrArg Prod.fst wiring
  have path : adc.path = rail.path := congrArg (fun wiring => wiring.2.1) wiring
  simp only [updateRail, guards_bind, guards_read, found]
  refine ⟨wired, ordinary _ _ rfl, ?_⟩
  intro content changed kept
  change Program.guards _ _ (takeReading index adc content) _ _ _
  unfold takeReading
  cases raw : stoi content with
  | none => exact kept
  | some rawReading =>
      simp only [guards_bind, guards_modify]
      refine ⟨kept.updateAdc index fun _ => rfl, ordinary _ _ rfl, ?_⟩
      intro _ scale kept
      rw [name]
      refine guards_checkRail ordinary ?_ ?_ ?_
      · exact kept.updateAdc index fun _ => rfl
      · exact fun _ _ wired => wired
      intro safe more next checked passes
      refine ⟨checked, ?_⟩
      intro passed
      obtain ⟨above, below, rfl, within⟩ := passes passed
      refine ⟨index, content, rawReading, changed, scale, above, below, present, raw, ?_, within⟩
      rw [path]
      rfl

/-- A complete pass consists of one turn of each rail in order. -/
theorem guards_updateRails (ordinary : Ordinary allowed) (indices : List Nat) (chosen : List Rail)
    (matched : indices.map (rails[·]?) = chosen.map some) {state : Manager}
    (wired : state.Wired limitJson) :
    (updateRails indices).guards (Manager.Wired limitJson) allowed (wiredEnding limitJson
      fun complete more _ => complete = true →
        ∃ pass : List (List (Call interface Manager)), more = pass.flatten ∧
          List.Forall₂ (Compared limitJson) chosen pass) [] state := by
  induction indices generalizing chosen state allowed with
  | nil =>
      cases chosen with
      | nil => exact ⟨wired, fun _ => ⟨[], rfl, .nil⟩⟩
      | cons rail others => cases matched
  | cons index rest ih =>
      cases chosen with
      | nil => cases matched
      | cons rail others =>
          obtain ⟨present, matched⟩ := List.cons.inj matched
          unfold updateRails
          apply guards_then (guards_updateRail ordinary present wired)
          · rintro safe more next ⟨wired, compared⟩
            cases safe with
            | false => exact ⟨wired, nofun⟩
            | true =>
                apply guards_mono (ih (ordinary.after more) others matched wired)
                · rintro complete later last ⟨wired, passed⟩
                  refine ⟨wired, fun done => ?_⟩
                  obtain ⟨pass, rfl, each⟩ := passed done
                  exact ⟨more :: pass, rfl, .cons (compared rfl) each⟩
                · exact fun _ _ _ kept => kept
                · exact fun _ _ _ kept => kept
          · exact fun _ _ _ kept => kept
          · exact fun _ _ _ kept => kept

theorem guards_recheckRails (ordinary : Ordinary allowed) (indices : List Nat)
    (history : List (Call interface Manager)) {state : Manager} (wired : state.Wired limitJson) :
    (recheckRails indices).guards (Manager.Wired limitJson) allowed
      (wiredEnding limitJson fun _ more _ => history <+: more) history state := by
  induction indices generalizing history state with
  | nil => exact ⟨wired, List.prefix_rfl⟩
  | cons index rest ih =>
      refine ⟨wired, ordinary _ _ rfl, ?_⟩
      intro _ changed kept
      change Program.guards _ _ (if _ = true then _ else _) _ _ _
      rw [guards_ite]
      split
      next =>
        apply guards_mono (ih _ kept)
        · rintro safe more next ⟨wired, later⟩
          exact ⟨wired, (List.prefix_append _ _).trans later⟩
        · exact fun _ _ _ kept => kept
        · exact fun _ _ _ kept => kept
      next => exact ⟨kept, List.prefix_append _ _⟩

/-- A complete pass over the rails, and what came after it. -/
def Swept (limitJson : Value ℚ) (calls : List (Call interface Manager)) : Prop :=
  ∃ pass : List (List (Call interface Manager)), pass.flatten <+: calls ∧
    List.Forall₂ (Compared limitJson) rails pass

/-- Readings that are reported nominal rest on a complete pass over the rails. -/
theorem guards_updateReadings (ordinary : Ordinary allowed) {state : Manager}
    (wired : state.Wired limitJson) :
    updateReadings.guards (Manager.Wired limitJson) allowed (wiredEnding limitJson
      fun nominal more _ => nominal = true → Swept limitJson more) [] state := by
  have length : state.adcs.length = rails.length := by
    have same := congrArg List.length wired.adcs
    rw [List.length_map, List.length_map] at same
    exact same
  simp only [updateReadings, guards_bind, guards_read, length]
  apply guards_mono (guards_updateRails ordinary _ rails rfl wired)
  · rintro complete more next ⟨wired, passed⟩
    cases complete with
    | false => exact ⟨wired, nofun⟩
    | true =>
        obtain ⟨pass, rfl, each⟩ := passed rfl
        apply guards_mono (guards_recheckRails ordinary _ _ wired)
        · rintro nominal more next ⟨wired, later⟩
          exact ⟨wired, fun _ => ⟨pass, later, each⟩⟩
        · exact fun _ _ _ kept => kept
        · exact fun _ _ _ kept => kept
  · exact fun _ _ _ kept => kept
  · exact fun _ _ _ kept => kept

theorem guards_writeLogsToFlash (ordinary : Ordinary allowed) {state : Manager}
    (wired : state.Wired limitJson) :
    writeLogsToFlash.guards (Manager.Wired limitJson) allowed
      (wiredEnding limitJson fun _ _ _ => True) [] state :=
  ⟨wired, ordinary _ _ rfl, fun _ _ kept => ⟨kept, trivial⟩⟩

theorem guards_publishGpio (ordinary : Ordinary allowed) {flag : Bool} {name : String}
    {value : Int} {published : Manager → Manager} (kept : ∀ manager : Manager,
      manager.Wired limitJson → (published manager).Wired limitJson)
    {history : List (Call interface Manager)} {state : Manager} (wired : state.Wired limitJson) :
    (publishGpio flag name value published).guards (Manager.Wired limitJson) allowed
      (wiredEnding limitJson fun _ _ _ => True) history state := by
  unfold publishGpio
  cases flag with
  | false => exact ⟨wired, trivial⟩
  | true =>
      simp only [if_true, guards_tryCatch]
      apply guards_attempt wired (ordinary _ _ rfl)
      · exact fun _ _ wired => ⟨wired, trivial⟩
      · exact fun _ _ wired _ => ⟨kept _ wired, trivial⟩

theorem guards_watchGpios (ordinary : Ordinary allowed) {state : Manager}
    (wired : state.Wired limitJson) :
    watchGpios.guards (Manager.Wired limitJson) allowed
      (wiredEnding limitJson fun _ _ _ => True) [] state := by
  unfold watchGpios
  rw [guards_bind, guards_read]
  dsimp only
  rw [guards_ite]
  split
  next =>
    apply guards_attempt wired (ordinary _ _ rfl)
    · exact fun _ _ wired => wired
    intro _ changed wired _
    rw [guards_bind, guards_read]
    dsimp only
    rw [guards_bind, publishPs, guards_bind, guards_read]
    apply guards_mono (guards_publishGpio ordinary (fun _ wired => wired.withPsEnable) wired)
    · intro _ _ next ended
      dsimp only
      rw [publishSr, guards_bind, guards_read]
      exact guards_publishGpio ordinary (fun _ wired => wired.withSysreset) ended.1
    · exact fun _ _ _ kept => kept
    · exact fun _ _ _ kept => kept
  next => exact ⟨wired, trivial⟩

theorem guards_scanPaths (ordinary : Ordinary allowed) (alarm : Bool) (paths : List String)
    (history : List (Call interface Manager)) {state : Manager} (wired : state.Wired limitJson) :
    (scanPaths alarm paths).guards (Manager.Wired limitJson) allowed
      (wiredEnding limitJson fun _ _ _ => True) history state := by
  induction paths generalizing alarm history state with
  | nil => exact ⟨wired, trivial⟩
  | cons path rest ih =>
      refine ⟨wired, ordinary _ _ rfl, ?_⟩
      intro low changed wired
      cases low with
      | none => exact ih _ _ wired
      | some low =>
          refine ⟨wired, ordinary _ _ rfl, ?_⟩
          intro high changed wired
          cases high with
          | none => exact ih _ _ wired
          | some high =>
              change Program.guards _ _ (if (low || high) = true then _ else _) _ _ _
              cases raised : low || high with
              | false => exact ih _ _ wired
              | true =>
                  refine ⟨wired, ordinary _ _ rfl, ?_⟩
                  intro reading changed wired
                  cases reading with
                  | none => exact ih _ _ wired
                  | some reading => exact ⟨wired, trivial⟩

theorem guards_scanStub (ordinary : Ordinary allowed) (stub : String)
    (history : List (Call interface Manager)) {state : Manager} (wired : state.Wired limitJson) :
    (scanStub stub).guards (Manager.Wired limitJson) allowed
      (wiredEnding limitJson fun _ _ _ => True) history state := by
  refine ⟨wired, ordinary _ _ rfl, ?_⟩
  intro paths changed wired
  cases paths with
  | none => exact ⟨wired, trivial⟩
  | some paths => exact guards_scanPaths ordinary _ _ _ wired

theorem guards_scanAlarms (ordinary : Ordinary allowed) {state : Manager}
    (wired : state.Wired limitJson) :
    scanAlarms.guards (Manager.Wired limitJson) allowed
      (wiredEnding limitJson fun _ _ _ => True) [] state := by
  unfold scanAlarms
  rw [guards_bind]
  apply guards_mono (guards_watchServices ordinary wired)
  · intro _ history next watched
    dsimp only
    rw [guards_bind]
    apply guards_mono (guards_scanStub ordinary _ history watched.1)
    · intro tempAlarm later last scanned
      dsimp only
      rw [guards_bind]
      apply guards_mono (guards_scanStub ordinary _ later scanned.1)
      · exact fun _ _ _ ended => ended
      · exact fun _ _ _ kept => kept
      · exact fun _ _ _ kept => kept
    · exact fun _ _ _ kept => kept
    · exact fun _ _ _ kept => kept
  · exact fun _ _ _ kept => kept
  · exact fun _ _ _ kept => kept

end Specs

end Chassis.Boot
