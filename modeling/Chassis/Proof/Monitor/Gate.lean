import Chassis.Proof.Boot.Outline
import Mathlib.Data.List.Nodup
import Chassis.Proof.Monitor.Round

namespace Chassis.Boot
open Effect Program Json Monitor

/-- The files have fixed contents. -/
def files (contents : String → List UInt8) : Environment interface := fun _ op =>
  match op with
  | .readFile path => contents path
  | other => (default : other.Answer)

/-- The content converts to a reading strictly between the limits of the rail. -/
def Admits (limitJson : Value ℚ) (rail : Rail) (content : List UInt8) : Prop :=
  ∃ raw limits, stoi content = some raw ∧ limitsOf limitJson rail.name = some limits ∧
    limits.1 < rail.voltage raw ∧ rail.voltage raw < limits.2

section Gate

variable {limitJson : Value ℚ} {contents : String → List UInt8}

/-- The element after a pass that found it safe. -/
def AdcElement.pass (contents : String → List UInt8) (adc : AdcElement) : AdcElement :=
  { adc with
    rawReading := rawOf (contents adc.path)
    vCurrent := scaled adc.scaleCoeff (rawOf (contents adc.path))
    safe := true }

theorem AdcElement.pass_wiring (contents : String → List UInt8) (adc : AdcElement) :
    (adc.pass contents).wiring = adc.wiring := rfl

/-- The element with a new reading. -/
def AdcElement.read (raw : Int) (adc : AdcElement) : AdcElement :=
  { adc with rawReading := raw, vCurrent := scaled adc.scaleCoeff raw }

theorem run_readLimit (name bound : String) (manager : Manager) (position : Nat) :
    (readLimit name bound).run (files contents) manager position =
      ⟨match limitOf manager.limitJson name bound with
        | some limit => .value limit
        | none => .thrown .typeError, manager, []⟩ := by
  simp only [readLimit, run_bind, run_read, Run.andThen]
  cases limitOf manager.limitJson name bound with
  | none => rfl
  | some limit => rfl

/-- A comparison that nothing comes before sees the voltage in the element. -/
theorem run_compareVoltage {index : Nat} (bound : Bound) (limit : ℚ) {manager : Manager}
    {adc : AdcElement} (found : manager.adcs[index]? = some adc) (position : Nat) :
    (compareVoltage index bound limit).run (files contents) manager position =
      ⟨.value (bound.admits limit adc.vCurrent), manager,
        [⟨manager, .compare index bound, ()⟩]⟩ := by
  simp only [compareVoltage, run_bind, run_read, andThen_value, run_pure]
  rw [run_ask, andThen_value, found]
  rfl

/-- A check needs both limits and records whether the voltage lies strictly between them. -/
theorem run_checkRail {index : Nat} {name : String} {manager : Manager} {adc : AdcElement}
    (found : manager.adcs[index]? = some adc) (position : Nat) :
    ∃ calls, (checkRail index name).run (files contents) manager position =
      match limitsOf manager.limitJson name with
      | none => ⟨.thrown .typeError, manager, calls⟩
      | some limits =>
          ⟨.value (decide (adc.vCurrent > limits.1 ∧ adc.vCurrent < limits.2)),
            manager.updateAdc index fun other => { other with
              safe := decide (adc.vCurrent > limits.1 ∧ adc.vCurrent < limits.2) }, calls⟩ := by
  simp only [checkRail, run_bind, run_readLimit, limitsOf]
  cases limitOf manager.limitJson name "min" with
  | none => exact ⟨_, rfl⟩
  | some low =>
      cases highLimit : limitOf manager.limitJson name "max" with
      | none =>
          simp only [andThen_value, highLimit]
          exact ⟨_, rfl⟩
      | some high =>
          simp only [andThen_value, highLimit, run_compareVoltage _ _ found]
          by_cases above : adc.vCurrent > low
          · by_cases below : adc.vCurrent < high
            · simp [Bound.admits, above, below, run_compareVoltage _ _ found]
            · simp [Bound.admits, above, below, run_compareVoltage _ _ found]
          · simp [Bound.admits, above]

theorem updateAdc_updateAdc (manager : Manager) (index : Nat) (first second : AdcElement → AdcElement) :
    (manager.updateAdc index first).updateAdc index second =
      manager.updateAdc index fun adc => second (first adc) := by
  rw [Manager.updateAdc, Manager.updateAdc, Manager.updateAdc, List.modify_modify_eq]
  rfl

/-- A converted reading is recorded and checked. -/
theorem run_takeReading {manager : Manager} {index : Nat} {adc : AdcElement}
    {content : List UInt8} {raw : Int} (found : manager.adcs[index]? = some adc)
    (converted : stoi content = some raw) (position : Nat) :
    ∃ calls, (takeReading index adc content).run (files contents) manager position =
      match limitsOf manager.limitJson adc.name with
      | none => ⟨.thrown .typeError, manager.updateAdc index (AdcElement.read raw), calls⟩
      | some limits =>
          let voltage := scaled adc.scaleCoeff raw
          ⟨.value (decide (voltage > limits.1 ∧ voltage < limits.2)),
            manager.updateAdc index fun other => { other.read raw with
              safe := decide (voltage > limits.1 ∧ voltage < limits.2) }, calls⟩ := by
  have present : (manager.updateAdc index (AdcElement.read raw)).adcs[index]? =
      some (adc.read raw) := by
    rw [Manager.updateAdc, List.getElem?_modify_eq, found]
    rfl
  have taken : (takeReading index adc content).run (files contents) manager position =
      let check := (checkRail index adc.name).run (files contents)
        (manager.updateAdc index (AdcElement.read raw)) (position + 1)
      { check with
        calls := ⟨manager.updateAdc index fun other => { other with rawReading := raw },
          .scale index, ()⟩ :: check.calls } := by
    rw [takeReading, converted]
    dsimp only
    rw [run_bind, run_modify, andThen_value, run_bind, run_ask, andThen_value, run_bind, run_modify,
      andThen_value, updateAdc_updateAdc]
    rfl
  obtain ⟨calls, checked⟩ := @run_checkRail contents index adc.name _ _ present (position + 1)
  have unmoved : (manager.updateAdc index (AdcElement.read raw)).limitJson = manager.limitJson := rfl
  rw [unmoved] at checked
  rw [taken, checked]
  cases limitsOf manager.limitJson adc.name with
  | none => exact ⟨_, rfl⟩
  | some limits =>
      dsimp only
      rw [updateAdc_updateAdc]
      exact ⟨_, rfl⟩

/-- A rail is read from its file once. -/
theorem run_updateRail {manager : Manager} {index : Nat} {adc : AdcElement}
    (found : manager.adcs[index]? = some adc) (position : Nat) :
    (updateRail index).run (files contents) manager position =
      (⟨.value (contents adc.path), manager,
        [⟨manager, .readFile adc.path, contents adc.path⟩]⟩ : Run interface Manager _).andThen
          fun content next => (takeReading index adc content).run (files contents) next
            (position + 1) := by
  simp only [updateRail, run_bind, run_read, Run.andThen, found]
  rw [run_ask]
  rfl

/-- An admitted rail is found safe and recorded. -/
theorem run_updateRail_admitted {manager : Manager} (wired : manager.Wired limitJson) {index : Nat}
    {rail : Rail} (present : rails[index]? = some rail)
    (admits : Admits limitJson rail (contents rail.path)) (position : Nat) :
    ∃ calls, (updateRail index).run (files contents) manager position =
      ⟨.value true, manager.updateAdc index (AdcElement.pass contents), calls⟩ := by
  obtain ⟨adc, found, wiring⟩ := wired.element present
  have name : adc.name = rail.name := congrArg Prod.fst wiring
  have path : adc.path = rail.path := congrArg (fun wiring => wiring.2.1) wiring
  have scale : adc.scaleCoeff = rail.scaleCoeff := congrArg (fun wiring => wiring.2.2) wiring
  obtain ⟨raw, limits, converted, both, above, below⟩ := admits
  have content : stoi (contents adc.path) = some raw := by rw [path, converted]
  have safe : decide (scaled adc.scaleCoeff raw > limits.1 ∧ scaled adc.scaleCoeff raw < limits.2) =
      true := by
    rw [scale]
    exact decide_eq_true ⟨above, below⟩
  have same : manager.updateAdc index (AdcElement.pass contents) = manager.updateAdc index
      fun other => { other.read raw with safe := true } := by
    rw [Manager.updateAdc, Manager.updateAdc]
    congr 1
    apply List.ext_getElem?
    intro position
    rw [List.getElem?_modify, List.getElem?_modify]
    split
    next here =>
      subst here
      simp [found, AdcElement.pass, AdcElement.read, rawOf, content]
    next => rfl
  obtain ⟨calls, taken⟩ := run_takeReading found content (position + 1)
  rw [wired.limits, name, both] at taken
  simp only [safe] at taken
  rw [run_updateRail found, andThen_value, taken, same]
  exact ⟨_, rfl⟩

/-- A rail that is not admitted is not found safe. -/
theorem run_updateRail_refused {manager : Manager} (wired : manager.Wired limitJson) {index : Nat}
    {rail : Rail} (present : rails[index]? = some rail)
    (refused : ¬ Admits limitJson rail (contents rail.path)) (position : Nat) :
    ((updateRail index).run (files contents) manager position).outcome ≠ .value true := by
  obtain ⟨adc, found, wiring⟩ := wired.element present
  have name : adc.name = rail.name := congrArg Prod.fst wiring
  have path : adc.path = rail.path := congrArg (fun wiring => wiring.2.1) wiring
  have scale : adc.scaleCoeff = rail.scaleCoeff := congrArg (fun wiring => wiring.2.2) wiring
  rw [run_updateRail found, andThen_value]
  cases content : stoi (contents adc.path) with
  | none => simp [takeReading, content]
  | some raw =>
      obtain ⟨calls, taken⟩ := run_takeReading found content (position + 1)
      rw [wired.limits, name] at taken
      rw [taken]
      cases both : limitsOf limitJson rail.name with
      | none => simp
      | some limits =>
          intro passed
          have within := of_decide_eq_true (Outcome.value.inj passed)
          rw [scale] at within
          exact refused ⟨raw, limits, path ▸ content, both, within⟩

/-- A pass over admitted rails completes and records each of them. -/
theorem run_updateRails_admitted (indices : List Nat) (chosen : List Rail)
    (matched : indices.map (rails[·]?) = chosen.map some) {manager : Manager}
    (wired : manager.Wired limitJson)
    (admits : ∀ rail ∈ chosen, Admits limitJson rail (contents rail.path)) (position : Nat) :
    ((updateRails indices).run (files contents) manager position).outcome = .value true ∧
      ((updateRails indices).run (files contents) manager position).state.adcs =
        indices.foldl (fun adcs index => adcs.modify index (AdcElement.pass contents))
          manager.adcs := by
  induction indices generalizing chosen manager position with
  | nil => exact ⟨rfl, rfl⟩
  | cons index rest ih =>
      cases chosen with
      | nil => cases matched
      | cons rail others =>
          obtain ⟨present, matched⟩ := List.cons.inj matched
          obtain ⟨calls, ran⟩ := run_updateRail_admitted wired present
            (admits rail List.mem_cons_self) position
          simp only [updateRails, run_bind, ran, andThen_value, if_true, List.foldl_cons]
          exact ih others matched (wired.updateAdc index (AdcElement.pass_wiring contents))
            (fun other member => admits other (List.mem_cons_of_mem _ member)) _

/-- A pass that meets a rail that is not admitted does not complete. -/
theorem run_updateRails_refused (indices : List Nat) (chosen : List Rail)
    (matched : indices.map (rails[·]?) = chosen.map some) {manager : Manager}
    (wired : manager.Wired limitJson) {rail : Rail} (member : rail ∈ chosen)
    (refused : ¬ Admits limitJson rail (contents rail.path)) (position : Nat) :
    ((updateRails indices).run (files contents) manager position).outcome ≠ .value true := by
  induction indices generalizing chosen manager position with
  | nil =>
      cases chosen with
      | nil => cases member
      | cons rail others => cases matched
  | cons index rest ih =>
      cases chosen with
      | nil => cases matched
      | cons first others =>
          obtain ⟨present, matched⟩ := List.cons.inj matched
          by_cases admitted : Admits limitJson first (contents first.path)
          · obtain ⟨calls, ran⟩ := run_updateRail_admitted wired present admitted position
            simp only [updateRails, run_bind, ran, andThen_value, if_true]
            have later : rail ∈ others := by
              rcases List.mem_cons.mp member with rfl | later
              · exact absurd admitted refused
              · exact later
            exact ih others matched (wired.updateAdc index (AdcElement.pass_wiring contents)) later _
          · have failed := run_updateRail_refused wired present admitted position
            simp only [updateRails, run_bind, Run.andThen]
            cases ended : ((updateRail index).run (files contents) manager position).outcome with
            | value safe =>
                cases safe with
                | false => simp
                | true => exact absurd ended failed
            | thrown exception => simp
            | fault reason => simp

/-- Flags that nothing changes are found set when all of them are. -/
theorem run_recheckRails (indices : List Nat) (manager : Manager) (position : Nat) :
    ((recheckRails indices).run (files contents) manager position).outcome =
      .value (indices.all fun index => (manager.adcs[index]?).all AdcElement.safe) := by
  induction indices generalizing position with
  | nil => rfl
  | cons index rest ih =>
      simp only [recheckRails, run_bind, run_read, andThen_value, run_ite, List.all_cons]
      rw [run_ask]
      simp only [andThen_value]
      cases (manager.adcs[index]?).all AdcElement.safe with
      | true => exact ih _
      | false => rfl

/-- The gate opens exactly when every rail is admitted. -/
theorem run_updateReadings {manager : Manager} (wired : manager.Wired limitJson) :
    (updateReadings.run (files contents) manager 0).outcome = .value true ↔
      ∀ rail ∈ rails, Admits limitJson rail (contents rail.path) := by
  have length : manager.adcs.length = rails.length := by
    have same := congrArg List.length wired.adcs
    rw [List.length_map, List.length_map] at same
    exact same
  simp only [updateReadings, run_bind, run_read, andThen_value, List.length_nil]
  constructor
  · intro opened rail member
    by_contra refused
    have failed := run_updateRails_refused (List.range manager.adcs.length) rails
      (by rw [length]; rfl) wired member refused 0
    revert opened
    cases ended : ((updateRails (List.range manager.adcs.length)).run (files contents) manager
        0).outcome with
    | value complete =>
        cases complete with
        | false => simp [Run.andThen, ended]
        | true => exact absurd ended failed
    | thrown exception => simp [Run.andThen, ended]
    | fault reason => simp [Run.andThen, ended]
  · intro admits
    obtain ⟨completed, adcs⟩ := run_updateRails_admitted (List.range manager.adcs.length) rails
      (by rw [length]; rfl) wired admits 0
    rw [Data.foldl_modify_range] at adcs
    have flags : (List.range manager.adcs.length).all (fun index =>
        ((manager.adcs.map (AdcElement.pass contents))[index]?).all AdcElement.safe) = true := by
      rw [List.all_eq_true]
      intro index _
      rw [List.getElem?_map]
      cases manager.adcs[index]? with
      | none => rfl
      | some adc => rfl
    simp only [Run.andThen, completed, if_true, run_recheckRails, adcs, flags]

end Gate

/-- The content does not convert to a reading beyond a limit of the rail. -/
def Tolerates (limitJson : Value ℚ) (rail : Rail) (content : List UInt8) : Prop :=
  ∀ raw limits, stoi content = some raw → limitsOf limitJson rail.name = some limits →
    limits.1 ≤ rail.voltage raw ∧ rail.voltage raw ≤ limits.2

/-- The rails that a round of the ADC reaches before it throws for missing limits. -/
def reachedRails (file : Value ℚ) : List Rail :=
  rails.takeWhile fun rail => (limitsOf file rail.name).isSome

/-- After the gate has opened on some readings, a round of the ADC on the same readings and the file
as it is now raises no alarm. -/
def GateAgrees (loaded : Value ℚ) (parsed : Parsed) : Prop :=
  ∀ (manager : Manager) (hwmon : AdcSensor) (contents : String → List UInt8),
    manager.Wired loaded → hwmon.Wired → Quiet hwmon.board →
    (updateReadings.run (files contents) manager 0).outcome = .value true →
    Quiet (AdcSensor.round.run (Monitor.files contents parsed) hwmon 0).state.board

theorem reached_rails (file : Value ℚ) (contents : String → List UInt8) :
    reached file (rails.map (Rail.probe contents)) =
      (reachedRails file).map (Rail.probe contents) := by
  rw [reached, List.takeWhile_map]
  rfl

theorem admits_converts {limitJson : Value ℚ} {rail : Rail} {content : List UInt8}
    (admits : Admits limitJson rail content) : (stoi content).isSome := by
  obtain ⟨raw, _, converted, _⟩ := admits
  rw [converted]
  rfl

/-- On admitted readings, a round stays quiet when the file tolerates the readings it reaches. -/
theorem round_quiet {loaded file : Value ℚ} {parsed : Parsed} (left : parsed.value? = some file)
    {hwmon : AdcSensor} (wired : hwmon.Wired) (quiet : Quiet hwmon.board)
    {contents : String → List UInt8}
    (admits : ∀ rail ∈ rails, Admits loaded rail (contents rail.path)) :
    Quiet (AdcSensor.round.run (Monitor.files contents parsed) hwmon 0).state.board ↔
      ∀ rail ∈ reachedRails file, Tolerates file rail (contents rail.path) := by
  have converts : ∀ rail ∈ rails, (stoi (contents rail.path)).isSome :=
    fun rail member => admits_converts (admits rail member)
  rw [run_round wired left converts, reports_quiet file _ (rails_distinct contents) quiet,
    reached_rails, List.forall_mem_map]
  apply forall₂_congr
  intro rail member
  have listed : rail ∈ rails := (List.takeWhile_sublist _).subset member
  obtain ⟨raw, converted⟩ := Option.isSome_iff_exists.mp (converts rail listed)
  simp only [Rail.probe, Tolerates, rawOf, converted, Option.getD_some, Option.some.injEq]
  constructor
  · intro within _ limits same found
    subst same
    exact within limits found
  · intro within limits found
    exact within raw limits rfl found

/-- Some rail has no reading between its limits, or every reading between the loaded limits of a rail
that the round reaches is tolerated by the file. -/
def Covers (loaded : Value ℚ) (parsed : Parsed) : Prop :=
  (∃ rail ∈ rails, ∀ content, ¬ Admits loaded rail content) ∨
    ∀ file, parsed.value? = some file → ∀ rail ∈ reachedRails file, ∀ content,
      Admits loaded rail content → Tolerates file rail content

/-- Contents for all rails, of which one is given. -/
theorem exists_contents {loaded : Value ℚ}
    (admissible : ∀ rail ∈ rails, ∃ content, Admits loaded rail content) {rail : Rail}
    (member : rail ∈ rails) {content : List UInt8} (admits : Admits loaded rail content) :
    ∃ contents : String → List UInt8, contents rail.path = content ∧
      ∀ other ∈ rails, Admits loaded other (contents other.path) := by
  choose chosen admitted using admissible
  have distinct : ∀ first ∈ rails, ∀ second ∈ rails, first.path = second.path →
      first = second := by
    have nodup : (rails.map Rail.path).Nodup := by decide
    exact fun first one second two same => List.inj_on_of_nodup_map nodup one two same
  refine ⟨fun path => if path = rail.path then content
    else ((rails.attach.find? fun other => other.val.path == path).map fun other =>
      chosen other.val other.property).getD [], by simp, ?_⟩
  intro other listed
  by_cases same : other.path = rail.path
  · rw [distinct other listed rail member same]
    simpa using admits
  · simp only [same, if_false]
    cases found : rails.attach.find? fun candidate => candidate.val.path == other.path with
    | none =>
        have missing := List.find?_eq_none.mp found ⟨other, listed⟩ (List.mem_attach _ _)
        simp at missing
    | some candidate =>
        have path : candidate.val.path = other.path := by simpa using List.find?_some found
        have equal := distinct candidate.val candidate.property other listed path
        subst equal
        exact admitted _ _

theorem covers_of_agrees {loaded : Value ℚ} {parsed : Parsed} (agrees : GateAgrees loaded parsed) :
    Covers loaded parsed := by
  by_cases admissible : ∀ rail ∈ rails, ∃ content, Admits loaded rail content
  · right
    intro file left rail member content admits
    have listed : rail ∈ rails := (List.takeWhile_sublist _).subset member
    obtain ⟨contents, same, admitted⟩ := exists_contents admissible listed admits
    have wired := construct_wired loaded fun _ => default
    have after := agrees _ quietMonitor contents wired quietMonitor_wired quietMonitor_quiet
      ((run_updateReadings wired).mpr admitted)
    have tolerated := (round_quiet left quietMonitor_wired quietMonitor_quiet admitted).mp after
      rail member
    rw [same] at tolerated
    exact tolerated
  · left
    push Not at admissible
    exact admissible

theorem agrees_of_covers {loaded : Value ℚ} {parsed : Parsed} (covers : Covers loaded parsed) :
    GateAgrees loaded parsed := by
  intro manager hwmon contents wired hwmonWired quiet opened
  have admitted := (run_updateReadings wired).mp opened
  rcases covers with ⟨rail, listed, never⟩ | tolerated
  · exact absurd (admitted rail listed) (never _)
  · cases left : parsed.value? with
    | none =>
        cases parsed with
        | accepted value => cases left
        | rejected value => cases left
        | outOfRange =>
            rw [run_round_outOfRange hwmonWired
              (fun rail listed => admits_converts (admitted rail listed)) 0]
            exact quiet
    | some file =>
        apply (round_quiet left hwmonWired quiet admitted).mpr
        intro rail member
        have listed : rail ∈ rails := (List.takeWhile_sublist _).subset member
        exact tolerated file left rail member _ (admitted rail listed)

/-- The least and the greatest raw reading that the loaded limits of a rail admit decide whether the
file tolerates all of them. -/
theorem agrees_of_extremes {loaded : Value ℚ} {parsed : Parsed}
    (extremes : ∀ file, parsed.value? = some file → ∀ rail ∈ reachedRails file,
      ∃ least greatest : Int,
        (∀ content raw, Admits loaded rail content → stoi content = some raw →
          least ≤ raw ∧ raw ≤ greatest) ∧
        ∀ limits, limitsOf file rail.name = some limits →
          limits.1 ≤ rail.voltage least ∧ rail.voltage greatest ≤ limits.2) :
    GateAgrees loaded parsed := by
  apply agrees_of_covers
  right
  intro file left rail member content admits raw limits converted found
  have listed : rail ∈ rails := (List.takeWhile_sublist _).subset member
  obtain ⟨least, greatest, spans, tolerated⟩ := extremes file left rail member
  obtain ⟨above, below⟩ := spans content raw admits converted
  obtain ⟨low, high⟩ := tolerated limits found
  exact ⟨low.trans (voltage_mono listed above), (voltage_mono listed below).trans high⟩

/-- The gate and the alarm monitor agree for exactly the edits that the loaded limits cover. -/
theorem gateAgrees_iff (loaded : Value ℚ) (parsed : Parsed) :
    GateAgrees loaded parsed ↔ Covers loaded parsed :=
  ⟨covers_of_agrees, agrees_of_covers⟩

theorem gateAgrees_fails : ¬ ∀ (loaded : Value ℚ) (parsed : Parsed), GateAgrees loaded parsed := by
  intro agrees
  -- An edit lowers the upper limit of the first rail to 11.5 V while it reads 12 V.
  have admitted : ∀ rail ∈ rails, Admits (shippedLimits (63 / 5)) rail (ascii "2047") := by
    have each : ∀ rail ∈ rails, ∃ limits ∈ limitsOf (shippedLimits (63 / 5)) rail.name,
        limits.1 < rail.voltage 2047 ∧ rail.voltage 2047 < limits.2 := by
      decide +kernel
    intro rail member
    obtain ⟨limits, both, within⟩ := each rail member
    exact ⟨2047, limits, by decide +kernel, both, within⟩
  rcases covers_of_agrees (agrees (shippedLimits (63 / 5))
    (.accepted (shippedLimits (23 / 2)))) with ⟨rail, listed, never⟩ | tolerated
  · exact never _ (admitted rail listed)
  · have rail : ∃ rail ∈ reachedRails (shippedLimits (23 / 2)), ∃ limits ∈
        limitsOf (shippedLimits (23 / 2)) rail.name,
        ¬ rail.voltage 2047 ≤ limits.2 := by decide +kernel
    obtain ⟨rail, member, limits, both, beyond⟩ := rail
    have listed : rail ∈ rails := (List.takeWhile_sublist _).subset member
    exact beyond (tolerated _ rfl rail member _ (admitted rail listed) 2047 limits
      (by decide +kernel) both).2

end Chassis.Boot
