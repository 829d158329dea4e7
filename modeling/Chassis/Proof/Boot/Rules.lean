import Chassis.Proof.Boot.Outline

namespace Chassis.Boot
open Effect Program Contract Json Monitor

/-- A contract that follows the boot sequence: each loop of main leads to the next label with what
it has observed, and the other threads need nothing. -/
structure BootRules (limitJson : Value ℚ) (contract : Contract interface Manager Label) : Prop where
  shared : contract.shared = Manager.Wired limitJson
  ordinary : Ordinary contract.allowed
  psEnable : ∀ history value, contract.allowed history (.requestOutput 2 3 value)
  switchGpio : ∀ history, contract.allowed history (.requestOutput 0 6 1)
  sysreset : ∀ history more, contract.entered .setSr history →
    contract.allowed (history ++ more) (.requestOutput 1 0 0)
  append : ∀ label history more, contract.entered label history →
    contract.entered label (history ++ more)
  switchOn : ∀ history more, contract.entered .waitForSwitch history →
    (∃ call ∈ more, SwitchOn call) → contract.entered .getFanControllerStatus (history ++ more)
  fanController : ∀ history more, contract.entered .getFanControllerStatus history →
    (∃ call ∈ more, Active fanControllerService call) → contract.entered .setPs (history ++ more)
  psEnabled : ∀ history more, contract.entered .setPs history →
    (∃ call ∈ more, Drove 2 3 1 call) → contract.entered .updateReadings (history ++ more)
  nominal : ∀ history more, contract.entered .updateReadings history →
    Swept limitJson more → contract.entered .setSr (history ++ more)
  idle : ∀ history, contract.entered .idle history
  logThread : ∀ heartbeat history, contract.entered (.logThread heartbeat) history
  watchAlarms : ∀ history, contract.entered .watchAlarms history
  scanAlarms : ∀ history, contract.entered .scanAlarms history
  watchGpios : ∀ history, contract.entered .watchGpios history
  returned : ∀ history, contract.returned history

section Rules

variable {limitJson : Value ℚ} {contract : Contract interface Manager Label}

theorem BootRules.continues (rules : BootRules limitJson contract) {label : Label}
    {history : List (Call interface Manager)} (entered : contract.entered label history)
    {state : Manager} (wired : state.Wired limitJson) :
    contract.ending.value [label] history state :=
  ⟨rules.shared ▸ wired, entered, fun _ absent => absurd absent List.not_mem_nil⟩

theorem BootRules.kept (rules : BootRules limitJson contract) {state : Manager}
    (wired : state.Wired limitJson) : contract.shared state :=
  rules.shared ▸ wired

/-- A loop whose body returns true with the next step done goes on, and otherwise repeats. -/
theorem guards_untilTrue (rules : BootRules limitJson contract)
    {body : Program interface Manager Bool} {again next : Label}
    {returns : List (Call interface Manager) → Prop} {history : List (Call interface Manager)}
    {state : Manager} (entered : contract.entered again history)
    (guarded : body.guards (Manager.Wired limitJson) (fun more => contract.allowed (history ++ more))
      (wiredEnding limitJson fun done more _ => done = true → returns more) [] state)
    (goes : ∀ more, returns more → contract.entered next (history ++ more)) :
    (untilTrue body again [next]).guards contract.shared contract.allowed contract.ending history
      state := by
  rw [rules.shared]
  apply guards_after
  unfold untilTrue
  rw [guards_bind]
  apply guards_mono guarded
  · rintro done more next ⟨wired, ended⟩
    cases done with
    | false => exact rules.continues (rules.append again history more entered) wired
    | true => exact rules.continues (goes more (ended rfl)) wired
  · exact fun _ _ _ kept => rules.kept kept
  · exact fun _ _ _ kept => rules.kept kept

/-- The shutdown drives the enable line of the supplies and the line of the switch. -/
theorem guards_shutDown {allowed : List (Call interface Manager) → Op → Prop}
    (ordinary : Ordinary allowed) (psEnable : ∀ more, allowed more (.requestOutput 2 3 0))
    (switchGpio : ∀ more, allowed more (.requestOutput 0 6 1)) {state : Manager}
    (wired : state.Wired limitJson) :
    shutDown.guards (Manager.Wired limitJson) allowed (wiredEnding limitJson
      fun _ _ _ => True) [] state := by
  unfold shutDown
  apply guards_then (guards_unsetPs ordinary psEnable wired)
  · intro _ more next ended
    rw [guards_bind]
    apply guards_mono (guards_setAlarmGpio (ordinary.after more) (fun _ => switchGpio _) ended.1)
    · exact fun _ _ _ ended => ⟨ended.1, trivial⟩
    · exact fun _ _ _ kept => kept
    · exact fun _ _ _ kept => kept
  · exact fun _ _ _ kept => kept
  · exact fun _ _ _ kept => kept

theorem guards_code_setSr (rules : BootRules limitJson contract)
    {history : List (Call interface Manager)} {state : Manager} (wired : state.Wired limitJson)
    (entered : contract.entered .setSr history) :
    (code .setSr).guards contract.shared contract.allowed contract.ending history state := by
  rw [rules.shared]
  apply guards_after
  unfold code
  apply guards_then (guards_setSr (rules.ordinary.after history)
    (fun more => rules.sysreset history more entered) wired)
  · intro released more next ended
    cases released with
    | false => exact rules.continues (rules.append _ _ (more ++ []) entered) ended.1
    | true =>
        simp only [if_true]
        rw [guards_bind]
        apply guards_mono (guards_writeLogsToFlash ((rules.ordinary.after history).after more)
          ended.1)
        · intro _ later last written
          refine ⟨rules.kept written.1, rules.idle _, ?_⟩
          intro fork forked
          rcases List.mem_pair.mp forked with rfl | rfl
          · exact rules.watchAlarms []
          · exact rules.watchGpios []
        · exact fun _ _ _ kept => rules.kept kept
        · exact fun _ _ _ kept => rules.kept kept
  · exact fun _ _ _ kept => rules.kept kept
  · exact fun _ _ _ kept => rules.kept kept

theorem guards_code_logThread (rules : BootRules limitJson contract) (heartbeat : Nat)
    {history : List (Call interface Manager)} {state : Manager} (wired : state.Wired limitJson) :
    (code (.logThread heartbeat)).guards contract.shared contract.allowed contract.ending history
      state := by
  rw [rules.shared]
  apply guards_after
  unfold code
  apply guards_then (guards_writeLogsToFlash (rules.ordinary.after history) wired)
  · intro _ more next ended
    rw [guards_ite]
    split
    next =>
      apply guards_then (guards_updateReadings ((rules.ordinary.after history).after more) ended.1)
      · intro _ _ _ read
        exact rules.continues (rules.logThread _ _) read.1
      · exact fun _ _ _ kept => rules.kept kept
      · exact fun _ _ _ kept => rules.kept kept
    next => exact rules.continues (rules.logThread _ _) ended.1
  · exact fun _ _ _ kept => rules.kept kept
  · exact fun _ _ _ kept => rules.kept kept

theorem guards_code_watchAlarms (rules : BootRules limitJson contract)
    {history : List (Call interface Manager)} {state : Manager} (wired : state.Wired limitJson) :
    (code .watchAlarms).guards contract.shared contract.allowed contract.ending history state := by
  rw [rules.shared]
  unfold code
  rw [guards_bind, guards_read]
  dsimp only
  rw [guards_ite]
  split
  next =>
    apply guards_attempt wired (rules.ordinary _ _ rfl)
    · exact fun _ _ kept => rules.kept kept
    · exact fun _ _ kept _ => rules.continues (rules.scanAlarms _) kept
  next =>
    apply guards_after
    apply guards_then (guards_watchServices (rules.ordinary.after history) wired)
    · exact fun _ _ _ ended => rules.continues (rules.watchAlarms _) ended.1
    · exact fun _ _ _ kept => rules.kept kept
    · exact fun _ _ _ kept => rules.kept kept

theorem guards_code_scanAlarms (rules : BootRules limitJson contract)
    {history : List (Call interface Manager)} {state : Manager} (wired : state.Wired limitJson) :
    (code .scanAlarms).guards contract.shared contract.allowed contract.ending history state := by
  rw [rules.shared]
  apply guards_after
  unfold code
  apply guards_then (guards_scanAlarms (rules.ordinary.after history) wired)
  · intro alarms more next ended
    cases alarms with
    | false => exact rules.continues (rules.scanAlarms _) ended.1
    | true =>
        simp only [if_true]
        rw [guards_bind]
        apply guards_mono (guards_shutDown ((rules.ordinary.after history).after more)
          (fun _ => rules.psEnable _ 0) (fun _ => rules.switchGpio _) ended.1)
        · exact fun _ _ _ done => ⟨rules.kept done.1, rules.returned _⟩
        · exact fun _ _ _ kept => rules.kept kept
        · exact fun _ _ _ kept => rules.kept kept
  · exact fun _ _ _ kept => rules.kept kept
  · exact fun _ _ _ kept => rules.kept kept

theorem guards_code_watchGpios (rules : BootRules limitJson contract)
    {history : List (Call interface Manager)} {state : Manager} (wired : state.Wired limitJson) :
    (code .watchGpios).guards contract.shared contract.allowed contract.ending history state := by
  rw [rules.shared]
  apply guards_after
  unfold code
  apply guards_then (guards_watchGpios (rules.ordinary.after history) wired)
  · exact fun _ _ _ ended => rules.continues (rules.watchGpios _) ended.1
  · exact fun _ _ _ kept => rules.kept kept
  · exact fun _ _ _ kept => rules.kept kept

/-- The program meets every contract that follows the boot sequence. -/
theorem BootRules.meets (rules : BootRules limitJson contract) : contract.Meets code := by
  intro label history state shared entered
  have wired : state.Wired limitJson := rules.shared ▸ shared
  have plain := rules.ordinary.after history
  cases label with
  | waitForSwitch =>
      exact guards_untilTrue rules entered (guards_waitForSwitch plain wired)
        fun more => rules.switchOn history more entered
  | getFanControllerStatus =>
      exact guards_untilTrue rules entered (guards_getFanControllerStatus plain wired)
        fun more => rules.fanController history more entered
  | setPs =>
      exact guards_untilTrue rules entered
        (guards_setPs plain (fun _ => rules.psEnable _ 1) wired)
        fun more => rules.psEnabled history more entered
  | updateReadings =>
      exact guards_untilTrue rules entered (guards_updateReadings plain wired)
        fun more => rules.nominal history more entered
  | setSr => exact guards_code_setSr rules wired entered
  | idle => exact rules.continues entered wired
  | logThread heartbeat => exact guards_code_logThread rules heartbeat wired
  | watchAlarms => exact guards_code_watchAlarms rules wired
  | scanAlarms => exact guards_code_scanAlarms rules wired
  | watchGpios => exact guards_code_watchGpios rules wired

end Rules

end Chassis.Boot
