import Chassis.Automaton.Run
import Chassis.Construction.Boot.Signals
import Chassis.Effect.Keeps
import Chassis.Effect.Run
import Chassis.Proof.Boot.Order

namespace Chassis.Boot
open Effect Program Json Monitor Automaton

/-- The two lines as the constructor declares them. -/
structure Manager.Declared (manager : Manager) : Prop where
  psEnable : manager.psEnable.chip = 2 ∧ manager.psEnable.line = 3 ∧
    manager.psEnable.name = "psenable"
  sysreset : manager.sysreset.chip = 1 ∧ manager.sysreset.line = 0 ∧
    manager.sysreset.name = "sysreset"

namespace Signals

/-- A line that has been driven and is not marked has its status published. -/
def FreshLine (signals : Signals) (gpio : GpioInfo) : Prop :=
  gpio.dbusflag = false → signals.driven (gpio.chip, gpio.line) = true →
    signals.published (gpioPath gpio.name) = some (gpio.status : ℚ)

structure Fresh (signals : Signals) : Prop where
  psEnable : signals.FreshLine signals.manager.psEnable
  sysreset : signals.FreshLine signals.manager.sysreset

end Signals

/-- The line is requested as an output with the value when three calls succeed. -/
def Requested (environment : Environment interface) (gpio : GpioInfo) (value : Int) : Bool :=
  environment 0 (.openChip gpio.chip) && environment 1 (.getLine gpio.chip gpio.line) &&
    environment 2 (.requestOutput gpio.chip gpio.line value)

def Released (environment : Environment interface) (gpio : GpioInfo) : Bool :=
  environment 3 (.release gpio.chip gpio.line)

section Effects

variable (environment : Environment interface) (signals : Signals)

theorem foldl_observe_manager (calls : List (Call interface Manager)) (manager : Manager)
    (signals : Signals) :
    calls.foldl Signals.observe { signals with manager := manager } =
      { calls.foldl Signals.observe signals with manager := manager } := by
  induction calls generalizing signals with
  | nil => rfl
  | cons call rest ih =>
      have same : Signals.observe { signals with manager := manager } call =
          { signals.observe call with manager := manager } := by
        unfold Signals.observe
        split <;> rfl
      rw [List.foldl_cons, List.foldl_cons, same, ih]

/-- The effects of two runs in a row add up. -/
theorem after_andThen {Value Result : Type} {first : Run interface Manager Value} {value : Value}
    (returned : first.outcome = .value value) (next : Value → Manager → Run interface Manager Result) :
    signals.after (first.andThen next) = (signals.after first).after (next value first.state) := by
  rcases first with ⟨outcome, state, calls⟩
  cases returned
  simp only [Signals.after, andThen_value, List.foldl_append, foldl_observe_manager]

theorem run_attempt (op : Op) (answer : op.Answer → Bool) (exception : Exception)
    (manager : Manager) (position : Nat) :
    (attempt op answer exception).run environment manager position =
      ⟨if answer (environment position op) then .value () else .thrown exception, manager,
        [⟨manager, op, environment position op⟩]⟩ := by
  rw [attempt, run_bind, run_ask, andThen_value]
  cases answer (environment position op) with
  | false => rfl
  | true => rfl

/-- A drive marks its line and updates the manager, and the release updates it again. -/
theorem after_driveLine (gpio : Manager → GpioInfo) (value : Int)
    (driven released : Manager → Manager) :
    (∃ done, ((driveLine gpio value driven released).run environment signals.manager 0).outcome =
      .value done) ∧
    signals.after ((driveLine gpio value driven released).run environment signals.manager 0) =
      if Requested environment (gpio signals.manager) value then
        { signals with
          manager := if Released environment (gpio signals.manager)
            then released (driven signals.manager) else driven signals.manager
          driven := Function.update signals.driven
            ((gpio signals.manager).chip, (gpio signals.manager).line) true }
      else signals := by
  unfold driveLine Requested Released
  simp only [run_tryCatch, run_bind, run_read, andThen_value, run_attempt, id]
  cases environment 0 (.openChip (gpio signals.manager).chip) with
  | false => simp [Run.orElse, Signals.after, Signals.observe]
  | true =>
  cases environment 1 (.getLine (gpio signals.manager).chip
      (gpio signals.manager).line) with
  | false => simp [Run.orElse, Signals.after, Signals.observe]
  | true =>
  cases requested : environment 2 (.requestOutput (gpio signals.manager).chip
      (gpio signals.manager).line value) with
  | false => simp [requested, Run.orElse, Signals.after, Signals.observe]
  | true =>
  cases freed : environment 3 (.release (gpio signals.manager).chip
      (gpio signals.manager).line) with
  | false => simp [requested, freed, Run.orElse, Signals.after, Signals.observe]
  | true => simp [requested, freed, Run.orElse, Signals.after, Signals.observe]

/-- A setter ends with a value, and its effect is that of its drive. -/
theorem step_setter {body : Program interface Manager Bool} {event : Event}
    (listed : perform event = body >>= fun _ => Pure.pure ())
    (returns : ∃ done, (body.run environment signals.manager 0).outcome = .value done) :
    signals.step (event, environment) =
      some (signals.after (body.run environment signals.manager 0)) := by
  obtain ⟨done, returned⟩ := returns
  simp only [Signals.step, listed, run_bind, after_andThen signals returned]
  have ended : ((body.run environment signals.manager 0).andThen fun _ next =>
      (Pure.pure () : Program interface Manager Unit).run environment next
        (0 + (body.run environment signals.manager 0).calls.length)).outcome = .value () := by
    rw [Run.andThen, returned]
    rfl
  rw [ended]
  simp only [run_pure, Signals.after, List.foldl_nil, foldl_observe_manager]

/-- A publication takes effect and clears the mark when it succeeds. -/
theorem after_publishGpio (flag : Bool) (name : String) (value : Int)
    (published : Manager → Manager) (position : Nat) :
    ((publishGpio flag name value published).run environment signals.manager position).outcome =
      .value () ∧
    signals.after
        ((publishGpio flag name value published).run environment signals.manager position) =
      if flag && environment position (.setValueProperty (gpioPath name) value) then
        { signals with
          manager := published signals.manager
          published := Function.update signals.published (gpioPath name) (some (value : ℚ)) }
      else signals := by
  unfold publishGpio
  cases flag with
  | false => simp [Signals.after]
  | true =>
      simp only [if_true, run_tryCatch, run_bind, run_attempt, id]
      cases environment position (.setValueProperty (gpioPath name) value) with
      | false => simp [Run.andThen, Run.orElse, Signals.after, Signals.observe]
      | true => simp [Run.andThen, Run.orElse, Signals.after, Signals.observe]

/-- The effect of a publication whose call succeeds or fails. -/
def Signals.publishedPs (signals : Signals) (value : Int) (succeeds : Bool) : Signals :=
  if signals.manager.psEnable.dbusflag && succeeds then
    { signals with
      manager := { signals.manager with
        psEnable := { signals.manager.psEnable with dbusflag := false } }
      published := Function.update signals.published (gpioPath signals.manager.psEnable.name)
        (some (value : ℚ)) }
  else signals

def Signals.publishedSr (signals : Signals) (value : Int) (succeeds : Bool) : Signals :=
  if signals.manager.sysreset.dbusflag && succeeds then
    { signals with
      manager := { signals.manager with
        sysreset := { signals.manager.sysreset with dbusflag := false } }
      published := Function.update signals.published (gpioPath signals.manager.sysreset.name)
        (some (value : ℚ)) }
  else signals

theorem after_publishPs (value : Int) (position : Nat) : ∃ succeeds,
    ((publishPs value).run environment signals.manager position).outcome = .value () ∧
      signals.after ((publishPs value).run environment signals.manager position) =
        signals.publishedPs value succeeds := by
  simp only [publishPs, run_bind, run_read, andThen_value, List.length_nil, Nat.add_zero,
    List.nil_append]
  obtain ⟨outcome, effect⟩ := after_publishGpio environment signals
    signals.manager.psEnable.dbusflag signals.manager.psEnable.name value
    (fun manager => { manager with psEnable := { manager.psEnable with dbusflag := false } })
    position
  exact ⟨_, outcome, effect⟩

theorem after_publishSr (value : Int) (position : Nat) : ∃ succeeds,
    ((publishSr value).run environment signals.manager position).outcome = .value () ∧
      signals.after ((publishSr value).run environment signals.manager position) =
        signals.publishedSr value succeeds := by
  simp only [publishSr, run_bind, run_read, andThen_value, List.length_nil, Nat.add_zero,
    List.nil_append]
  obtain ⟨outcome, effect⟩ := after_publishGpio environment signals
    signals.manager.sysreset.dbusflag signals.manager.sysreset.name value
    (fun manager => { manager with sysreset := { manager.sysreset with dbusflag := false } })
    position
  exact ⟨_, outcome, effect⟩

theorem after_manager {Value : Type} (run : Run interface Manager Value) :
    (signals.after run).manager = run.state := by
  rw [Signals.after, foldl_observe_manager]

/-- A run that returned goes on as a run from its effect. -/
theorem after_bind {Value Result : Type} {program : Program interface Manager Value}
    {rest : Value → Program interface Manager Result} {value : Value} {position : Nat}
    (returned : (program.run environment signals.manager position).outcome = .value value) :
    ∃ later, ((program >>= rest).run environment signals.manager position).outcome =
        ((rest value).run environment
          (signals.after (program.run environment signals.manager position)).manager
            later).outcome ∧
      signals.after ((program >>= rest).run environment signals.manager position) =
        (signals.after (program.run environment signals.manager position)).after
          ((rest value).run environment
            (signals.after (program.run environment signals.manager position)).manager
              later) := by
  refine ⟨position + (program.run environment signals.manager position).calls.length, ?_, ?_⟩
  · rw [run_bind, Run.andThen, returned, after_manager]
  · rw [run_bind, after_andThen signals returned, after_manager]

/-- The part of the publisher behind its connection to the bus. -/
def publishBoth : Program interface Manager Unit := do
  let manager ← Program.read
  publishPs manager.psEnable.status
  publishSr manager.sysreset.status

theorem after_publishBoth (position : Nat) : ∃ ps sr,
    (publishBoth.run environment signals.manager position).outcome = .value () ∧
      signals.after (publishBoth.run environment signals.manager position) =
        (signals.publishedPs signals.manager.psEnable.status ps).publishedSr
          signals.manager.sysreset.status sr := by
  have shape : publishBoth.run environment signals.manager position =
      (publishPs signals.manager.psEnable.status >>= fun _ =>
        publishSr signals.manager.sysreset.status).run environment signals.manager position := by
    simp only [publishBoth, run_bind, run_read, andThen_value, List.length_nil, Nat.add_zero,
      List.nil_append]
  obtain ⟨ps, first, effect⟩ := after_publishPs environment signals
    signals.manager.psEnable.status position
  obtain ⟨later, outcome, whole⟩ := @after_bind environment signals _ _ _
    (fun _ => publishSr signals.manager.sysreset.status) _ _ first
  obtain ⟨sr, second, last⟩ := after_publishSr environment
    (signals.publishedPs signals.manager.psEnable.status ps) signals.manager.sysreset.status later
  rw [effect] at outcome whole
  exact ⟨ps, sr, by rw [shape, outcome, second], by rw [shape, whole, last]⟩

/-- The publisher does nothing, or publishes the marked lines whose calls succeed. -/
theorem step_watchGpios {next : Signals}
    (taken : signals.step (.watchGpios, environment) = some next) :
    next = signals ∨ ∃ ps sr,
      next = (signals.publishedPs signals.manager.psEnable.status ps).publishedSr
        signals.manager.sysreset.status sr := by
  have shape : (perform .watchGpios).run environment signals.manager 0 =
      if signals.manager.gpioServiceStatus then
        (attempt .newBus id .dbusError >>= fun _ => publishBoth).run environment signals.manager 0
      else ⟨.value (), signals.manager, []⟩ := by
    simp only [perform, watchGpios, publishBoth, run_bind, run_read, andThen_value, run_ite,
      List.length_nil, Nat.add_zero, List.nil_append]
    rfl
  by_cases on : signals.manager.gpioServiceStatus = true
  · right
    rw [if_pos on] at shape
    rw [Signals.step, shape] at taken
    have connected := run_attempt environment .newBus id .dbusError signals.manager 0
    cases bus : environment 0 .newBus with
    | false =>
        rw [run_bind, connected, bus] at taken
        cases taken
    | true =>
        rw [bus] at connected
        obtain ⟨later, outcome, whole⟩ := @after_bind environment signals _ _ _
          (fun _ => publishBoth) _ 0 (congrArg Run.outcome connected)
        have kept : signals.after ((attempt .newBus id .dbusError).run environment signals.manager
            0) = signals := by
          rw [connected]
          rfl
        rw [kept] at outcome whole
        obtain ⟨ps, sr, ended, effect⟩ := after_publishBoth environment signals later
        simp only [outcome, ended, whole, effect] at taken
        exact ⟨ps, sr, (Option.some.inj taken).symm⟩
  · left
    rw [if_neg on] at shape
    rw [Signals.step, shape] at taken
    exact (Option.some.inj taken).symm

/-- A call that neither drives nor publishes. -/
def Op.Silent (op : Op) : Prop :=
  (∀ chip line value, op ≠ .requestOutput chip line value) ∧
    ∀ path value, op ≠ .setValueProperty path value

theorem foldl_observe_silent {calls : List (Call interface Manager)}
    (silent : ∀ call ∈ calls, Op.Silent call.op) : calls.foldl Signals.observe signals = signals := by
  induction calls with
  | nil => rfl
  | cons call rest ih =>
      have same : signals.observe call = signals := by
        have quiet := silent call List.mem_cons_self
        unfold Signals.observe
        split
        next path value => exact absurd rfl (quiet.2 path value)
        next chip line value => exact absurd rfl (quiet.1 chip line value)
        next => rfl
      rw [List.foldl_cons, same, ih fun other member => silent other (List.mem_cons_of_mem _ member)]

section Services

variable {psEnable sysreset : GpioInfo}

/-- The queries of the services leave the lines alone. -/
abbrev LeavesLines {Value : Type} (psEnable sysreset : GpioInfo)
    (program : Program interface Manager Value) : Prop :=
  Keeps (fun _ op => Op.Silent op)
    (fun manager => manager.psEnable = psEnable ∧ manager.sysreset = sysreset) (fun _ => True)
    program

theorem leavesLines_waitForDBus (attempts : Nat) :
    LeavesLines psEnable sysreset (waitForDBus attempts) := by
  induction attempts with
  | zero => exact keeps_bind (keeps_ask fun _ _ => ⟨nofun, nofun⟩) fun _ => keeps_pure _
  | succ attempts ih =>
      apply keeps_bind (keeps_ask fun _ _ => ⟨nofun, nofun⟩)
      intro ready
      exact keeps_ite (fun _ => keeps_pure _) fun _ => ih

theorem leavesLines_queryService (serviceName : String) (attempts : Nat) :
    LeavesLines psEnable sysreset (queryService serviceName attempts) := by
  induction attempts with
  | zero => exact keeps_pure _
  | succ attempts ih =>
      apply keeps_bind (keeps_ask fun _ _ => ⟨nofun, nofun⟩)
      intro state
      cases state with
      | none => exact ih
      | some state => exact keeps_pure _

theorem leavesLines_isServiceActive (serviceName : String) :
    LeavesLines psEnable sysreset (isServiceActive serviceName) :=
  keeps_bind (leavesLines_waitForDBus 10) fun _ => leavesLines_queryService serviceName 5

theorem leavesLines_watchServices : LeavesLines psEnable sysreset watchServices := by
  unfold watchServices
  apply keeps_bind (leavesLines_isServiceActive _)
  intro _
  apply keeps_bind (leavesLines_isServiceActive _)
  intro _
  apply keeps_bind (leavesLines_isServiceActive _)
  intro _
  apply keeps_bind (leavesLines_isServiceActive _)
  intro _
  apply keeps_bind (leavesLines_isServiceActive _)
  intro _
  apply keeps_bind (leavesLines_isServiceActive _)
  intro _
  exact keeps_modify fun _ kept => kept

end Services

/-- The queries of the services change neither the lines nor what was published. -/
theorem step_watchServices {next : Signals}
    (taken : signals.step (.watchServices, environment) = some next) :
    ∃ manager : Manager, next = { signals with manager := manager } ∧
      manager.psEnable = signals.manager.psEnable ∧ manager.sysreset = signals.manager.sysreset := by
  obtain ⟨silent, kept, _⟩ := (@leavesLines_watchServices signals.manager.psEnable
    signals.manager.sysreset).sound environment signals.manager 0 ⟨rfl, rfl⟩
  simp only [Signals.step, perform] at taken
  split at taken
  next =>
    refine ⟨_, (Option.some.inj taken).symm.trans ?_, kept⟩
    exact foldl_observe_silent _ silent
  next => cases taken
  next => cases taken

theorem step_setPs : signals.step (.setPs, environment) = some
    (if Requested environment signals.manager.psEnable 1 then
      { signals with
        manager := if Released environment signals.manager.psEnable then
            { signals.manager with
              psEnable := { signals.manager.psEnable with status := 1, dbusflag := true } }
          else { signals.manager with psEnable := { signals.manager.psEnable with status := 1 } }
        driven := Function.update signals.driven
          (signals.manager.psEnable.chip, signals.manager.psEnable.line) true }
    else signals) := by
  obtain ⟨returns, effect⟩ := after_driveLine environment signals Manager.psEnable 1 _ _
  exact (step_setter environment signals rfl returns).trans (congrArg some effect)

theorem step_unsetPs : signals.step (.unsetPs, environment) = some
    (if Requested environment signals.manager.psEnable 0 then
      { signals with
        manager := if Released environment signals.manager.psEnable then
            { signals.manager with
              psEnable := { signals.manager.psEnable with status := 0, dbusflag := false } }
          else { signals.manager with psEnable := { signals.manager.psEnable with status := 0 } }
        driven := Function.update signals.driven
          (signals.manager.psEnable.chip, signals.manager.psEnable.line) true }
    else signals) := by
  obtain ⟨returns, effect⟩ := after_driveLine environment signals Manager.psEnable 0 _ _
  exact (step_setter environment signals rfl returns).trans (congrArg some effect)

theorem step_setSr : signals.step (.setSr, environment) = some
    (if Requested environment signals.manager.sysreset 0 then
      { signals with
        manager := if Released environment signals.manager.sysreset then
            { signals.manager with
              sysreset := { signals.manager.sysreset with status := 1, dbusflag := true } }
          else { signals.manager with sysreset := { signals.manager.sysreset with status := 1 } }
        driven := Function.update signals.driven
          (signals.manager.sysreset.chip, signals.manager.sysreset.line) true }
    else signals) := by
  obtain ⟨returns, effect⟩ := after_driveLine environment signals Manager.sysreset 0 _ _
  exact (step_setter environment signals rfl returns).trans (congrArg some effect)

end Effects

namespace Signals

/-- A line that gets a status will be published, or has that status published. -/
def Settled (signals : Signals) (gpio : GpioInfo) (status : Int) : Prop :=
  gpio.dbusflag = true ∨ signals.published (gpioPath gpio.name) = some (status : ℚ)

/-- A setter that fails behind its drive needs a line that is marked or has the new status published,
and the one that clears the mark needs its status published. -/
def Clean (signals : Signals) : Event × Environment interface → Prop
  | (.setPs, environment) => Requested environment signals.manager.psEnable 1 = true →
      Released environment signals.manager.psEnable = false →
        signals.Settled signals.manager.psEnable 1
  | (.unsetPs, environment) => Requested environment signals.manager.psEnable 0 = true →
      if Released environment signals.manager.psEnable
        then signals.published (gpioPath signals.manager.psEnable.name) = some ((0 : Int) : ℚ)
        else signals.Settled signals.manager.psEnable 0
  | (.setSr, environment) => Requested environment signals.manager.sysreset 0 = true →
      Released environment signals.manager.sysreset = false →
        signals.Settled signals.manager.sysreset 1
  | (.watchGpios, _) => True
  | (.watchServices, _) => True

/-- A driven line is fresh when it is settled with its own status. -/
theorem freshLine_driven {signals : Signals} {gpio : GpioInfo}
    (driven : signals.driven (gpio.chip, gpio.line) = true) :
    signals.FreshLine gpio ↔ signals.Settled gpio gpio.status := by
  rw [FreshLine, Settled, driven]
  cases gpio.dbusflag <;> simp

theorem settled_unmarked {signals : Signals} {gpio : GpioInfo} {status : Int}
    (unmarked : gpio.dbusflag = false) : signals.Settled gpio status ↔
      signals.published (gpioPath gpio.name) = some (status : ℚ) := by
  rw [Settled, unmarked]
  exact or_iff_right nofun

/-- A line that a step does not touch stays as it was. -/
theorem freshLine_other {signals next : Signals} {gpio : GpioInfo}
    (published : next.published (gpioPath gpio.name) = signals.published (gpioPath gpio.name))
    (driven : next.driven (gpio.chip, gpio.line) = signals.driven (gpio.chip, gpio.line)) :
    next.FreshLine gpio ↔ signals.FreshLine gpio := by
  rw [FreshLine, FreshLine, published, driven]

end Signals

section Steps

variable {environment : Environment interface} {signals next : Signals}

/-- The names and the places of the lines never change. -/
theorem step_declared {event : Event × Environment interface}
    (declared : signals.manager.Declared) (taken : signals.step event = some next) :
    next.manager.Declared := by
  obtain ⟨event, environment⟩ := event
  cases event with
  | setPs =>
      rw [step_setPs] at taken
      cases taken
      split_ifs <;> exact ⟨declared.psEnable, declared.sysreset⟩
  | unsetPs =>
      rw [step_unsetPs] at taken
      cases taken
      split_ifs <;> exact ⟨declared.psEnable, declared.sysreset⟩
  | setSr =>
      rw [step_setSr] at taken
      cases taken
      split_ifs <;> exact ⟨declared.psEnable, declared.sysreset⟩
  | watchGpios =>
      rcases step_watchGpios environment signals taken with rfl | ⟨ps, sr, rfl⟩
      · exact declared
      · rw [Signals.publishedSr, Signals.publishedPs]
        split_ifs <;> exact ⟨declared.psEnable, declared.sysreset⟩
  | watchServices =>
      obtain ⟨manager, rfl, ps, sr⟩ := step_watchServices environment signals taken
      exact ⟨ps ▸ declared.psEnable, sr ▸ declared.sysreset⟩

/-- After a drive of the supplies, the other line is as fresh as before. -/
theorem fresh_psEnable (declared : signals.manager.Declared) (fresh : signals.Fresh)
    (psEnable : next.manager.psEnable.chip = 2 ∧ next.manager.psEnable.line = 3)
    (sysreset : next.manager.sysreset = signals.manager.sysreset)
    (published : next.published = signals.published)
    (driven : next.driven = Function.update signals.driven (2, 3) true) :
    next.Fresh ↔ next.Settled next.manager.psEnable next.manager.psEnable.status := by
  have line : next.driven (next.manager.psEnable.chip, next.manager.psEnable.line) = true := by
    rw [driven, psEnable.1, psEnable.2, Function.update_self]
  have other : next.FreshLine next.manager.sysreset := by
    rw [sysreset]
    apply (Signals.freshLine_other (congrFun published _) _).mpr fresh.sysreset
    rw [driven, declared.sysreset.1, declared.sysreset.2.1]
    exact Function.update_of_ne (by decide) _ _
  rw [← Signals.freshLine_driven line]
  exact ⟨fun after => after.psEnable, fun after => ⟨after, other⟩⟩

theorem fresh_sysreset (declared : signals.manager.Declared) (fresh : signals.Fresh)
    (sysreset : next.manager.sysreset.chip = 1 ∧ next.manager.sysreset.line = 0)
    (psEnable : next.manager.psEnable = signals.manager.psEnable)
    (published : next.published = signals.published)
    (driven : next.driven = Function.update signals.driven (1, 0) true) :
    next.Fresh ↔ next.Settled next.manager.sysreset next.manager.sysreset.status := by
  have line : next.driven (next.manager.sysreset.chip, next.manager.sysreset.line) = true := by
    rw [driven, sysreset.1, sysreset.2, Function.update_self]
  have other : next.FreshLine next.manager.psEnable := by
    rw [psEnable]
    apply (Signals.freshLine_other (congrFun published _) _).mpr fresh.psEnable
    rw [driven, declared.psEnable.1, declared.psEnable.2.1]
    exact Function.update_of_ne (by decide) _ _
  rw [← Signals.freshLine_driven line]
  exact ⟨fun after => after.sysreset, fun after => ⟨other, after⟩⟩

theorem setPs_passes (declared : signals.manager.Declared) (fresh : signals.Fresh)
    (taken : signals.step (.setPs, environment) = some next) :
    next.Fresh ↔ signals.Clean (.setPs, environment) := by
  rw [step_setPs] at taken
  cases taken
  rw [Signals.Clean]
  obtain ⟨chip, line, _⟩ := declared.psEnable
  by_cases requested : Requested environment signals.manager.psEnable 1 = true
  · rw [if_pos requested]
    cases released : Released environment signals.manager.psEnable with
    | true =>
        refine Iff.trans (fresh_psEnable declared fresh ⟨chip, line⟩ rfl rfl (by rw [chip, line])) ?_
        exact iff_of_true (Or.inl rfl) fun _ => nofun
    | false =>
        refine Iff.trans (fresh_psEnable declared fresh ⟨chip, line⟩ rfl rfl (by rw [chip, line])) ?_
        exact ⟨fun settled _ _ => settled, fun settled => settled requested rfl⟩
  · rw [if_neg requested]
    exact iff_of_true fresh fun granted => absurd granted requested

theorem unsetPs_passes (declared : signals.manager.Declared) (fresh : signals.Fresh)
    (taken : signals.step (.unsetPs, environment) = some next) :
    next.Fresh ↔ signals.Clean (.unsetPs, environment) := by
  rw [step_unsetPs] at taken
  cases taken
  rw [Signals.Clean]
  obtain ⟨chip, line, _⟩ := declared.psEnable
  by_cases requested : Requested environment signals.manager.psEnable 0 = true
  · rw [if_pos requested]
    cases released : Released environment signals.manager.psEnable with
    | true =>
        refine Iff.trans (fresh_psEnable declared fresh ⟨chip, line⟩ rfl rfl (by rw [chip, line])) ?_
        refine Iff.trans (Signals.settled_unmarked rfl) ?_
        exact ⟨fun current _ => current, fun current => current requested⟩
    | false =>
        refine Iff.trans (fresh_psEnable declared fresh ⟨chip, line⟩ rfl rfl (by rw [chip, line])) ?_
        exact ⟨fun settled _ => settled, fun settled => settled requested⟩
  · rw [if_neg requested]
    exact iff_of_true fresh fun granted => absurd granted requested

theorem setSr_passes (declared : signals.manager.Declared) (fresh : signals.Fresh)
    (taken : signals.step (.setSr, environment) = some next) :
    next.Fresh ↔ signals.Clean (.setSr, environment) := by
  rw [step_setSr] at taken
  cases taken
  rw [Signals.Clean]
  obtain ⟨chip, line, _⟩ := declared.sysreset
  by_cases requested : Requested environment signals.manager.sysreset 0 = true
  · rw [if_pos requested]
    cases released : Released environment signals.manager.sysreset with
    | true =>
        refine Iff.trans (fresh_sysreset declared fresh ⟨chip, line⟩ rfl rfl (by rw [chip, line])) ?_
        exact iff_of_true (Or.inl rfl) fun _ => nofun
    | false =>
        refine Iff.trans (fresh_sysreset declared fresh ⟨chip, line⟩ rfl rfl (by rw [chip, line])) ?_
        exact ⟨fun settled _ _ => settled, fun settled => settled requested rfl⟩
  · rw [if_neg requested]
    exact iff_of_true fresh fun granted => absurd granted requested

theorem names_differ (declared : signals.manager.Declared) :
    gpioPath signals.manager.sysreset.name ≠ gpioPath signals.manager.psEnable.name := by
  rw [declared.sysreset.2.2, declared.psEnable.2.2]
  decide

theorem publishedPs_fresh (declared : signals.manager.Declared) (fresh : signals.Fresh)
    (succeeds : Bool) :
    (signals.publishedPs signals.manager.psEnable.status succeeds).Fresh := by
  rw [Signals.publishedPs]
  split_ifs
  · constructor
    · intro _ _
      exact Function.update_self _ _ _
    · refine (Signals.freshLine_other ?_ ?_).mpr fresh.sysreset
      · exact Function.update_of_ne (names_differ declared) _ _
      · rfl
  · exact fresh

theorem publishedSr_fresh (declared : signals.manager.Declared) (fresh : signals.Fresh)
    (succeeds : Bool) :
    (signals.publishedSr signals.manager.sysreset.status succeeds).Fresh := by
  rw [Signals.publishedSr]
  split_ifs
  · constructor
    · refine (Signals.freshLine_other ?_ ?_).mpr fresh.psEnable
      · exact Function.update_of_ne (names_differ declared).symm _ _
      · rfl
    · intro _ _
      exact Function.update_self _ _ _
  · exact fresh

theorem publishedPs_manager (value : Int) (succeeds : Bool) :
    (signals.publishedPs value succeeds).manager.sysreset = signals.manager.sysreset ∧
      (signals.manager.Declared → (signals.publishedPs value succeeds).manager.Declared) := by
  rw [Signals.publishedPs]
  split_ifs
  · exact ⟨rfl, fun declared => ⟨declared.psEnable, declared.sysreset⟩⟩
  · exact ⟨rfl, id⟩

/-- The publisher keeps both lines fresh, whichever of its calls fail. -/
theorem watchGpios_passes (declared : signals.manager.Declared) (fresh : signals.Fresh)
    (taken : signals.step (.watchGpios, environment) = some next) : next.Fresh := by
  rcases step_watchGpios environment signals taken with rfl | ⟨ps, sr, rfl⟩
  · exact fresh
  · obtain ⟨same, kept⟩ := @publishedPs_manager signals signals.manager.psEnable.status ps
    have after := publishedSr_fresh (kept declared) (publishedPs_fresh declared fresh ps) sr
    rw [same] at after
    exact after

/-- A step from a fresh state leads to a fresh state exactly when it is clean. -/
theorem step_passes {event : Event × Environment interface} (declared : signals.manager.Declared)
    (fresh : signals.Fresh) (taken : signals.step event = some next) :
    next.Fresh ↔ signals.Clean event := by
  obtain ⟨event, environment⟩ := event
  cases event with
  | setPs => exact setPs_passes declared fresh taken
  | unsetPs => exact unsetPs_passes declared fresh taken
  | setSr => exact setSr_passes declared fresh taken
  | watchGpios => exact iff_of_true (watchGpios_passes declared fresh taken) trivial
  | watchServices =>
      apply iff_of_true _ trivial
      obtain ⟨manager, rfl, ps, sr⟩ := step_watchServices environment signals taken
      constructor
      · change Signals.FreshLine _ manager.psEnable
        rw [ps]
        exact fresh.psEnable
      · change Signals.FreshLine _ manager.sysreset
        rw [sr]
        exact fresh.sysreset

end Steps

/-- Nothing has been driven before the first step, whatever was published. -/
def Signals.start (limitJson : Value ℚ) (junk : Rail → AdcElement)
    (published : String → Option ℚ) : Signals :=
  ⟨Manager.construct limitJson junk, published, fun _ => false⟩

theorem start_declared (limitJson : Value ℚ) (junk : Rail → AdcElement)
    (published : String → Option ℚ) :
    (Signals.start limitJson junk published).manager.Declared :=
  ⟨⟨rfl, rfl, rfl⟩, ⟨rfl, rfl, rfl⟩⟩

theorem start_fresh (limitJson : Value ℚ) (junk : Rail → AdcElement)
    (published : String → Option ℚ) : (Signals.start limitJson junk published).Fresh :=
  ⟨fun _ => nofun, fun _ => nofun⟩

/-- The published signals are current throughout exactly the runs whose steps are all clean. -/
theorem signals_fresh_iff (limitJson : Value ℚ) (junk : Rail → AdcElement)
    (published : String → Option ℚ) (events : List (Event × Environment interface)) :
    Along Signals.step (fun _ _ next => next.Fresh)
        (Signals.start limitJson junk published) events ↔
      Along Signals.step (fun signals event _ => signals.Clean event)
        (Signals.start limitJson junk published) events :=
  along_iff_of_step (fun signals => signals.manager.Declared)
    (fun _ _ _ declared taken => step_declared declared taken)
    (fun _ _ _ declared fresh taken => step_passes declared fresh taken)
    (start_declared limitJson junk published) (start_fresh limitJson junk published) events

/-- The supplies are enabled and published, with every call answered without an error. -/
def publishedRun : List (Event × Environment interface) :=
  [.watchServices, .setPs, .watchGpios].map fun event => (event, fun _ => prompt)

theorem signals_fresh_fails : ¬ ∀ (limitJson : Value ℚ) (junk : Rail → AdcElement)
    (published : String → Option ℚ) (events : List (Event × Environment interface)),
    Along Signals.step (fun _ _ next => next.Fresh)
      (Signals.start limitJson junk published) events := by
  intro always
  have check : (run Signals.step (Signals.start .null (fun _ => default) fun _ => none)
      publishedRun).any (fun before =>
        (before.step (.unsetPs, fun _ => prompt)).any fun after =>
          !after.manager.psEnable.dbusflag &&
          after.driven (after.manager.psEnable.chip, after.manager.psEnable.line) &&
          decide (after.published (gpioPath after.manager.psEnable.name) ≠
            some (after.manager.psEnable.status : ℚ))) = true := by
    decide +kernel
  obtain ⟨before, ran, check⟩ := (Option.any_eq_true _ _).mp check
  obtain ⟨after, taken, check⟩ := (Option.any_eq_true _ _).mp check
  simp only [Bool.and_eq_true, Bool.not_eq_true', decide_eq_true_eq] at check
  have fresh := (always .null (fun _ => default) (fun _ => none)
    (publishedRun ++ [(.unsetPs, fun _ => prompt)])).last ran taken
  exact check.2 (fresh.psEnable check.1.1 check.1.2)

end Chassis.Boot
