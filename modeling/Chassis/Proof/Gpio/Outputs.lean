import Chassis.Automaton.Run
import Chassis.Effect.Keeps
import Chassis.Proof.Gpio.Programs

namespace Chassis.Gpio
open Effect Program Json Automaton

/-- The lines declared as outputs by the monitor and the tool. -/
def outputGpios : List GpioInfo :=
  (availableGpios ++ chassisGpios).filter fun gpio => !gpio.input

/-- The manager declares three outputs, and all of them are among these lines. -/
theorem manager_outputs (limitJson : Value ℚ) (junk : Monitor.Rail → Boot.AdcElement) :
    ∀ gpio ∈ [(Boot.Manager.construct limitJson junk).sysreset,
      (Boot.Manager.construct limitJson junk).psEnable,
      (Boot.Manager.construct limitJson junk).alarmGpio],
      (gpio.chip, gpio.line) ∈ outputGpios.map GpioInfo.place := by
  intro gpio member
  simp only [List.mem_cons, List.not_mem_nil, or_false] at member
  rcases member with rfl | rfl | rfl
  · exact (by decide : (1, 0) ∈ outputGpios.map GpioInfo.place)
  · exact (by decide : (2, 3) ∈ outputGpios.map GpioInfo.place)
  · exact (by decide : (0, 11) ∈ outputGpios.map GpioInfo.place)

/-- Every output has the direction and the value in which the drives alone have left it. -/
def Lines.Kept (lines : Lines) : Prop :=
  ∀ gpio ∈ outputGpios, lines.current gpio.place = lines.driven gpio.place

/-- The lines that a command reads: the named line unless it is a signal of the chassis, or every
available line with the inputs first. -/
def pinsRead : List (List UInt8) → List GpioInfo
  | [] => []
  | argument :: rest =>
      if argument = ascii "set" ∨ argument = ascii "Set" then []
      else if argument = ascii "get" ∨ argument = ascii "Get" then
        match rest with
        | [cname] => ((Cli.construct.target cname).bind Cli.construct.gpio).toList.filter
            fun gpio => !Cli.construct.ischassisgpio gpio
        | _ => []
      else if argument = ascii "all" ∨ argument = ascii "All" then
        (availableGpios.filter fun gpio => gpio.input == true) ++
          availableGpios.filter fun gpio => gpio.input == false
      else []

/-- An output whose request as an input is granted is already an input. -/
def Lines.Spared (lines : Lines) (environment : Environment interface) (pins : List GpioInfo) :
    Prop :=
  ∀ gpio ∈ outputGpios, gpio.place ∈ grants environment pins 0 → lines.current gpio.place = .input

/-- A poll and a command spare the outputs. The manager may do anything. -/
def System.Spares (system : System) (event : Event × Environment interface) : Prop :=
  match event.1 with
  | .poll => system.lines.Spared event.2 availableGpios
  | .lcrpin arguments => system.lines.Spared event.2 (pinsRead arguments)
  | .manager _ => True

section Lines

variable {lines : Lines}

/-- A call that drives nothing turns the granted line into an input. -/
theorem observe_passive {entry : Answered} (passive : entry.1.drives = false) :
    lines.observe entry.1 entry.2 = match grant entry with
      | some place => { lines with current := Function.update lines.current place .input }
      | none => lines := by
  rcases entry with ⟨op, answer⟩
  cases op with
  | requestInput chip line =>
      cases answer with
      | false => rfl
      | true => rfl
  | requestOutput chip line value => cases passive
  | _ => rfl

theorem after_cons (entry : Answered) (rest : List Answered) :
    lines.after (entry :: rest) = (lines.observe entry.1 entry.2).after rest := rfl

/-- Calls that drive nothing turn the granted lines into inputs. -/
theorem after_passive {entries : List Answered}
    (passive : (entries.all fun entry => !entry.1.drives) = true) :
    (lines.after entries).driven = lines.driven ∧
      ∀ place, (lines.after entries).current place =
        if place ∈ entries.filterMap grant then .input else lines.current place := by
  induction entries generalizing lines with
  | nil => exact ⟨rfl, fun _ => rfl⟩
  | cons entry rest ih =>
      rw [List.all_cons, Bool.and_eq_true, Bool.not_eq_true'] at passive
      cases granted : grant entry with
      | none =>
          have same : lines.observe entry.1 entry.2 = lines := by
            rw [observe_passive passive.1, granted]
          rw [after_cons, same, List.filterMap_cons_none granted]
          exact ih passive.2
      | some other =>
          have same : lines.observe entry.1 entry.2 =
              { lines with current := Function.update lines.current other .input } := by
            rw [observe_passive passive.1, granted]
          rw [after_cons, same, List.filterMap_cons_some granted]
          obtain ⟨driven, current⟩ := @ih
            { lines with current := Function.update lines.current other .input } passive.2
          refine ⟨driven, ?_⟩
          intro place
          rw [current]
          rcases eq_or_ne place other with rfl | different
          · simp
          · simp only [List.mem_cons, different, false_or, Function.update_of_ne different]

/-- Reads keep the outputs exactly when those that they are granted are inputs already. -/
theorem kept_passive {entries : List Answered} (kept : lines.Kept)
    (passive : (entries.all fun entry => !entry.1.drives) = true) :
    (lines.after entries).Kept ↔
      ∀ gpio ∈ outputGpios, gpio.place ∈ entries.filterMap grant →
        lines.current gpio.place = .input := by
  obtain ⟨driven, current⟩ := @after_passive lines entries passive
  constructor
  · intro after gpio member granted
    have same := after gpio member
    rw [driven, current, if_pos granted] at same
    exact (kept gpio member).trans same.symm
  · intro spared gpio member
    rw [driven, current]
    split
    next granted => exact (spared gpio member granted).symm.trans (kept gpio member)
    next => exact kept gpio member

/-- A call does no harm unless it requests an output as an input. -/
def Harmless : Boot.Op → Prop
  | .requestInput chip line => ∀ gpio ∈ outputGpios, gpio.place ≠ (chip, line)
  | _ => True

/-- A drive changes a line and what the drives have left of it alike. -/
theorem observe_kept {entry : Answered} (kept : lines.Kept) (harmless : Harmless entry.1) :
    (lines.observe entry.1 entry.2).Kept := by
  rcases entry with ⟨op, answer⟩
  cases op with
  | requestInput chip line =>
      cases answer with
      | false => exact kept
      | true =>
          intro gpio member
          have different := harmless gpio member
          exact (Function.update_of_ne different _ _).trans (kept gpio member)
  | requestOutput chip line value =>
      cases answer with
      | false => exact kept
      | true =>
          intro gpio member
          rcases eq_or_ne gpio.place (chip, line) with same | different
          · simp [Lines.observe, same]
          · simpa [Lines.observe, different] using kept gpio member
  | _ => exact kept

theorem kept_harmless {entries : List Answered} (kept : lines.Kept)
    (harmless : ∀ entry ∈ entries, Harmless entry.1) : (lines.after entries).Kept := by
  induction entries generalizing lines with
  | nil => exact kept
  | cons entry rest ih =>
      rw [after_cons]
      apply ih (observe_kept kept (harmless entry List.mem_cons_self))
      intro other member
      exact harmless other (List.mem_cons_of_mem entry member)

end Lines

section Setters

/-- The calls of the tool do no harm. -/
abbrev Drives {Value : Type} (program : Program interface Cli Value) : Prop :=
  Keeps (fun _ op => Harmless op) (fun _ => True) (fun _ => True) program

theorem drives_attempt {op : Boot.Op} (harmless : Harmless op) (answer : op.Answer → Bool)
    (exception : Boot.Exception) : Drives (attempt op answer exception) := by
  apply keeps_bind (keeps_ask fun _ _ => harmless)
  intro result
  exact keeps_ite (fun _ => keeps_pure _) fun _ => keeps_throw _

theorem drives_setWith {publish : GpioInfo → Program interface Cli Unit}
    (published : ∀ gpio, Drives (publish gpio)) (target : Target) (value : Int) :
    Drives (Cli.setWith publish target value) := by
  apply keeps_read
  intro cli _
  cases cli.gpio target with
  | none => exact keeps_pure _
  | some gpio =>
      apply keeps_ite (fun _ => keeps_pure _)
      intro _
      apply keeps_ite (fun _ => keeps_pure _)
      intro _
      refine keeps_tryCatch ?_ fun _ => keeps_pure _
      apply keeps_bind (published gpio)
      intro _
      apply keeps_bind (drives_attempt (by exact trivial) _ _)
      intro _
      apply keeps_bind (drives_attempt (by exact trivial) _ _)
      intro _
      apply keeps_bind (drives_attempt (by exact trivial) _ _)
      intro _
      apply keeps_bind (keeps_modify fun _ _ => trivial)
      intro _
      exact keeps_bind (drives_attempt (by exact trivial) _ _) fun _ => keeps_pure _

theorem drives_set (cname csetting : List UInt8) : Drives (Cli.set cname csetting) := by
  apply keeps_read
  intro cli _
  cases cli.target cname with
  | none => exact keeps_pure _
  | some target =>
      cases Monitor.stoi csetting with
      | none => exact keeps_throw _
      | some cvalue =>
          refine keeps_bind (keeps_ite ?_ ?_) fun _ => keeps_pure _
          · intro _
            exact drives_setWith (fun gpio => drives_attempt (by exact trivial) _ _) target cvalue
          · intro _
            exact drives_setWith (fun _ => keeps_pure _) target cvalue

/-- The line of the switch is an input. -/
def SwitchPlaced (manager : Boot.Manager) : Prop :=
  manager.switchGpio.chip = 0 ∧ manager.switchGpio.line = 6

/-- The calls of the manager do no harm. -/
abbrev Manages {Value : Type} (program : Program Boot.interface Boot.Manager Value) : Prop :=
  Keeps (fun _ op => Harmless op) SwitchPlaced (fun _ => True) program

theorem manages_attempt {op : Boot.Op} (harmless : Harmless op) (answer : op.Answer → Bool)
    (exception : Boot.Exception) : Manages (Boot.attempt op answer exception) := by
  apply keeps_bind (keeps_ask fun _ _ => harmless)
  intro result
  exact keeps_ite (fun _ => keeps_pure _) fun _ => keeps_throw _

theorem manages_driveLine (gpio : Boot.Manager → Boot.GpioInfo) (value : Int)
    {driven released : Boot.Manager → Boot.Manager}
    (drivenPlaced : ∀ manager, SwitchPlaced manager → SwitchPlaced (driven manager))
    (releasedPlaced : ∀ manager, SwitchPlaced manager → SwitchPlaced (released manager)) :
    Manages (Boot.driveLine gpio value driven released) := by
  refine keeps_tryCatch ?_ fun _ => keeps_pure _
  apply keeps_read
  intro manager _
  apply keeps_bind (manages_attempt (by exact trivial) _ _)
  intro _
  apply keeps_bind (manages_attempt (by exact trivial) _ _)
  intro _
  apply keeps_bind (manages_attempt (by exact trivial) _ _)
  intro _
  apply keeps_bind (keeps_modify drivenPlaced)
  intro _
  apply keeps_bind (manages_attempt (by exact trivial) _ _)
  intro _
  exact keeps_bind (keeps_modify releasedPlaced) fun _ => keeps_pure _

theorem manages_waitForSwitch : Manages Boot.waitForSwitch := by
  refine keeps_tryCatch ?_ fun _ => keeps_pure _
  apply keeps_read
  intro manager placed
  apply keeps_bind (manages_attempt (by exact trivial) _ _)
  intro _
  apply keeps_bind (manages_attempt (by exact trivial) _ _)
  intro _
  have harmless : Harmless
      (.requestInput manager.switchGpio.chip manager.switchGpio.line) := by
    rw [placed.1, placed.2]
    change ∀ gpio ∈ outputGpios, gpio.place ≠ (0, 6)
    decide
  apply keeps_bind (manages_attempt harmless _ _)
  intro _
  apply keeps_bind
  · apply keeps_bind (keeps_ask fun _ _ => trivial)
    intro answer
    cases answer with
    | none => exact keeps_throw _
    | some value => exact keeps_pure _
  · intro value
    refine keeps_bind (keeps_modify ?_) ?_
    · exact fun _ placed => placed
    · intro _
      exact keeps_bind (manages_attempt (by exact trivial) _ _) fun _ => keeps_pure _

theorem manages_access (function : Access) : Manages (access function) := by
  cases function with
  | waitForSwitch => exact manages_waitForSwitch
  | setAlarmGpio => exact manages_driveLine _ _ (fun _ placed => placed) fun _ placed => placed
  | setPs => exact manages_driveLine _ _ (fun _ placed => placed) fun _ placed => placed
  | unsetPs => exact manages_driveLine _ _ (fun _ placed => placed) fun _ placed => placed
  | setSr => exact manages_driveLine _ _ (fun _ placed => placed) fun _ placed => placed

end Setters

section Steps

variable {environment : Environment interface}

/-- A named line is read unless it is a signal of the chassis. -/
theorem asks_getv (target : Target) :
    Asks Cli.Listed ((Cli.construct.gpio target).toList.filter
      fun gpio => !Cli.construct.ischassisgpio gpio) (Cli.construct.getv target) := by
  rw [Cli.getv]
  have reads := (Cli.reads_readgpio target).asks
  cases found : Cli.construct.gpio target with
  | none =>
      rw [found] at reads
      exact reads
  | some gpio =>
      rw [found] at reads
      cases chassis : Cli.construct.ischassisgpio gpio with
      | true =>
          simp only [Option.any_some, chassis, if_true, Option.toList_some, List.filter_cons,
            Bool.not_true, List.filter_nil]
          exact Cli.asks_readdbusgpio target
      | false =>
          simp only [Option.any_some, chassis, Option.toList_some, List.filter_cons,
            Bool.not_false, List.filter_nil, if_true]
          exact reads

theorem asking_get (cname : List UInt8) :
    Asking Cli.Listed environment (((Cli.construct.target cname).bind Cli.construct.gpio).toList.filter
        fun gpio => !Cli.construct.ischassisgpio gpio) 0
      ((Cli.get cname).run environment Cli.construct 0) := by
  simp only [Cli.get, run_bind, run_read, andThen_value, List.length_nil, Nat.add_zero,
    List.nil_append]
  cases Cli.construct.target cname with
  | none => exact (reads_pure (-1)).asks environment _ 0 Cli.construct_listed
  | some target =>
      exact asks_map (asks_getv target) _ environment _ 0 Cli.construct_listed

theorem asks_readallpins : Asks Cli.Listed ((availableGpios.filter fun gpio => gpio.input == true) ++
    availableGpios.filter fun gpio => gpio.input == false) Cli.readallpins := by
  apply asks_bind (Cli.reads_readDirection true)
  intro _
  rw [← List.append_nil (availableGpios.filter fun gpio => gpio.input == false)]
  exact asks_bind (Cli.reads_readDirection false) fun _ => Cli.asks_readChassis

/-- A command that does not set a line reads its lines and drives nothing, and a command that sets
one does no harm. -/
theorem processArgument_effect (arguments : List (List UInt8)) :
    Asking Cli.Listed environment (pinsRead arguments) 0
        ((Cli.processArgument arguments).run environment Cli.construct 0) ∨
      pinsRead arguments = [] ∧ Drives (Cli.processArgument arguments) := by
  have silent (value : Int) : Asking Cli.Listed environment [] 0
      ((Pure.pure value : Program interface Cli Int).run environment Cli.construct 0) :=
    (reads_pure value).asks environment _ 0 Cli.construct_listed
  cases arguments with
  | nil => exact Or.inl (silent 0)
  | cons argument rest =>
      unfold pinsRead Cli.processArgument
      dsimp only
      by_cases set : argument = ascii "set" ∨ argument = ascii "Set"
      · rw [if_pos set, if_pos set]
        rcases rest with _ | ⟨cname, _ | ⟨csetting, _ | ⟨_, _⟩⟩⟩
        · exact Or.inl (silent 0)
        · exact Or.inl (silent 0)
        · exact Or.inr ⟨rfl, drives_set cname csetting⟩
        · exact Or.inl (silent 0)
      rw [if_neg set, if_neg set]
      left
      by_cases get : argument = ascii "get" ∨ argument = ascii "Get"
      · rw [if_pos get, if_pos get]
        rcases rest with _ | ⟨cname, _ | ⟨_, _⟩⟩
        · exact silent 0
        · exact asking_get cname
        · exact silent 0
      rw [if_neg get, if_neg get]
      by_cases all : argument = ascii "all" ∨ argument = ascii "All"
      · rw [if_pos all, if_pos all]
        exact asks_map asks_readallpins _ environment _ 0 Cli.construct_listed
      · rw [if_neg all, if_neg all]
        exact silent 0

end Steps

/-- What the constructors establish and every step keeps. -/
structure System.Wired (system : System) : Prop where
  monitor : system.monitor.Ready
  manager : SwitchPlaced system.manager

variable {system next : System}

/-- A poll of a ready monitor returns, and leaves it ready. -/
theorem step_poll (environment : Environment interface) (ready : system.monitor.Ready) :
    ∃ monitor entries, monitor.Ready ∧ (entries.all fun entry : Answered => !entry.1.drives) = true ∧
      entries.filterMap grant = grants environment availableGpios 0 ∧
      system.step (.poll, environment) =
        some { system with monitor := monitor, lines := system.lines.after entries } := by
  have reading := GpioMonitor.reads_readallpins environment system.monitor 0 ready
  obtain ⟨value, returned⟩ := reading.returned
  refine ⟨_, _, reading.kept, reading.passive, reading.granted, ?_⟩
  simp only [System.step, returned]

theorem manages_run (function : Access) (environment : Environment interface)
    (placed : SwitchPlaced system.manager) :
    ∃ manager entries, SwitchPlaced manager ∧ (∀ entry ∈ entries, Harmless entry.1) ∧
      system.step (.manager function, environment) =
        some { system with manager := manager, lines := system.lines.after entries } := by
  obtain ⟨calls, kept, _⟩ := (manages_access function).sound environment system.manager 0 placed
  refine ⟨_, _, kept, ?_, rfl⟩
  intro entry member
  obtain ⟨call, called, rfl⟩ := List.mem_map.mp member
  exact calls call called

theorem step_wired {event : Event × Environment interface} (wired : system.Wired)
    (taken : system.step event = some next) : next.Wired := by
  obtain ⟨event, environment⟩ := event
  cases event with
  | poll =>
      obtain ⟨monitor, entries, ready, _, _, stepped⟩ := step_poll environment wired.monitor
      cases stepped.symm.trans taken
      exact ⟨ready, wired.manager⟩
  | lcrpin arguments =>
      cases taken
      exact ⟨wired.monitor, wired.manager⟩
  | manager function =>
      obtain ⟨manager, entries, placed, _, stepped⟩ :=
        manages_run function environment wired.manager
      cases stepped.symm.trans taken
      exact ⟨wired.monitor, placed⟩

/-- A step keeps the outputs exactly when it spares them. -/
theorem step_passes {event : Event × Environment interface} (wired : system.Wired)
    (kept : system.lines.Kept) (taken : system.step event = some next) :
    next.lines.Kept ↔ system.Spares event := by
  obtain ⟨event, environment⟩ := event
  cases event with
  | poll =>
      obtain ⟨monitor, entries, _, passive, granted, stepped⟩ :=
        step_poll environment wired.monitor
      cases stepped.symm.trans taken
      refine Iff.trans (kept_passive kept passive) ?_
      rw [granted]
      exact Iff.rfl
  | lcrpin arguments =>
      cases taken
      rcases @processArgument_effect environment arguments with asking | ⟨none, drives⟩
      · refine Iff.trans (kept_passive kept asking.passive) ?_
        rw [asking.granted]
        exact Iff.rfl
      · have spared : system.Spares (.lcrpin arguments, environment) := by
          change system.lines.Spared environment (pinsRead arguments)
          rw [none]
          exact fun _ _ => nofun
        refine iff_of_true (kept_harmless kept ?_) spared
        intro entry member
        obtain ⟨call, called, rfl⟩ := List.mem_map.mp member
        exact (drives.sound environment Cli.construct 0 trivial).1 call called
  | manager function =>
      obtain ⟨manager, entries, _, harmless, stepped⟩ :=
        manages_run function environment wired.manager
      cases stepped.symm.trans taken
      exact iff_of_true (kept_harmless kept harmless) trivial

theorem start_wired (limitJson : Value ℚ) (junk : Monitor.Rail → Boot.AdcElement)
    (environment : Environment interface) (lines : Nat × Nat → Direction) :
    (System.start limitJson junk environment lines).Wired :=
  ⟨GpioMonitor.construct_ready environment _, rfl, rfl⟩

/-- The outputs keep their direction and value throughout exactly the runs whose polls and commands
all spare them. -/
theorem outputs_kept_iff (limitJson : Value ℚ) (junk : Monitor.Rail → Boot.AdcElement)
    (environment : Environment interface) (lines : Nat × Nat → Direction)
    (events : List (Event × Environment interface)) :
    Along System.step (fun _ _ next => next.lines.Kept)
        (System.start limitJson junk environment lines) events ↔
      Along System.step (fun system event _ => system.Spares event)
        (System.start limitJson junk environment lines) events :=
  along_iff_of_step System.Wired (fun _ _ _ wired taken => step_wired wired taken)
    (fun _ _ _ wired kept taken => step_passes wired kept taken)
    (start_wired limitJson junk environment lines) (fun _ _ => rfl) events

/-- Every call succeeds, and every line is high. -/
def granting : Environment interface := fun _ op =>
  match op with
  | .openChip _ | .getLine _ _ | .requestInput _ _ | .requestOutput _ _ _ | .release _ _ => true
  | .getValue _ _ => some 1
  | _ => default

/-- The tool drives the line that the manager declares as its alarm. -/
def alarmDriven : List (Event × Environment interface) :=
  [(.lcrpin [ascii "set", ascii "BP_GPIO_OUT3", ascii "1"], granting)]

/-- In every state of a run whose polls and commands spare the outputs, the lines that the manager
declares for the reset, the supplies and the alarm have the direction and the value in which they
were driven. -/
theorem manager_lines_kept {limitJson : Value ℚ} {junk : Monitor.Rail → Boot.AdcElement}
    {environment : Environment interface} {lines : Nat × Nat → Direction} {system : System}
    (reached : Reach System.step (fun system event => system.Spares event)
      (System.start limitJson junk environment lines) system) :
    ∀ gpio ∈ [(Boot.Manager.construct limitJson junk).sysreset,
      (Boot.Manager.construct limitJson junk).psEnable,
      (Boot.Manager.construct limitJson junk).alarmGpio],
      system.lines.current (gpio.chip, gpio.line) = system.lines.driven (gpio.chip, gpio.line) := by
  have sound : system.Wired ∧ system.lines.Kept := by
    apply reached.invariant fun system => system.Wired ∧ system.lines.Kept
    · exact ⟨start_wired limitJson junk environment lines, fun _ _ => rfl⟩
    · rintro before event after ⟨wired, kept⟩ spares taken
      exact ⟨step_wired wired taken, (step_passes wired kept taken).mpr spares⟩
  intro gpio member
  obtain ⟨output, declared, same⟩ := List.mem_map.mp (manager_outputs limitJson junk gpio member)
  exact same ▸ sound.2 output declared

def drivenSystem : System :=
  (run System.step (System.start .null (fun _ => default) granting fun _ => .input) alarmDriven).get
    (by decide +kernel)

/-- The alarm stays as the tool has driven it. -/
theorem manager_lines_kept_driven : drivenSystem.lines.current (0, 11) = .output 1 ∧
    drivenSystem.lines.current (0, 11) = drivenSystem.lines.driven (0, 11) := by
  have taken : System.step (System.start .null (fun _ => default) granting fun _ => .input)
      (.lcrpin [ascii "set", ascii "BP_GPIO_OUT3", ascii "1"], granting) = some drivenSystem :=
    (Option.some_get _).symm
  have spared : System.Spares (System.start .null (fun _ => default) granting fun _ => .input)
      (.lcrpin [ascii "set", ascii "BP_GPIO_OUT3", ascii "1"], granting) :=
    fun _ _ => nofun
  have kept := manager_lines_kept (.next .start spared taken)
    (Boot.Manager.construct .null fun _ => default).alarmGpio (by simp)
  exact ⟨by decide +kernel, kept⟩

theorem outputs_kept_fails : ¬ ∀ (limitJson : Value ℚ) (junk : Monitor.Rail → Boot.AdcElement)
    (environment : Environment interface) (lines : Nat × Nat → Direction)
    (events : List (Event × Environment interface)),
    Along System.step (fun _ _ next => next.lines.Kept)
      (System.start limitJson junk environment lines) events := by
  intro always
  have check : (run System.step (System.start .null (fun _ => default) granting fun _ => .input)
      alarmDriven).any (fun before => (before.step (.poll, granting)).any fun after =>
        decide (before.lines.current (0, 11) = .output 1) &&
          decide (after.lines.current (0, 11) ≠ after.lines.driven (0, 11))) = true := by
    decide +kernel
  obtain ⟨before, ran, check⟩ := (Option.any_eq_true _ _).mp check
  obtain ⟨after, taken, check⟩ := (Option.any_eq_true _ _).mp check
  rw [Bool.and_eq_true, decide_eq_true_eq, decide_eq_true_eq] at check
  have kept := (always .null (fun _ => default) granting (fun _ => .input)
    (alarmDriven ++ [(.poll, granting)])).last ran taken
  exact check.2 (kept ⟨false, 0, 11, 0, "BP_GPIO_OUT3"⟩ (by decide))

end Chassis.Gpio
