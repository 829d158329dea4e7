import Chassis.Proof.Gpio.Reads

namespace Chassis.Gpio
open Effect Program

/-- The three places that hold a signal of the chassis: the bus, the board and the tool. -/
structure Stores where
  published : String → Option ℚ
  lines : Lines
  cli : Cli

/-- What the three places hold of one signal. -/
@[ext] structure Signal where
  published : Option ℚ
  line : Direction
  status : Int
  deriving DecidableEq

/-- All three places hold the value. -/
def Signal.all (value : Int) : Signal := ⟨some (value : ℚ), .output value, value⟩

namespace Stores

/-- A property that is set takes effect when the call succeeds. -/
def publish (published : String → Option ℚ) : (op : Boot.Op) → op.Answer → String → Option ℚ
  | .setValueProperty path value, true => Function.update published path (some value)
  | _, _ => published

/-- The effect of a run of the tool on the three places. -/
def after {Value : Type} (stores : Stores) (run : Run interface Cli Value) : Stores where
  published :=
    (answers run).foldl (fun published entry => publish published entry.1 entry.2) stores.published
  lines := stores.lines.after (answers run)
  cli := run.state

def signalOf (stores : Stores) (gpio : GpioInfo) : Signal :=
  ⟨stores.published (Boot.gpioPath gpio.name), stores.lines.current gpio.place, gpio.status⟩

def signal (stores : Stores) (target : Target) : Option Signal :=
  (stores.cli.gpio target).map stores.signalOf

/-- A call that returns -1 changes nothing of the signal, and a call that returns 0 leaves the value
in all three places. -/
def SetsAtomically (stores : Stores) (environment : Environment interface) (target : Target)
    (value : Int) : Prop :=
  let run := (Cli.setdbusgpio target value).run environment stores.cli 0
  (run.outcome = .value (-1) → (stores.after run).signal target = stores.signal target) ∧
    (run.outcome = .value 0 → (stores.after run).signal target = some (.all value))

end Stores

@[simp] theorem gpio_setStatus (cli : Cli) (target : Target) (status : Int) :
    (cli.setStatus status target).gpio target =
      (cli.gpio target).map fun gpio => { gpio with status := status } := by
  cases target with
  | available index => simp [Cli.setStatus, Cli.gpio]
  | chassis index => simp [Cli.setStatus, Cli.gpio]

@[simp] theorem signal_after (stores : Stores) (target : Target) {Value : Type}
    (outcome : Outcome interface Value) (cli : Cli) (calls : List (Call interface Cli)) :
    (stores.after ⟨outcome, cli, calls⟩).signal target = (cli.gpio target).map
      (Stores.signalOf ⟨calls.foldl (fun published call => Stores.publish published call.op
        call.answer) stores.published, calls.foldl (fun lines call => lines.observe call.op
          call.answer) stores.lines, cli⟩) := by
  simp only [Stores.after, Stores.signal, answers, Lines.after, List.foldl_map]

section Atomic

variable (stores : Stores) (environment : Environment interface) (target : Target) (value : Int)

/-- The bus takes the value before anything is done to the line. -/
def Published (gpio : GpioInfo) : Bool :=
  environment 0 (.setValueProperty (Boot.gpioPath gpio.name) value)

/-- The chip opens, the line is found, and the request for it succeeds. -/
def Driven (gpio : GpioInfo) : Bool :=
  environment 1 (.openChip gpio.chip) && environment 2 (.getLine gpio.chip gpio.line) &&
    environment 3 (.requestOutput gpio.chip gpio.line value)

def Freed (gpio : GpioInfo) : Bool := environment 4 (.release gpio.chip gpio.line)

/-- The call is refused before it changes anything, or it meets no failure at all, or what it changes
before the failure holds the value already. -/
def Undivided (gpio : GpioInfo) : Prop :=
  gpio.input = true ∨ (value ≠ 0 ∧ value ≠ 1) ∨ Published environment value gpio = false ∨
    if Driven environment value gpio then
      Freed environment gpio = true ∨ stores.signalOf gpio = .all value
    else (stores.signalOf gpio).published = some (value : ℚ)

variable {stores environment target value}

/-- A call that is not refused publishes, drives and releases in this order, and the first failure
ends it. -/
theorem signal_setdbusgpio {gpio : GpioInfo} (found : stores.cli.gpio target = some gpio)
    (output : gpio.input = false) (bit : value = 0 ∨ value = 1) :
    let run := (Cli.setdbusgpio target value).run environment stores.cli 0
    run.outcome = .value (if Published environment value gpio && Driven environment value gpio &&
        Freed environment gpio then 0 else -1) ∧
      (stores.after run).signal target = some (
        if Published environment value gpio then
          if Driven environment value gpio then .all value
          else { stores.signalOf gpio with published := some (value : ℚ) }
        else stores.signalOf gpio) := by
  have input : ¬gpio.input = true := by rw [output]; decide
  have invalid : ¬(value ≠ 0 ∧ value ≠ 1) := by omega
  rw [Cli.setdbusgpio, Cli.setWith, run_bind, run_read]
  simp only [andThen_value, found, if_neg input, if_neg invalid, run_tryCatch, run_attempt,
    run_record, run_pure, id, List.length_nil, Nat.add_zero, Nat.zero_add, Nat.reduceAdd]
  unfold Published Driven Freed
  cases published : environment 0 (.setValueProperty (Boot.gpioPath gpio.name) value) with
  | false => simp [Run.orElse, found, Stores.signalOf, Stores.publish, Lines.observe]
  | true =>
  cases opened : environment 1 (.openChip gpio.chip) with
  | false => simp [Run.orElse, found, Stores.signalOf, Stores.publish, Lines.observe]
  | true =>
  cases listed : environment 2 (.getLine gpio.chip gpio.line) with
  | false => simp [Run.orElse, found, Stores.signalOf, Stores.publish, Lines.observe]
  | true =>
  cases requested : environment 3 (.requestOutput gpio.chip gpio.line value) with
  | false => simp [Run.orElse, found, Stores.signalOf, Stores.publish, Lines.observe]
  | true =>
  cases freed : environment 4 (.release gpio.chip gpio.line) with
  | false =>
      simp [Run.orElse, found, Stores.signalOf, Stores.publish, Lines.observe, GpioInfo.place,
        Signal.all]
  | true =>
      simp [Run.orElse, found, Stores.signalOf, Stores.publish, Lines.observe, GpioInfo.place,
        Signal.all]

/-- A call that returns -1 without a call to the system is atomic. -/
theorem setsAtomically_of_refused
    (refused : (Cli.setdbusgpio target value).run environment stores.cli 0 =
      ⟨.value (-1), stores.cli, []⟩) : stores.SetsAtomically environment target value := by
  unfold Stores.SetsAtomically
  rw [refused]
  exact ⟨fun _ => rfl, nofun⟩

/-- Setting a signal is atomic for exactly the calls that are not divided by a failure. -/
theorem setdbusgpio_atomic_iff {gpio : GpioInfo} (found : stores.cli.gpio target = some gpio) :
    stores.SetsAtomically environment target value ↔ Undivided stores environment value gpio := by
  cases input : gpio.input with
  | true =>
      refine iff_of_true (setsAtomically_of_refused ?_) (.inl input)
      simp [Cli.setdbusgpio, Cli.setWith, found, input]
  | false =>
  by_cases invalid : value ≠ 0 ∧ value ≠ 1
  · refine iff_of_true (setsAtomically_of_refused ?_) (.inr (.inl invalid))
    simp [Cli.setdbusgpio, Cli.setWith, found, invalid]
  · obtain ⟨outcome, left⟩ := @signal_setdbusgpio stores environment target value gpio found input
      (by omega)
    have before : stores.signal target = some (stores.signalOf gpio) := by
      rw [Stores.signal, found, Option.map_some]
    simp only [Stores.SetsAtomically, Undivided, outcome, left, before, input, invalid]
    -- The failure comes before the publication, between it and the end of the drive, or behind both.
    cases Published environment value gpio with
    | false => simp
    | true =>
    cases Driven environment value gpio with
    | false => simp [Signal.ext_iff, eq_comm]
    | true =>
    cases Freed environment gpio with
    | false => simp [eq_comm]
    | true => simp

end Atomic

/-- All signals are zero before a call. -/
def lowStores : Stores := ⟨fun _ => some 0, ⟨fun _ => .output 0, fun _ => .output 0⟩, Cli.construct⟩

/-- The bus takes a value, and no chip opens. -/
def closedChips : Environment interface := fun _ op =>
  match op with
  | .setValueProperty _ _ => true
  | op => (default : op.Answer)

theorem setdbusgpio_atomic_psenable :
    lowStores.SetsAtomically closedChips (.chassis 3) 0 ↔
      Undivided lowStores closedChips 0 psenable :=
  setdbusgpio_atomic_iff rfl

/-- The power supplies are published as enabled, and their line is left alone. -/
theorem setdbusgpio_divided : ¬ ∀ (stores : Stores) (environment : Environment interface)
    (index : Nat) (gpio : GpioInfo) (value : Int), stores.cli = Cli.construct →
      stores.cli.gpio (.chassis index) = some gpio →
      stores.SetsAtomically environment (.chassis index) value := by
  intro always
  have atomic := always lowStores closedChips 3 psenable 1 rfl rfl
  have failed : ((Cli.setdbusgpio (.chassis 3) 1).run closedChips lowStores.cli 0).outcome =
      .value (-1) := by decide +kernel
  have kept := congrArg (Option.map Signal.published) (atomic.1 failed)
  exact absurd kept (by decide +kernel)

end Chassis.Gpio
