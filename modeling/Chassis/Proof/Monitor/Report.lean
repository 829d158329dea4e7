import Chassis.Construction.Monitor.Adc
import Chassis.Construction.Monitor.Temperature
import Chassis.Effect.Run

namespace Chassis.Monitor
open Effect Program Json

/-- The flags that a round leaves under each name: the high alarm and the low alarm. -/
abbrev Board := String → Option (Bool × Bool)

/-- What a report needs: the name of the sensor, the name of its limits, and the reading. -/
structure Probe where
  name : String
  limits : String
  reading : ℚ

/-- Both limits of a name, the lower one first. -/
def limitsOf (limitJson : Value ℚ) (name : String) : Option (ℚ × ℚ) :=
  (limitOf limitJson name "min").bind fun low =>
    (limitOf limitJson name "max").map fun high => (low, high)

/-- A reading beyond a limit raises the alarm of that limit. -/
def classify (limits : ℚ × ℚ) (reading : ℚ) : Bool × Bool :=
  (decide (reading > limits.2), decide (reading < limits.1))

/-- The reports in order stop at the first one whose limits cannot be read. -/
def reports (limitJson : Value ℚ) : List Probe → Board → Bool × Board
  | [], board => (true, board)
  | probe :: rest, board =>
      match limitsOf limitJson probe.limits with
      | none => (false, board)
      | some limits => reports limitJson rest
          (Function.update board probe.name (some (classify limits probe.reading)))

variable {Element : Type}

def Hwmon.board (hwmon : Hwmon Element) : Board := fun name =>
  (hwmon.sensors name).map fun sensor => (sensor.criticalAlarmHigh, sensor.criticalAlarmLow)

/-- Every element has an object under its name. -/
def Hwmon.Exposes (hwmon : Hwmon Element) (name : Element → String) : Prop :=
  ∀ element ∈ hwmon.elements, (hwmon.board (name element)).isSome

@[simp] theorem setSensor_elements (hwmon : Hwmon Element) (name : String) (sensor : Sensor) :
    (hwmon.setSensor name sensor).elements = hwmon.elements := rfl

@[simp] theorem setSensor_limitJson (hwmon : Hwmon Element) (name : String) (sensor : Sensor) :
    (hwmon.setSensor name sensor).limitJson = hwmon.limitJson := rfl

@[simp] theorem setSensor_same (hwmon : Hwmon Element) (name : String) (sensor : Sensor) :
    (hwmon.setSensor name sensor).sensors name = some sensor :=
  Function.update_self _ _ _

@[simp] theorem setSensor_twice (hwmon : Hwmon Element) (name : String) (first second : Sensor) :
    (hwmon.setSensor name first).setSensor name second = hwmon.setSensor name second := by
  simp only [Hwmon.setSensor, Function.update_idem]

theorem setSensor_board (hwmon : Hwmon Element) (name : String) (sensor : Sensor) :
    (hwmon.setSensor name sensor).board = Function.update hwmon.board name
      (some (sensor.criticalAlarmHigh, sensor.criticalAlarmLow)) := by
  funext other
  rcases eq_or_ne other name with rfl | different
  · simp [Hwmon.board]
  · simp [Hwmon.board, Hwmon.setSensor, different]

section Runs

variable (environment : Environment interface) (hwmon : Hwmon Element) (position : Nat)

theorem run_readLimit (name bound : String) :
    (readLimit name bound).run environment hwmon position =
      ⟨match limitOf hwmon.limitJson name bound with
        | some limit => .value limit
        | none => .thrown .typeError, hwmon, []⟩ := by
  simp only [readLimit, run_bind, run_read, Run.andThen]
  cases limitOf hwmon.limitJson name bound with
  | none => rfl
  | some limit => rfl

theorem run_updateSensor {name : String} {sensor : Sensor}
    (present : hwmon.sensors name = some sensor) (update : Sensor → Sensor) :
    (updateSensor name update).run environment hwmon position =
      ⟨.value (), hwmon.setSensor name (update sensor), []⟩ := by
  simp only [updateSensor, run_bind, run_read, Run.andThen, present, run_modify]
  rfl

end Runs

/-- The effect of one report on the flags, against given limits. -/
structure Reported (limitJson : Value ℚ) (probe : Probe) (hwmon : Hwmon Element)
    (run : Run interface (Hwmon Element) Unit) : Prop where
  outcome : run.outcome = match limitsOf limitJson probe.limits with
    | some _ => .value ()
    | none => .thrown .typeError
  elements : run.state.elements = hwmon.elements
  limits : run.state.limitJson = limitJson
  board : run.state.board = match limitsOf limitJson probe.limits with
    | some limits => Function.update hwmon.board probe.name (some (classify limits probe.reading))
    | none => hwmon.board

/-- A report against the limits of the monitor classifies its reading, or throws and leaves the
flags. -/
theorem report_reported (environment : Environment interface) (hwmon : Hwmon Element)
    (position : Nat) (probe : Probe) (present : (hwmon.board probe.name).isSome) :
    Reported hwmon.limitJson probe hwmon
      ((report probe.name probe.limits probe.reading).run environment hwmon position) := by
  obtain ⟨sensor, found⟩ : ∃ sensor, hwmon.sensors probe.name = some sensor := by
    rw [Hwmon.board, Option.isSome_map, Option.isSome_iff_exists] at present
    exact present
  have same : hwmon.board probe.name =
      some (sensor.criticalAlarmHigh, sensor.criticalAlarmLow) := by
    rw [Hwmon.board, found, Option.map_some]
  cases highLimit : limitOf hwmon.limitJson probe.limits "max" with
  | none =>
      have none : limitsOf hwmon.limitJson probe.limits = none := by simp [limitsOf, highLimit]
      constructor <;> simp [report, run_readLimit, highLimit, Run.andThen, none]
  | some high =>
      cases lowLimit : limitOf hwmon.limitJson probe.limits "min" with
      | none =>
          have none : limitsOf hwmon.limitJson probe.limits = none := by simp [limitsOf, lowLimit]
          constructor <;> simp [report, run_readLimit, run_updateSensor _ _ _ found, highLimit,
            lowLimit, Run.andThen, none, setSensor_board, ← same]
      | some low =>
          have both : limitsOf hwmon.limitJson probe.limits = some (low, high) := by
            simp [limitsOf, lowLimit, highLimit]
          constructor <;> simp [report, run_readLimit, run_updateSensor _ _ _ found,
            run_updateSensor _ _ _ (setSensor_same _ _ _), highLimit, lowLimit, Run.andThen, both,
            setSensor_board, classify]

/-- A loop whose bodies report elements leaves the flags of the reports in order. -/
theorem forEach_reported {environment : Environment interface} {limitJson : Value ℚ}
    {body : Element → Program interface (Hwmon Element) Unit} {probe : Element → Probe}
    (ready : Hwmon Element → Prop) (loaded : ∀ hwmon, hwmon.limitJson = limitJson → ready hwmon)
    (each : ∀ element (hwmon : Hwmon Element) position, ready hwmon →
      (hwmon.board (probe element).name).isSome →
      Reported limitJson (probe element) hwmon ((body element).run environment hwmon position))
    (elements : List Element) (hwmon : Hwmon Element) (position : Nat) (start : ready hwmon)
    (present : ∀ element ∈ elements, (hwmon.board (probe element).name).isSome) :
    ((forEach body elements).run environment hwmon position).outcome =
        (if (reports limitJson (elements.map probe) hwmon.board).1 then .value ()
          else .thrown .typeError) ∧
      ((forEach body elements).run environment hwmon position).state.board =
        (reports limitJson (elements.map probe) hwmon.board).2 ∧
      ((forEach body elements).run environment hwmon position).state.elements =
        hwmon.elements := by
  induction elements generalizing hwmon position with
  | nil => exact ⟨rfl, rfl, rfl⟩
  | cons element rest ih =>
      have first := each element hwmon position start (present element List.mem_cons_self)
      rw [forEach, run_then, List.map_cons, reports]
      cases found : limitsOf limitJson (probe element).limits with
      | none =>
          have outcome := first.outcome
          have board := first.board
          rw [found] at outcome board
          simp only [Run.andThen, outcome, Bool.false_eq_true, if_false]
          exact ⟨trivial, board, first.elements⟩
      | some limits =>
          have outcome := first.outcome
          have board := first.board
          rw [found] at outcome board
          simp only [Run.andThen, outcome, ← board, ← first.elements]
          apply ih _ _ (loaded _ first.limits)
          intro other member
          simp only [board]
          rcases eq_or_ne (probe other).name (probe element).name with same | different
          · rw [same, Function.update_self]
            rfl
          · rw [Function.update_of_ne different]
            exact present other (List.mem_cons_of_mem _ member)

/-- A name that no report is about keeps its flags. -/
theorem reports_other (limitJson : Value ℚ) (probes : List Probe) (board : Board) {name : String}
    (other : name ∉ probes.map Probe.name) : (reports limitJson probes board).2 name = board name := by
  induction probes generalizing board with
  | nil => rfl
  | cons probe rest ih =>
      rw [List.map_cons, List.mem_cons, not_or] at other
      rw [reports]
      cases limitsOf limitJson probe.limits with
      | none => rfl
      | some limits =>
          simp only [ih _ other.2, Function.update_of_ne other.1]

/-- The reports complete when all limits can be read. -/
theorem reports_complete (limitJson : Value ℚ) (probes : List Probe) (board : Board) :
    (reports limitJson probes board).1 = true ↔
      ∀ probe ∈ probes, (limitsOf limitJson probe.limits).isSome := by
  induction probes generalizing board with
  | nil => simp [reports]
  | cons probe rest ih =>
      rw [reports, List.forall_mem_cons]
      cases limitsOf limitJson probe.limits with
      | none => simp
      | some limits => simp [ih]

/-- The probes whose reports are reached: those before the first one without limits. -/
def reached (limitJson : Value ℚ) (probes : List Probe) : List Probe :=
  probes.takeWhile fun probe => (limitsOf limitJson probe.limits).isSome

/-- Each report that is reached sets the flags of its own sensor. -/
theorem reports_reached (limitJson : Value ℚ) (probes : List Probe) (board : Board)
    (distinct : (probes.map Probe.name).Nodup) {probe : Probe}
    (member : probe ∈ reached limitJson probes) :
    (reports limitJson probes board).2 probe.name =
      (limitsOf limitJson probe.limits).map fun limits => classify limits probe.reading := by
  induction probes generalizing board with
  | nil => cases member
  | cons head rest ih =>
      rw [List.map_cons, List.nodup_cons] at distinct
      rw [reached, List.takeWhile_cons] at member
      cases found : limitsOf limitJson head.limits with
      | none => simp [found] at member
      | some limits =>
          simp only [found, Option.isSome_some, if_true, List.mem_cons] at member
          simp only [reports, found]
          rcases member with rfl | later
          · rw [reports_other _ _ _ distinct.1, Function.update_self, found, Option.map_some]
          · exact ih _ distinct.2 later

/-- A sensor whose report is not reached keeps its flags. -/
theorem reports_unreached (limitJson : Value ℚ) (probes : List Probe) (board : Board) {name : String}
    (unreached : name ∉ (reached limitJson probes).map Probe.name) :
    (reports limitJson probes board).2 name = board name := by
  induction probes generalizing board with
  | nil => rfl
  | cons head rest ih =>
      rw [reached, List.takeWhile_cons] at unreached
      rw [reports]
      cases found : limitsOf limitJson head.limits with
      | none => rfl
      | some limits =>
          simp only [found, Option.isSome_some, if_true, List.map_cons, List.mem_cons,
            not_or] at unreached
          simp only [ih _ unreached.2, Function.update_of_ne unreached.1]

/-- No flag is set. -/
def Quiet (board : Board) : Prop := ∀ name flags, board name = some flags → flags = (false, false)

theorem classify_quiet (limits : ℚ × ℚ) (reading : ℚ) :
    classify limits reading = (false, false) ↔ limits.1 ≤ reading ∧ reading ≤ limits.2 := by
  simp only [classify, Prod.mk.injEq, decide_eq_false_iff_not, not_lt]
  exact And.comm

/-- Reports on a quiet board leave it quiet when every reading that is reached lies within its
limits. -/
theorem reports_quiet (limitJson : Value ℚ) (probes : List Probe) {board : Board}
    (distinct : (probes.map Probe.name).Nodup) (quiet : Quiet board) :
    Quiet (reports limitJson probes board).2 ↔ ∀ probe ∈ reached limitJson probes,
      ∀ limits, limitsOf limitJson probe.limits = some limits →
        limits.1 ≤ probe.reading ∧ probe.reading ≤ limits.2 := by
  constructor
  · intro after probe member limits found
    have flags := reports_reached limitJson probes board distinct member
    rw [found, Option.map_some] at flags
    exact (classify_quiet _ _).mp (after probe.name _ flags)
  · intro within name flags set
    by_cases listed : name ∈ (reached limitJson probes).map Probe.name
    · obtain ⟨probe, member, rfl⟩ := List.mem_map.mp listed
      rw [reports_reached limitJson probes board distinct member] at set
      obtain ⟨limits, found, rfl⟩ := Option.map_eq_some_iff.mp set
      exact (classify_quiet _ _).mpr (within probe member limits found)
    · rw [reports_unreached limitJson probes board listed] at set
      exact quiet name flags set

end Chassis.Monitor
