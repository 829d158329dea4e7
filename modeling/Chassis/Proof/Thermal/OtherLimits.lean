import Chassis.Proof.Monitor.Published
import Chassis.Proof.Store.Restore
import Chassis.Proof.Thermal.Setting

namespace Chassis.Thermal
open Effect Program Json Store Monitor

variable {numbers : Numbers}

section Objects

/-- The objects with another name are as they were, and none has come or gone. -/
structure Untouched (item : List UInt8) (before after : Plant) : Prop where
  elements : after.monitor.elements = before.monitor.elements
  exposed : ∀ name, (after.monitor.board name).isSome = (before.monitor.board name).isSome
  sensors : ∀ name, ascii name ≠ item → after.monitor.sensors name = before.monitor.sensors name
  others : ∀ path : List (List UInt8), path.getLastD [] ≠ item →
    after.others path = before.others path

variable {item : List UInt8}

theorem Untouched.refl (plant : Plant) : Untouched item plant plant :=
  ⟨rfl, fun _ => rfl, fun _ _ => rfl, fun _ _ => rfl⟩

theorem Untouched.trans {first second third : Plant} (front : Untouched item first second)
    (back : Untouched item second third) : Untouched item first third :=
  ⟨back.elements.trans front.elements, fun name => (back.exposed name).trans (front.exposed name),
    fun name other => (back.sensors name other).trans (front.sensors name other),
    fun path other => (back.others path other).trans (front.others path other)⟩

/-- Setting a property touches objects with the name of its path. -/
theorem setProperty_untouched (plant : Plant) {path : ObjectPath} (named : path.name = item)
    (property : String) (value : ℚ) : Untouched item plant (plant.setProperty path property value) where
  elements := rfl
  exposed := by
    intro name
    simp only [Hwmon.board, Plant.setProperty]
    split
    next => simp
    next => rfl
  sensors := by
    intro name other
    simp only [Plant.setProperty]
    split
    next same =>
      rw [ObjectPath.name, same] at named
      exact absurd named other
    next => rfl
  others := by
    intro elements other
    simp only [Plant.setProperty]
    split
    next same =>
      rw [ObjectPath.name, same] at named
      exact absurd named other
    next => rfl

/-- The command writes the file itself. -/
theorem setThreshold_file (value : numbers.Number → ℚ) (setting : Setting numbers)
    (environment : Environment (Store.interface numbers)) (plant : Plant) :
    (plant.setThreshold value setting environment).file =
      ((Store.setThreshold setting).run environment plant.file 0).state := by
  have each (calls : List (Call (Store.interface numbers) (List UInt8))) (start : Plant) :
      (calls.foldl (Plant.observe value) start).file = start.file := by
    induction calls generalizing start with
    | nil => rfl
    | cons call rest ih =>
        refine (ih _).trans ?_
        unfold Plant.observe
        split
        next => rfl
        next => rfl
  exact each _ _

/-- A command touches objects with the name of its item. -/
theorem setThreshold_untouched (value : numbers.Number → ℚ) (setting : Setting numbers)
    (environment : Environment (Store.interface numbers)) (plant : Plant) :
    Untouched setting.itemname plant (plant.setThreshold value setting environment) := by
  have names := (pre_sound (Store.setThreshold setting) environment plant.file 0
    (setThreshold_names plant.file)).1
  rw [Plant.setThreshold]
  generalize (Store.setThreshold setting).run environment plant.file 0 = run at names ⊢
  have each (calls : List (Call (Store.interface numbers) (List UInt8))) (start : Plant)
      (named : ∀ call ∈ calls, Names setting call.state call.op) :
      Untouched setting.itemname start (calls.foldl (Plant.observe value) start) := by
    induction calls generalizing start with
    | nil => exact .refl start
    | cons call rest ih =>
        obtain ⟨first, later⟩ := List.forall_mem_cons.mp named
        refine Untouched.trans ?_ (ih _ later)
        unfold Plant.observe
        split
        next state path property limit => exact setProperty_untouched start first property (value limit)
        next => exact .refl start
  have written : Untouched setting.itemname plant { plant with file := run.state } :=
    ⟨rfl, fun _ => rfl, fun _ _ => rfl, fun _ _ => rfl⟩
  exact written.trans (each run.calls _ names)

end Objects

section Limits

variable (value : numbers.Number → ℚ) (setting : Setting numbers) (objects : Objects)

/-- The limits of the temperatures, the lower one first, that a file has after the command. -/
def limitsAfter (paths : List ObjectPath) (j : Value numbers.Number) : Option (ℚ × ℚ) :=
  (limitAfter setting objects paths j "min").bind fun low =>
    (limitAfter setting objects paths j "max").map fun high => (value low, value high)

/-- The monitor reads the numbers of the file. -/
theorem limitOf_substitute (j : Value numbers.Number) (name bound : String) :
    limitOf (j.substitute fun number => .number (value number)) name bound =
      (limitIn j (ascii name) (ascii bound)).map value := by
  have scalar (key : List UInt8) (number : numbers.Number) :
      (Value.number (value number)).member key = none := rfl
  rw [limitOf, limitIn, member_substitute _ _ _ (scalar (ascii name))]
  cases j.member (ascii name) with
  | none => rfl
  | some entry =>
      rw [Option.map_some, Option.bind_some, Option.bind_some,
        member_substitute _ _ _ (scalar (ascii bound))]
      cases entry.member (ascii bound) with
      | none => rfl
      | some limit =>
          cases limit with
          | null | boolean | number | string | array | object => rfl

/-- After a command for a temperature the monitor reads a file with these limits. -/
theorem setThreshold_readBack (broken : Parsed)
    (temperature : setting.type.map toLower = ascii "temperature")
    {paths : List ObjectPath} (listed : objects.listing = some paths)
    (named : ∃ path ∈ paths, path.name = setting.itemname) {plant : Plant}
    {j : Value numbers.Number} (parsed : parse numbers.read plant.file = some j) (tidy : Tidy j) :
    ∃ file, (readBack value broken
        (plant.setThreshold value setting objects.environment).file).value? = some file ∧
      limitsOf file "TempLimits" = limitsAfter value setting objects paths j := by
  obtain ⟨next, read, limits⟩ :=
    setThreshold_limits setting objects temperature listed named parsed tidy
  refine ⟨next.substitute fun number => .number (value number), ?_, ?_⟩
  · rw [setThreshold_file, readBack, read]
    rfl
  · rw [limitsOf, limitOf_substitute, limitOf_substitute, limits, limits, limitsAfter]
    cases limitAfter setting objects paths j "min" with
    | none => rfl
    | some low =>
        cases limitAfter setting objects paths j "max" with
        | none => rfl
        | some high => rfl

end Limits

/-- After the command and the next pass of the monitor, the sensors with another name have the
limits that they had before, their alarms are decided by these, and the objects of other programs
under other names are as they were. -/
def OthersKept (value : numbers.Number → ℚ) (broken : Parsed) (contents : String → List UInt8)
    (setting : Setting numbers) (environment : Environment (Store.interface numbers))
    (plant : Plant) : Prop :=
  let after := plant.setThreshold value setting environment
  let round := after.sendAllReadings value broken contents
  (∀ sensor ∈ plant.monitor.elements, ascii sensor.dirName ≠ setting.itemname →
    round.outcome = .value () ∧
      round.state.published sensor.dirName = plant.monitor.published sensor.dirName ∧
      round.state.board sensor.dirName = (plant.monitor.published sensor.dirName).map fun limits =>
        classify limits (degrees sensor.curReading)) ∧
    ∀ path : List (List UInt8), path.getLastD [] ≠ setting.itemname →
      after.others path = plant.others path

/-- A command for a temperature keeps the limits of the other sensors just when they are the ones
that the file has after the command. -/
theorem othersKept_iff (value : numbers.Number → ℚ) (broken : Parsed)
    (contents : String → List UInt8)
    (earlier : List (Setting numbers × Environment (Store.interface numbers))) (plant : Plant)
    (filed : plant.file = thresholdsFile earlier) (wired : plant.monitor.Wired)
    (setting : Setting numbers) (temperature : setting.type.map toLower = ascii "temperature")
    (objects : Objects) (paths : List ObjectPath) (listed : objects.listing = some paths)
    (named : ∃ path ∈ paths, path.name = setting.itemname) :
    OthersKept value broken contents setting objects.environment plant ↔
      ∃ j, parse numbers.read plant.file = some j ∧
        ∀ sensor ∈ plant.monitor.elements, ascii sensor.dirName ≠ setting.itemname →
          plant.monitor.published sensor.dirName = limitsAfter value setting objects paths j := by
  obtain ⟨document, stored⟩ := thresholdsFile_stored earlier
  have parsed : parse numbers.read plant.file = some document.value := by
    rw [filed, stored]
    exact document.parse_rows []
  obtain ⟨file, left, limits⟩ := setThreshold_readBack value setting objects broken temperature
    listed named parsed document.tidy
  have untouched := setThreshold_untouched value setting objects.environment plant
  have wiredAfter : TempSensor.Wired
      (plant.setThreshold value setting objects.environment).monitor := by
    constructor
    · intro element member
      rw [untouched.elements] at member
      rw [untouched.exposed]
      exact wired.exposed element member
    · rw [untouched.elements]
      exact wired.distinct
  have each := fun sensor member limits => @sendAllReadings_limits_iff contents _ file left _
    wiredAfter 0 sensor member limits
  rw [untouched.elements, limits] at each
  rw [OthersKept, and_iff_left untouched.others]
  constructor
  · intro kept
    refine ⟨document.value, parsed, ?_⟩
    intro sensor member other
    obtain ⟨published, known⟩ : ∃ published,
        plant.monitor.published sensor.dirName = some published := by
      rw [← Option.isSome_iff_exists, published_isSome]
      exact wired.exposed sensor member
    obtain ⟨returned, same, flags⟩ := kept sensor member other
    rw [known] at same flags ⊢
    exact ((each sensor member published).mp ⟨returned, same, flags⟩).symm
  · rintro ⟨j, read, same⟩ sensor member other
    cases parsed.symm.trans read
    obtain ⟨published, known⟩ : ∃ published,
        plant.monitor.published sensor.dirName = some published := by
      rw [← Option.isSome_iff_exists, published_isSome]
      exact wired.exposed sensor member
    rw [known]
    exact (each sensor member published).mpr ((same sensor member other).symm.trans known)

/-- The numbers of the numerals in the file that the firmware ships, and of a lower limit. -/
def valueOf (number : literals.Number) : ℚ :=
  (([("-20.0", -20), ("80.0", 80), ("70.0", 70), ("11.4", 57 / 5), ("12.6", 63 / 5),
    ("3.135", 627 / 200), ("3.465", 693 / 200), ("4.75", 19 / 4), ("5.25", 21 / 4)].find?
      fun entry => ascii entry.1 = number.val).map Prod.snd).getD 0

/-- Two sensors with the limits that the firmware ships. -/
def twoSensors : Plant where
  file := shipped
  monitor :=
    { elements := [⟨"hwmon0", 25000, inInt_mild⟩, ⟨"hwmon1", 25000, inInt_mild⟩]
      sensors _ := some ⟨25, 80, -20, false, false⟩
      limitJson := .null }
  others _ := none

theorem twoSensors_wired : twoSensors.monitor.Wired :=
  ⟨fun _ _ => rfl, by decide⟩

/-- The upper limit of the first sensor becomes seventy degrees. -/
def lowered : Setting literals :=
  ⟨ascii "temperature", ascii "hwmon0", ascii "high", ⟨ascii "70.0", by decide⟩⟩

/-- The bus lists the first sensor and accepts the limit. -/
def firstSensor : ObjectPath := ⟨temperaturePath "hwmon0", by decide⟩

def loneListing : Objects := ⟨some [firstSensor], fun _ => true⟩

theorem firstSensor_named : ∃ path ∈ [firstSensor], path.name = lowered.itemname :=
  ⟨firstSensor, List.mem_singleton_self _, by decide⟩

theorem othersKept_twoSensors :
    OthersKept valueOf .outOfRange (fun _ => []) lowered loneListing.environment twoSensors ↔
      ∃ j, parse literals.read twoSensors.file = some j ∧
        ∀ sensor ∈ twoSensors.monitor.elements, ascii sensor.dirName ≠ lowered.itemname →
          twoSensors.monitor.published sensor.dirName =
            limitsAfter valueOf lowered loneListing [firstSensor] j :=
  othersKept_iff valueOf .outOfRange (fun _ => []) [] twoSensors rfl twoSensors_wired lowered
    (by decide) loneListing [firstSensor] rfl firstSensor_named

theorem othersKept_fails : ¬ ∀ (numbers : Numbers) (value : numbers.Number → ℚ) (broken : Parsed)
    (contents : String → List UInt8)
    (earlier : List (Setting numbers × Environment (Store.interface numbers))) (plant : Plant),
    plant.file = thresholdsFile earlier → plant.monitor.Wired →
    ∀ setting : Setting numbers, setting.type.map toLower = ascii "temperature" →
    ∀ (objects : Objects) (paths : List ObjectPath), objects.listing = some paths →
      (∃ path ∈ paths, path.name = setting.itemname) →
      OthersKept value broken contents setting objects.environment plant := by
  intro always
  have kept := always literals valueOf .outOfRange (fun _ => []) [] twoSensors rfl
    twoSensors_wired lowered (by decide) loneListing [firstSensor] rfl firstSensor_named
  have other := kept.1 ⟨"hwmon1", 25000, inInt_mild⟩
    (List.mem_cons_of_mem _ (List.mem_singleton_self _))
    (by decide)
  have moved : Hwmon.published ((twoSensors.setThreshold valueOf lowered
      loneListing.environment).sendAllReadings valueOf .outOfRange (fun _ => [])).state "hwmon1" =
        some (-20, 70) := by
    decide +kernel
  have before : twoSensors.monitor.published "hwmon1" = some (-20, 80) := rfl
  have same := other.2.1
  rw [moved, before] at same
  cases same

end Chassis.Thermal
