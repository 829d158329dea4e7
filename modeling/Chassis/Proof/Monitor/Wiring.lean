import Chassis.Data.List
import Chassis.Effect.Precondition
import Chassis.Proof.Monitor.Report

namespace Chassis.Monitor
open Effect Program

section Wiring

variable {Element : Type}

/-- No object of the first monitor is missing in the second, and the elements are the same. -/
structure Hwmon.Extends (before after : Hwmon Element) : Prop where
  elements : after.elements = before.elements
  exposed : ∀ name, (before.board name).isSome → (after.board name).isSome

theorem Hwmon.Extends.refl (hwmon : Hwmon Element) : hwmon.Extends hwmon :=
  ⟨rfl, fun _ present => present⟩

theorem Hwmon.Extends.trans {first second third : Hwmon Element} (front : first.Extends second)
    (back : second.Extends third) : first.Extends third :=
  ⟨back.elements.trans front.elements, fun name present =>
    back.exposed name (front.exposed name present)⟩

theorem extends_setSensor (hwmon : Hwmon Element) (name : String) (sensor : Sensor) :
    hwmon.Extends (hwmon.setSensor name sensor) := by
  refine ⟨rfl, ?_⟩
  intro other present
  rw [setSensor_board]
  rcases eq_or_ne other name with rfl | different
  · simp
  · simpa [different] using present

/-- A condition on what a program returns, when nothing is asked of its exceptions. -/
abbrev returning {Value : Type} (returns : Value → Hwmon Element → Prop) :
    Post interface (Hwmon Element) Value :=
  ⟨returns, fun _ _ => True, fun _ _ => True⟩

/-- Every call is allowed. -/
abbrev anyCall : Hwmon Element → Op → Prop := fun _ _ => True

theorem pre_readLimit (name bound : String) (hwmon : Hwmon Element) :
    (readLimit name bound).pre anyCall (returning fun _ next => hwmon.Extends next) hwmon := by
  simp only [readLimit, pre_bind, pre_read]
  cases limitOf hwmon.limitJson name bound with
  | none => trivial
  | some limit => exact .refl hwmon

theorem pre_updateSensor (name : String) (update : Sensor → Sensor) (hwmon : Hwmon Element) :
    (updateSensor name update).pre anyCall (returning fun _ next => hwmon.Extends next)
      hwmon := by
  simp only [updateSensor, pre_bind, pre_read]
  cases hwmon.sensors name with
  | none => trivial
  | some sensor => exact extends_setSensor hwmon name _

/-- A program that only adds objects goes on with another one. -/
theorem pre_extends {Value Result : Type} {first : Program interface (Hwmon Element) Value}
    {rest : Value → Program interface (Hwmon Element) Result} {hwmon : Hwmon Element}
    (front : first.pre anyCall (returning fun _ next => hwmon.Extends next) hwmon)
    (back : ∀ value next, (rest value).pre anyCall (returning fun _ last => next.Extends last)
      next) :
    (first >>= rest).pre anyCall (returning fun _ last => hwmon.Extends last) hwmon := by
  rw [pre_bind]
  apply pre_value front
  intro value next grown
  apply pre_value (back value next)
  exact fun _ last later => grown.trans later

theorem pre_report (name limits : String) (reading : ℚ) (hwmon : Hwmon Element) :
    (report name limits reading).pre anyCall (returning fun _ next => hwmon.Extends next)
      hwmon := by
  unfold report
  apply pre_extends (pre_readLimit _ _ _)
  intro _ _
  apply pre_extends (pre_updateSensor _ _ _)
  intro _ _
  apply pre_extends (pre_readLimit _ _ _)
  intro _ _
  apply pre_extends (pre_updateSensor _ _ _)
  intro _ _
  apply pre_extends (pre_readLimit _ _ _)
  intro _ _
  apply pre_extends (pre_readLimit _ _ _)
  intro _ _
  apply pre_extends (pre_updateSensor _ _ _)
  intro _ _
  apply pre_extends (pre_updateSensor _ _ _)
  intro _ _
  exact pre_updateSensor _ _ _

theorem pre_loadLimits (hwmon : Hwmon Element) :
    loadLimits.pre anyCall (returning fun _ next => hwmon.Extends next) hwmon := by
  refine ⟨trivial, ?_⟩
  intro parsed
  cases parsed with
  | accepted value => exact ⟨rfl, fun _ present => present⟩
  | rejected left => exact ⟨rfl, fun _ present => present⟩
  | outOfRange => trivial

theorem pre_expose (name limits : String) (hwmon : Hwmon Element) :
    (expose name limits).pre anyCall
      (returning fun _ next => hwmon.Extends next ∧ (next.board name).isSome) hwmon := by
  rw [expose, pre_bind]
  apply pre_value (pre_readLimit _ _ _)
  intro high next front
  rw [pre_bind]
  apply pre_value (pre_readLimit _ _ _)
  intro low last back
  refine ⟨(front.trans back).trans (extends_setSensor last name _), ?_⟩
  simp [setSensor_board]

/-- The loop of a constructor exposes every element. -/
theorem pre_exposeAll (name limits : Element → String) (elements : List Element)
    (hwmon : Hwmon Element) :
    (forEach (fun element => expose (name element) (limits element)) elements).pre anyCall
      (returning fun _ next => hwmon.Extends next ∧
        ∀ element ∈ elements, (next.board (name element)).isSome) hwmon := by
  induction elements generalizing hwmon with
  | nil => exact ⟨.refl hwmon, by simp⟩
  | cons element rest ih =>
      rw [forEach, pre_then]
      apply pre_value (pre_expose _ _ _)
      intro _ next exposed
      apply pre_value (ih next)
      intro _ last others
      refine ⟨exposed.1.trans others.1, ?_⟩
      intro other member
      rcases List.mem_cons.mp member with rfl | later
      · exact others.1.exposed _ exposed.2
      · exact others.2 other later

end Wiring

/-- What the constructor fixes of an element. -/
def AdcElement.wiring (adc : AdcElement) : String × String × ℚ := (adc.name, adc.path, adc.scaleCoeff)

def Rail.wiring (rail : Rail) : String × String × ℚ := (rail.name, rail.path, rail.scaleCoeff)

/-- The elements are the rails, and each has an object under its name. -/
structure AdcSensor.Wired (hwmon : AdcSensor) : Prop where
  elements : hwmon.elements.map AdcElement.wiring =
    rails.map Rail.wiring
  exposed : ∀ rail ∈ rails, (hwmon.board rail.name).isSome

namespace AdcSensor

/-- An update of a reading keeps the wiring and the objects. -/
def Keeps (before after : AdcSensor) : Prop :=
  after.elements.map AdcElement.wiring = before.elements.map AdcElement.wiring ∧
    after.board = before.board

theorem pre_updateReading (index : Nat) {start hwmon : AdcSensor} (kept : Keeps start hwmon) :
    (updateReading index).pre anyCall (returning fun _ next => Keeps start next) hwmon := by
  simp only [updateReading, pre_bind, pre_read]
  cases hwmon.elements[index]? with
  | none => exact kept
  | some adc =>
      refine ⟨trivial, ?_⟩
      intro content
      dsimp only [Program.bind]
      cases stoi content with
      | none => trivial
      | some rawReading =>
          refine ⟨?_, kept.2⟩
          have same : ∀ adc : AdcElement, AdcElement.wiring { adc with
              rawReading := rawReading, vCurrent := scaled adc.scaleCoeff rawReading } =
                id adc.wiring := fun _ => rfl
          rw [Data.map_modify _ same, List.modify_id]
          exact kept.1

theorem pre_updateReadings (hwmon : AdcSensor) :
    updateReadings.pre anyCall (returning fun _ next => Keeps hwmon next) hwmon := by
  simp only [updateReadings, pre_bind, pre_read]
  apply pre_forEach _ _ (Keeps hwmon) _ _ _ _ ⟨rfl, rfl⟩
  exact fun index _ _ kept => pre_updateReading index kept

theorem wired_of_keeps {before after : AdcSensor} (wired : before.Wired)
    (kept : Keeps before after) : after.Wired :=
  ⟨kept.1.trans wired.elements, fun rail listed => kept.2 ▸ wired.exposed rail listed⟩

theorem wired_of_extends {before after : AdcSensor} (wired : before.Wired)
    (extended : before.Extends after) : after.Wired :=
  ⟨by rw [extended.elements]; exact wired.elements,
    fun rail listed => extended.exposed _ (wired.exposed rail listed)⟩

theorem calculateCs_wiring (junk : Rail → AdcElement) :
    ((adcs junk).map fun adc => { adc with scaleCoeff := scaleOf adc.vTarget }).map
      AdcElement.wiring = rails.map Rail.wiring := by
  rw [adcs, List.map_map, List.map_map]
  rfl

/-- The constructor returns a wired monitor. -/
theorem construct_wired (junk : Rail → AdcElement) (hwmon : AdcSensor) :
    (construct junk).pre anyCall (returning fun _ next => Wired next) hwmon := by
  rw [construct, pre_bind]
  apply pre_value (pre_loadLimits hwmon)
  intro _ loaded _
  simp only [calculateCs, pre_bind, pre_modify]
  apply pre_value (pre_updateReadings _)
  intro _ read kept
  simp only [exposeReadings, pre_bind, pre_read]
  apply pre_value (pre_exposeAll AdcElement.name AdcElement.name read.elements read)
  intro _ exposed ended
  have elements := kept.1.trans (calculateCs_wiring junk)
  refine ⟨by rw [ended.1.elements]; exact elements, ?_⟩
  intro rail listed
  have present : rail.wiring ∈ read.elements.map AdcElement.wiring := by
    rw [elements]
    exact List.mem_map_of_mem listed
  obtain ⟨adc, member, same⟩ := List.mem_map.mp present
  have name : adc.name = rail.name := congrArg Prod.fst same
  exact name ▸ ended.2 adc member

/-- A round that returns leaves a wired monitor. -/
theorem round_wired {hwmon : AdcSensor} (wired : hwmon.Wired) :
    round.pre anyCall (returning fun _ next => Wired next) hwmon := by
  rw [round, pre_bind]
  apply pre_value (pre_updateReadings hwmon)
  intro _ read kept
  rw [sendAllReadings, pre_bind]
  apply pre_value (pre_loadLimits read)
  intro _ loaded extended
  simp only [pre_bind, pre_read]
  apply pre_forEach _ _ Wired _ _ _ _ (wired_of_extends (wired_of_keeps wired kept) extended)
  intro adc _ next wired
  apply pre_value (pre_report adc.name adc.name adc.vCurrent next)
  exact fun _ _ extended => wired_of_extends wired extended

end AdcSensor

namespace TempSensor

/-- The constructor exposes all of its elements. -/
theorem construct_exposes (sensorItems : List SensorElement) (hwmon : TempSensor) :
    (construct sensorItems).pre anyCall (returning fun _ next =>
      next.elements = sensorItems ∧ next.Exposes SensorElement.dirName) hwmon := by
  rw [construct, pre_bind]
  apply pre_value (pre_loadLimits hwmon)
  intro _ loaded _
  rw [pre_bind, pre_modify]
  apply pre_value (pre_exposeAll SensorElement.dirName (fun _ => "TempLimits") sensorItems _)
  intro _ exposed ended
  have elements : exposed.elements = sensorItems := ended.1.elements
  refine ⟨elements, ?_⟩
  intro element member
  rw [elements] at member
  exact ended.2 element member

/-- A round keeps the elements and their objects. -/
theorem sendAllReadings_exposes {hwmon : TempSensor}
    (exposes : hwmon.Exposes SensorElement.dirName) :
    sendAllReadings.pre anyCall (returning fun _ next =>
      next.elements = hwmon.elements ∧ next.Exposes SensorElement.dirName) hwmon := by
  simp only [sendAllReadings, pre_bind, pre_read]
  have grown : (forEach sendReading hwmon.elements).pre anyCall
      (returning fun _ next => hwmon.Extends next) hwmon := by
    apply pre_forEach _ _ hwmon.Extends _ _ _ _ (.refl hwmon)
    intro element _ next extended
    apply pre_value (pre_extends (pre_loadLimits next) fun _ loaded => pre_report _ _ _ loaded)
    exact fun _ _ more => extended.trans more
  apply pre_value grown
  intro _ next extended
  refine ⟨extended.elements, ?_⟩
  intro element member
  rw [extended.elements] at member
  exact extended.exposed _ (exposes element member)

end TempSensor

end Chassis.Monitor
