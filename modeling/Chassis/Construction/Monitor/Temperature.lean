import Chassis.Construction.Monitor.Threshold

namespace Chassis.Monitor
open Data Effect

/-- The values of the type `int`. -/
abbrev InInt (value : Int) : Prop := -2147483648 ≤ value ∧ value ≤ 2147483647

theorem inInt_mild : InInt 25000 := by decide

/-- A temperature sensor has the name of its directory and its reading in thousandths. -/
structure SensorElement where
  dirName : String
  curReading : Int
  inInt : InInt curReading

abbrev TempSensor := Hwmon SensorElement

def SensorElement.readingPath (sensor : SensorElement) : String :=
  "/sys/class/hwmon/" ++ sensor.dirName ++ "/temp1_input"

/-- The stream operator keeps the old value at the end of the file, takes zero from a text without a
number, and the nearest bound of `int` from a number outside its range. -/
def extractInt (old : Int) (text : List UInt8) : Int :=
  match stoi text with
  | some value => value
  | none =>
      let text := text.dropWhile isSpace
      let negative : Bool := text.head? == some 0x2D
      let unsigned := if negative ∨ text.head? = some 0x2B then text.tail else text
      if text = [] then old
      else if unsigned.head?.any isDigit = false then 0
      else if negative then -2147483648
      else 2147483647

theorem stoi_inInt {text : List UInt8} {value : Int} (parsed : stoi text = some value) :
    InInt value := by
  simp only [stoi, Option.ite_none_left_eq_some, Option.ite_none_right_eq_some,
    Option.some.injEq] at parsed
  obtain ⟨_, bounded, rfl⟩ := parsed
  exact bounded

theorem extractInt_inInt {old : Int} (inInt : InInt old) (text : List UInt8) :
    InInt (extractInt old text) := by
  unfold extractInt
  split
  next value parsed => exact stoi_inInt parsed
  next =>
    dsimp only
    split_ifs
    · exact inInt
    all_goals decide

/-- The stream of the file writes the reading. -/
def SensorElement.extract (sensor : SensorElement) (content : List UInt8) : SensorElement :=
  ⟨sensor.dirName, extractInt sensor.curReading content, extractInt_inInt sensor.inInt content⟩

/-- A reading in degrees, as the monitor computes it. -/
def degrees (curReading : Int) : ℚ := roundDouble (curReading / 1000)

namespace TempSensor

/-- The pass returns at the first file that cannot be opened. -/
def updateReading (files : String → Option (List UInt8)) :
    List SensorElement → Int × List SensorElement
  | [] => (0, [])
  | sensor :: rest =>
      match files sensor.readingPath with
      | none => (1, sensor :: rest)
      | some content =>
          let (result, rest) := updateReading files rest
          (result, sensor.extract content :: rest)

def exposeReading (sensor : SensorElement) : Program interface TempSensor Unit :=
  expose sensor.dirName "TempLimits"

/-- The constructor gets the directories and their readings from outside. -/
def construct (sensorItems : List SensorElement) : Program interface TempSensor Unit := do
  loadLimits
  Program.modify fun hwmon => { hwmon with elements := sensorItems }
  Program.forEach exposeReading sensorItems

/-- Each report reads the limits again. -/
def sendReading (sensor : SensorElement) : Program interface TempSensor Unit := do
  loadLimits
  report sensor.dirName "TempLimits" (degrees sensor.curReading)

def sendAllReadings : Program interface TempSensor Unit := do
  let hwmon ← Program.read
  Program.forEach sendReading hwmon.elements

/-- One turn of the endless loop of main ignores the result of the pass. -/
def round (files : String → Option (List UInt8)) : Program interface TempSensor Unit := do
  Program.modify fun hwmon =>
    { hwmon with elements := (updateReading files hwmon.elements).2 }
  sendAllReadings

end TempSensor

end Chassis.Monitor
