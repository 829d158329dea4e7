import Chassis.Construction.Monitor.Limits
import Chassis.Effect.Program

namespace Chassis.Monitor
open Effect Json

/-- The stream operator returns a value, or throws a parse error after it has written a part of the
value, or throws because a number is out of range. -/
inductive Parsed where
  | accepted (value : Value ℚ)
  | rejected (left : Value ℚ)
  | outOfRange

/-- The calls of the two monitors to the file system. -/
inductive Op where
  | readFile (path : String)
  | readJson (path : String)

abbrev Op.Answer : Op → Type
  | .readFile _ => List UInt8
  | .readJson _ => Parsed

inductive Exception where
  | stoiError
  | typeError
  | outOfRange
  deriving DecidableEq, Repr

inductive Fault where
  | nullPointer
  deriving DecidableEq, Repr

abbrev interface : Interface := ⟨Op, Op.Answer, Exception, Fault⟩

/-- The properties of a sensor object that a round sets. -/
structure Sensor where
  value : ℚ
  criticalHigh : ℚ
  criticalLow : ℚ
  criticalAlarmHigh : Bool
  criticalAlarmLow : Bool

/-- A monitor has its elements, the object exposed under each name, and the limits read last. -/
structure Hwmon (Element : Type) where
  elements : List Element
  sensors : String → Option Sensor
  limitJson : Value ℚ

variable {Element : Type}

def Hwmon.setSensor (hwmon : Hwmon Element) (name : String) (sensor : Sensor) :
    Hwmon Element :=
  { hwmon with sensors := Function.update hwmon.sensors name (some sensor) }

def thresholdsPath : String := "/usr/share/thresholds/thresholds.json"

/-- A parse error is caught and leaves what was read so far. -/
def readJson (path : String) : Program interface (Hwmon Element) (Value ℚ) := do
  let parsed : Parsed ← Program.ask (I := interface) (.readJson path)
  match parsed with
  | .accepted value => pure value
  | .rejected left => pure left
  | .outOfRange => .throw .outOfRange

def loadLimits : Program interface (Hwmon Element) Unit := do
  let limitJson ← readJson thresholdsPath
  Program.modify fun hwmon => { hwmon with limitJson := limitJson }

/-- A limit that cannot be read throws. -/
def readLimit (name bound : String) : Program interface (Hwmon Element) ℚ := do
  let hwmon ← Program.read
  match limitOf hwmon.limitJson name bound with
  | some limit => pure limit
  | none => .throw .typeError

/-- A name without an object has a null pointer in the map. -/
def updateSensor (name : String) (update : Sensor → Sensor) :
    Program interface (Hwmon Element) Unit := do
  let hwmon ← Program.read
  match hwmon.sensors name with
  | some sensor => Program.modify fun hwmon => hwmon.setSensor name (update sensor)
  | none => .fault .nullPointer

/-- The object of an element begins with the limits read last and without an alarm. -/
def expose (name limits : String) : Program interface (Hwmon Element) Unit := do
  let criticalHigh ← readLimit limits "max"
  let criticalLow ← readLimit limits "min"
  Program.modify fun hwmon => hwmon.setSensor name
    { value := 0
      criticalHigh := criticalHigh
      criticalLow := criticalLow
      criticalAlarmHigh := false
      criticalAlarmLow := false }

/-- The report of a reading sets the limits of its sensor, its value, and then both alarms. -/
def report (name limits : String) (reading : ℚ) : Program interface (Hwmon Element) Unit := do
  let criticalHigh ← readLimit limits "max"
  updateSensor name fun sensor => { sensor with criticalHigh := criticalHigh }
  let criticalLow ← readLimit limits "min"
  updateSensor name fun sensor => { sensor with criticalLow := criticalLow }
  let lowthresh ← readLimit limits "min"
  let highthresh ← readLimit limits "max"
  updateSensor name fun sensor => { sensor with value := reading }
  updateSensor name fun sensor => { sensor with
    criticalAlarmHigh := decide (reading > highthresh) }
  updateSensor name fun sensor => { sensor with
    criticalAlarmLow := decide (reading < lowthresh) }

end Chassis.Monitor
