import Chassis.Construction.Monitor.Temperature
import Chassis.Construction.Store.Thresholds
import Chassis.Json.Members

namespace Chassis.Thermal
open Effect Json Store

/-- The path of the object that the monitor publishes for a sensor. -/
def temperaturePath (name : String) : List (List UInt8) :=
  ["xyz", "openbmc_project", "sensors", "temperature", name].map ascii

/-- The limits file, the monitor of the temperatures with its objects, and the objects of other
programs under their paths. -/
structure Plant where
  file : List UInt8
  monitor : Monitor.TempSensor
  others : List (List UInt8) → Option Monitor.Sensor

/-- The two properties that a threshold is set with. -/
def setCritical (property : String) (value : ℚ) (sensor : Monitor.Sensor) : Monitor.Sensor :=
  if property = "CriticalHigh" then { sensor with criticalHigh := value }
  else if property = "CriticalLow" then { sensor with criticalLow := value }
  else sensor

/-- The object under the path takes the value, whichever program it belongs to. -/
def Plant.setProperty (plant : Plant) (path : ObjectPath) (property : String) (value : ℚ) :
    Plant := { plant with
  monitor := { plant.monitor with
    sensors := fun name =>
      if path.elements = temperaturePath name then
        (plant.monitor.sensors name).map (setCritical property value)
      else plant.monitor.sensors name }
  others := fun elements =>
    if path.elements = elements then (plant.others elements).map (setCritical property value)
    else plant.others elements }

variable {numbers : Numbers}

/-- A property is set when its call succeeds. -/
def Plant.observe (value : numbers.Number → ℚ) (plant : Plant) :
    Call (interface numbers) (List UInt8) → Plant
  | ⟨_, .setProperty path property limit, true⟩ => plant.setProperty path property (value limit)
  | _ => plant

/-- The command changes the objects while it runs and the file at its end. -/
def Plant.setThreshold (value : numbers.Number → ℚ) (setting : Setting numbers)
    (environment : Environment (interface numbers)) (plant : Plant) : Plant :=
  let run := (Store.setThreshold setting).run environment plant.file 0
  run.calls.foldl (Plant.observe value) { plant with file := run.state }

/-- The monitor reads the same file. What it makes of a file that is no value is left open. -/
def readBack (value : numbers.Number → ℚ) (broken : Monitor.Parsed) (file : List UInt8) :
    Monitor.Parsed :=
  match parse numbers.read file with
  | some j => .accepted (j.substitute fun number => .number (value number))
  | none => broken

/-- The next pass of the monitor over its sensors. -/
def Plant.sendAllReadings (value : numbers.Number → ℚ) (broken : Monitor.Parsed)
    (contents : String → List UInt8) (plant : Plant) :
    Run Monitor.interface Monitor.TempSensor Unit :=
  Monitor.TempSensor.sendAllReadings.run
    (fun _ op => match op with
      | .readFile path => contents path
      | .readJson _ => readBack value broken plant.file)
    plant.monitor 0

end Chassis.Thermal
