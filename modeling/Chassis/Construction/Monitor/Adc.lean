import Chassis.Construction.Monitor.Threshold

namespace Chassis.Monitor
open Effect

structure AdcElement where
  name : String
  path : String
  vTarget : ℚ
  rawReading : Int
  scaleCoeff : ℚ
  vCurrent : ℚ

abbrev AdcSensor := Hwmon AdcElement

namespace AdcSensor

/-- The uninitialised readings of the elements come from outside. -/
def adcs (junk : Rail → AdcElement) : List AdcElement :=
  rails.map fun rail => { junk rail with
    name := rail.name
    path := rail.path
    vTarget := rail.vTarget }

def calculateCs : Program interface AdcSensor Unit :=
  Program.modify fun hwmon => { hwmon with
    elements := hwmon.elements.map fun adc => { adc with scaleCoeff := scaleOf adc.vTarget } }

/-- The content of the file is converted and scaled. -/
def updateReading (index : Nat) : Program interface AdcSensor Unit := do
  let hwmon ← Program.read
  match hwmon.elements[index]? with
  | none => pure ()
  | some adc =>
      let content : List UInt8 ← Program.ask (I := interface) (.readFile adc.path)
      match stoi content with
      | none => .throw .stoiError
      | some rawReading => Program.modify fun hwmon => { hwmon with
          elements := hwmon.elements.modify index fun adc =>
            { adc with rawReading := rawReading, vCurrent := scaled adc.scaleCoeff rawReading } }

def updateReadings : Program interface AdcSensor Unit := do
  let hwmon ← Program.read
  Program.forEach updateReading (List.range hwmon.elements.length)

def exposeReadings : Program interface AdcSensor Unit := do
  let hwmon ← Program.read
  Program.forEach (fun adc => expose adc.name adc.name) hwmon.elements

/-- The constructor runs on a monitor without elements and objects. -/
def construct (junk : Rail → AdcElement) : Program interface AdcSensor Unit := do
  loadLimits
  Program.modify fun hwmon => { hwmon with elements := adcs junk }
  calculateCs
  updateReadings
  exposeReadings

def sendAllReadings : Program interface AdcSensor Unit := do
  loadLimits
  let hwmon ← Program.read
  Program.forEach (fun adc => report adc.name adc.name adc.vCurrent) hwmon.elements

/-- One turn of the endless loop of main. -/
def round : Program interface AdcSensor Unit := do
  updateReadings
  sendAllReadings

end AdcSensor

end Chassis.Monitor
