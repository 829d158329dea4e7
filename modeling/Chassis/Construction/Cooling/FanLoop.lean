import Chassis.Construction.Cooling.Pid
import Chassis.Construction.Manager.Record
import Chassis.Construction.Monitor.Threshold

namespace Chassis.Cooling
open Effect Json Monitor Vita4611

/-- The curve that the controller calculates in doubles: the share of the highest temperature on the
way from the setpoint to the maximum, to the power 1.6, times 255. It may be no number. -/
class Curve where
  calcVal (tempHigh setpoint tempMax : ℚ) : Option ℚ

structure TemperatureSensor where
  path : String
  value : ℚ

structure Fan where
  path : String
  pwm : Int

/-- The controller keeps the paths that it listed when it started. -/
structure FanLoop where
  linear : Bool
  ts : ℚ
  tempMin : ℚ
  tempMax : ℚ
  setpoint : ℚ
  temps : List TemperatureSensor
  fans : List Fan
  controller : PidInfo

/-- The calls of the controller to the file system and to the bus. -/
inductive Op where
  | readJson (path : String)
  | getSubTreePaths (path interface : String)
  | getProperty (path interface property : String)
  | setProperty (path interface property : String) (value : UInt64)

/-- A call to the bus that throws answers nothing, or `false`. -/
abbrev Op.Answer : Op → Type
  | .readJson _ => Parsed
  | .getSubTreePaths _ _ => Option (List String)
  | .getProperty _ _ _ => Option ℚ
  | .setProperty _ _ _ _ => Bool

inductive Exception where
  | typeError
  | outOfRange
  | dbusError
  deriving DecidableEq, Repr

/-- The conversion to `int` of no number or of a value outside its range, and the overflow of a
difference. -/
inductive Fault where
  | overflow
  deriving DecidableEq, Repr

abbrev interface : Interface := ⟨Op, Op.Answer, Exception, Fault⟩

def valueInterface : String := "xyz.openbmc_project.Sensor.Value"
def thresholdInterface : String := "xyz.openbmc_project.Sensor.Threshold.Critical"
def pwmInterface : String := "xyz.openbmc_project.Control.FanPwm"
def tempStub : String := "/xyz/openbmc_project/sensors/temperature"
def pwmStub : String := "/xyz/openbmc_project/control/fanpwm"
def pidPath : String := "/usr/share/pid/pid.json"

def getSubTreePaths (path interface : String) : Program Cooling.interface FanLoop (List String) := do
  let paths : Option (List String) ←
    Program.ask (I := Cooling.interface) (.getSubTreePaths path interface)
  match paths with
  | some paths => pure paths
  | none => .throw .dbusError

def getProperty (path interface property : String) : Program Cooling.interface FanLoop ℚ := do
  let value : Option ℚ ←
    Program.ask (I := Cooling.interface) (.getProperty path interface property)
  match value with
  | some value => pure value
  | none => .throw .dbusError

def setProperty (path interface property : String) (value : UInt64) :
    Program Cooling.interface FanLoop Unit := do
  let succeeded : Bool ←
    Program.ask (I := Cooling.interface) (.setProperty path interface property value)
  if succeeded then pure () else .throw .dbusError

/-- A parse error is caught and leaves what was read so far. -/
def readJson (path : String) : Program interface FanLoop (Value ℚ) := do
  let parsed : Parsed ← Program.ask (I := interface) (.readJson path)
  match parsed with
  | .accepted value => pure value
  | .rejected left => pure left
  | .outOfRange => .throw .outOfRange

/-- The subscripts of a path insert what is missing as null. A null, like every other value that
is not a number, does not convert. -/
def numberAt (data : Value ℚ) (keys : List String) : Option ℚ :=
  (keys.foldl (fun entry key => entry.bind (Value.member (ascii key))) (some data)).bind
    Value.toNumber

def readNumber (data : Value ℚ) (keys : List String) : Program interface FanLoop ℚ :=
  match numberAt data keys with
  | some number => pure number
  | none => .throw .typeError

def readBool (data : Value ℚ) (key : String) : Program interface FanLoop Bool :=
  match data.member (ascii key) with
  | some (.boolean value) => pure value
  | _ => .throw .typeError

namespace FanLoop

/-- New sensors have the value zero. -/
def initializeTemps : Program interface FanLoop Unit := do
  let paths ← getSubTreePaths tempStub valueInterface
  Program.modify fun loop => { loop with
    temps := loop.temps ++ paths.map fun path => ⟨path, 0⟩ }

/-- One number of the file is read into the controller. -/
def loadNumber (data : Value ℚ) (keys : List String) (store : ℚ → PidInfo → PidInfo) :
    Program interface FanLoop Unit := do
  let number ← readNumber data keys
  Program.modify fun loop => { loop with controller := store number loop.controller }

def loadController : Program interface FanLoop Unit := do
  let data ← readJson pidPath
  let linear ← readBool data "linear"
  Program.modify fun loop => { loop with linear := linear }
  let setpoint ← readNumber data ["setpoint"]
  Program.modify fun loop => { loop with setpoint := setpoint }
  let ts ← readNumber data ["ts"]
  Program.modify fun loop => { loop with ts := ts, controller := { loop.controller with ts := ts } }
  loadNumber data ["proportionalCoeff"] fun coeff info => { info with proportionalCoeff := coeff }
  loadNumber data ["integralCoeff"] fun coeff info => { info with integralCoeff := coeff }
  loadNumber data ["derivativeCoeff"] fun coeff info => { info with derivativeCoeff := coeff }
  loadNumber data ["feedFwdOffset"] fun offset info => { info with feedFwdOffset := offset }
  loadNumber data ["feedFwdGain"] fun gain info => { info with feedFwdGain := gain }
  loadNumber data ["integralLimit", "min"] fun limit info =>
    { info with integralLimit := { info.integralLimit with min := limit } }
  loadNumber data ["integralLimit", "max"] fun limit info =>
    { info with integralLimit := { info.integralLimit with max := limit } }
  loadNumber data ["outLim", "min"] fun limit info =>
    { info with outLim := { info.outLim with min := limit } }
  loadNumber data ["outLim", "max"] fun limit info =>
    { info with outLim := { info.outLim with max := limit } }
  loadNumber data ["slewNeg"] fun slew info => { info with slewNeg := slew }
  loadNumber data ["slewPos"] fun slew info => { info with slewPos := slew }

/-- Every exception is caught, and what was read before it is kept. -/
def initializeController : Program interface FanLoop Unit := do
  Program.modify fun loop => { loop with
    controller := { loop.controller with initialized := true } }
  loadController.tryCatch fun _ => pure ()

def getFanPwms : Program interface FanLoop Unit := do
  let paths ← getSubTreePaths pwmStub pwmInterface
  Program.modify fun loop => { loop with fans := loop.fans ++ paths.map fun path => ⟨path, 0⟩ }

/-- The loop over the paths ends after the first one. -/
def getTempThresholds : Program interface FanLoop Unit := do
  let paths ← getSubTreePaths tempStub thresholdInterface
  match paths with
  | [] => pure ()
  | path :: _ => do
      let tempMin ← getProperty path thresholdInterface "CriticalLow"
      Program.modify fun loop => { loop with tempMin := tempMin }
      let tempMax ← getProperty path thresholdInterface "CriticalHigh"
      Program.modify fun loop => { loop with tempMax := tempMax }

/-- The constructor runs on an object whose lists are empty and whose plain members hold
anything. -/
def construct : Program interface FanLoop Unit := do
  Program.modify fun loop => { loop with temps := [], fans := [], controller := .blank }
  initializeTemps
  initializeController
  getFanPwms
  getTempThresholds

/-- A sensor that cannot be read is taken for very cold. -/
def readTemperature (index : Nat) : Program interface FanLoop Unit := do
  let loop ← Program.read
  match loop.temps[index]? with
  | none => pure ()
  | some tempinst => do
      let value : Option ℚ ←
        Program.ask (I := interface) (.getProperty tempinst.path valueInterface "Value")
      Program.modify fun loop => { loop with
        temps := loop.temps.set index { tempinst with value := value.getD (-20) } }

def readTemperatures : Program interface FanLoop Unit := do
  let loop ← Program.read
  Program.forEach readTemperature (List.range loop.temps.length)

def inRange (value : Int) : Option Int :=
  if -2147483648 ≤ value ∧ value ≤ 2147483647 then some value else none

/-- The conversion to `int` drops the fraction. -/
def toInt (value : ℚ) : Option Int :=
  inRange (if 0 ≤ value then value.floor else value.ceil)

/-- One fan keeps its next PWM and then has it set as its target. -/
def command (next : Fan → Option Int) (index : Nat) : Program interface FanLoop Unit := do
  let loop ← Program.read
  match loop.fans[index]? with
  | none => pure ()
  | some fan =>
      match next fan with
      | none => .fault .overflow
      | some pwm => do
          Program.modify fun loop => { loop with
            fans := loop.fans.set index { fan with pwm := pwm } }
          setProperty fan.path pwmInterface "Target" (UInt64.ofInt pwm)

def commandFans (next : Fan → Option Int) : Program interface FanLoop Unit := do
  let loop ← Program.read
  Program.forEach (command next) (List.range loop.fans.length)

/-- The highest temperature starts at zero. -/
def tempHigh (temps : List TemperatureSensor) : ℚ :=
  temps.foldl (fun high tempinst => if tempinst.value > high then tempinst.value else high) 0

/-- The curve is calculated first and overridden outside its range. -/
def calcVal [Curve] (loop : FanLoop) (tempHigh : ℚ) : Option ℚ :=
  let calcVal := Curve.calcVal tempHigh loop.setpoint loop.tempMax
  if tempHigh < loop.setpoint then some 0
  else if tempHigh > loop.tempMax then some 255
  else calcVal

def linearPwm (calcVal : Option ℚ) (_ : Fan) : Option Int :=
  (calcVal.bind toInt).map fun pwm => if pwm < 75 then 75 else pwm

def pidPwm (output : ℚ) (fan : Fan) : Option Int :=
  ((toInt output).bind fun output => inRange (fan.pwm - output)).map fun pwm =>
    if pwm > 255 then 255
    else if pwm < 0 then 0
    else pwm

/-- The setpoint is read again in each iteration. -/
def loadSetpoint : Program interface FanLoop Unit := do
  let data ← readJson pidPath
  let setpoint ← readNumber data ["setpoint"]
  Program.modify fun loop => { loop with setpoint := setpoint }

def drive [Curve] : Program interface FanLoop Unit := do
  let loop ← Program.read
  let tempHigh := tempHigh loop.temps
  if loop.linear then commandFans (linearPwm (loop.calcVal tempHigh))
  else do
    let (output, controller) := pid loop.controller tempHigh loop.setpoint
    Program.modify fun loop => { loop with controller := controller }
    commandFans (pidPwm (if tempHigh < loop.setpoint then 0 else output))

def controlLoop [Curve] : Program interface FanLoop Unit := do
  loadSetpoint
  drive

/-- One turn of the endless loop of main. -/
def turn [Curve] : Program interface FanLoop Unit := do
  readTemperatures
  controlLoop

end FanLoop

end Chassis.Cooling
