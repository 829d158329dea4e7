import Chassis.Construction.Monitor.Limits
import Chassis.Effect.Pool

namespace Chassis.Boot
open Effect Json Monitor

structure GpioInfo where
  input : Bool
  chip : Nat
  line : Nat
  status : Int
  name : String
  dbusflag : Bool
  deriving DecidableEq, Repr

structure AdcElement where
  name : String
  path : String
  vTarget : ℚ
  rawReading : Int
  scaleCoeff : ℚ
  vCurrent : ℚ
  safe : Bool
  deriving DecidableEq, Inhabited

structure Manager where
  adcs : List AdcElement
  limitJson : Value ℚ
  sysreset : GpioInfo
  psEnable : GpioInfo
  switchGpio : GpioInfo
  alarmGpio : GpioInfo
  tempServiceStatus : Bool
  voltageServiceStatus : Bool
  fanControllerServiceStatus : Bool
  mandatorySensorServiceStatus : Bool
  gpioServiceStatus : Bool
  ipmiServiceStatus : Bool

/-- The two limits of a rail. -/
inductive Bound where
  | min
  | max
  deriving DecidableEq, Repr

/-- The member of the limits that holds the bound. -/
def Bound.key : Bound → String
  | .min => "min"
  | .max => "max"

/-- A safe voltage lies strictly within both bounds. -/
def Bound.admits : Bound → ℚ → ℚ → Bool
  | .min, lowthresh, vCurrent => vCurrent > lowthresh
  | .max, highthresh, vCurrent => vCurrent < highthresh

/-- The calls of the manager to the rest of the system. The last three are no calls: they are the
points before a thread reads back what another thread may have written to an element. -/
inductive Op where
  | openChip (chip : Nat)
  | getLine (chip line : Nat)
  | requestInput (chip line : Nat)
  | requestOutput (chip line : Nat) (value : Int)
  | getValue (chip line : Nat)
  | release (chip line : Nat)
  | readFile (path : String)
  | isDBusReady
  | activeState (serviceName : String)
  | newBus
  | getSubTreePaths (path interface : String)
  | getAlarm (path property : String)
  | getValueProperty (path : String)
  | setValueProperty (path : String) (value : ℚ)
  | flashcp
  | scale (index : Nat)
  | compare (index : Nat) (bound : Bound)
  | recheck (index : Nat)
  deriving DecidableEq

/-- A call that can only succeed or throw answers whether it succeeded, and a call that returns a
value answers nothing when it throws. -/
abbrev Op.Answer : Op → Type
  | .openChip _ => Bool
  | .getLine _ _ => Bool
  | .requestInput _ _ => Bool
  | .requestOutput _ _ _ => Bool
  | .getValue _ _ => Option Int
  | .release _ _ => Bool
  | .readFile _ => List UInt8
  | .isDBusReady => Bool
  | .activeState _ => Option String
  | .newBus => Bool
  | .getSubTreePaths _ _ => Option (List String)
  | .getAlarm _ _ => Option Bool
  | .getValueProperty _ => Option ℚ
  | .setValueProperty _ _ => Bool
  | .flashcp => Unit
  | .scale _ => Unit
  | .compare _ _ => Unit
  | .recheck _ => Unit

instance : (op : Op) → Inhabited op.Answer
  | .openChip _ | .getLine _ _ | .requestInput _ _ | .requestOutput _ _ _ | .release _ _
  | .isDBusReady | .newBus | .setValueProperty _ _ => inferInstanceAs (Inhabited Bool)
  | .getValue _ _ => inferInstanceAs (Inhabited (Option Int))
  | .readFile _ => inferInstanceAs (Inhabited (List UInt8))
  | .activeState _ => inferInstanceAs (Inhabited (Option String))
  | .getSubTreePaths _ _ => inferInstanceAs (Inhabited (Option (List String)))
  | .getAlarm _ _ => inferInstanceAs (Inhabited (Option Bool))
  | .getValueProperty _ => inferInstanceAs (Inhabited (Option ℚ))
  | .flashcp | .scale _ | .compare _ _ | .recheck _ => inferInstanceAs (Inhabited Unit)

inductive Exception where
  | gpioError
  | stoiError
  | typeError
  | dbusError
  deriving DecidableEq, Repr

abbrev interface : Interface := ⟨Op, Op.Answer, Exception, Empty⟩

/-- A call that answers `false` has thrown. -/
def attempt (op : Op) (answer : op.Answer → Bool) (exception : Exception) :
    Program interface Manager Unit := do
  let result ← Program.ask (I := interface) op
  if answer result then pure () else .throw exception

/-- A call without an answer has thrown. -/
def fetch {Value : Type} (op : Op) (answer : op.Answer → Option Value) (exception : Exception) :
    Program interface Manager Value := do
  let result ← Program.ask (I := interface) op
  match answer result with
  | some value => pure value
  | none => .throw exception

/-- The uninitialised fields of the elements come from outside. -/
def Manager.construct (limitJson : Value ℚ) (junk : Rail → AdcElement) : Manager where
  adcs := rails.map fun rail => { junk rail with
    name := rail.name
    path := rail.path
    vTarget := rail.vTarget
    scaleCoeff := rail.scaleCoeff }
  limitJson := limitJson
  sysreset := ⟨false, 1, 0, 0, "sysreset", false⟩
  psEnable := ⟨false, 2, 3, 0, "psenable", false⟩
  -- Nothing reads the flag of the two other lines.
  switchGpio := ⟨true, 0, 6, 0, "switch_gpio", false⟩
  alarmGpio := ⟨false, 0, 11, 0, "alarm_gpio", false⟩
  tempServiceStatus := false
  voltageServiceStatus := false
  fanControllerServiceStatus := false
  mandatorySensorServiceStatus := false
  gpioServiceStatus := false
  ipmiServiceStatus := false

def waitForSwitch : Program interface Manager Bool :=
  Program.tryCatch (do
    let manager ← Program.read
    let gpio := manager.switchGpio
    attempt (.openChip gpio.chip) id .gpioError
    attempt (.getLine gpio.chip gpio.line) id .gpioError
    attempt (.requestInput gpio.chip gpio.line) id .gpioError
    let value ← fetch (.getValue gpio.chip gpio.line) id .gpioError
    Program.modify fun manager => { manager with
      switchGpio := { manager.switchGpio with status := value } }
    attempt (.release gpio.chip gpio.line) id .gpioError
    pure (decide (value = 1))) (fun _ => pure false)

/-- The setters request a line as an output with a value, record its status, and release it. They
differ in the line, the value, and what they record before and after the release. -/
def driveLine (gpio : Manager → GpioInfo) (value : Int) (driven released : Manager → Manager) :
    Program interface Manager Bool :=
  Program.tryCatch (do
    let manager ← Program.read
    let gpio := gpio manager
    attempt (.openChip gpio.chip) id .gpioError
    attempt (.getLine gpio.chip gpio.line) id .gpioError
    attempt (.requestOutput gpio.chip gpio.line value) id .gpioError
    Program.modify driven
    attempt (.release gpio.chip gpio.line) id .gpioError
    Program.modify released
    pure true) (fun _ => pure false)

/-- The setter of the alarm names the line of the switch. -/
def setAlarmGpio : Program interface Manager Bool :=
  driveLine Manager.switchGpio 1
    (fun manager => { manager with switchGpio := { manager.switchGpio with status := 1 } }) id

def setPs : Program interface Manager Bool :=
  driveLine Manager.psEnable 1
    (fun manager => { manager with psEnable := { manager.psEnable with status := 1 } })
    (fun manager => { manager with psEnable := { manager.psEnable with dbusflag := true } })

def unsetPs : Program interface Manager Bool :=
  driveLine Manager.psEnable 0
    (fun manager => { manager with psEnable := { manager.psEnable with status := 0 } })
    (fun manager => { manager with psEnable := { manager.psEnable with dbusflag := false } })

/-- The line is driven low while its status becomes one. -/
def setSr : Program interface Manager Bool :=
  driveLine Manager.sysreset 0
    (fun manager => { manager with sysreset := { manager.sysreset with status := 1 } })
    (fun manager => { manager with sysreset := { manager.sysreset with dbusflag := true } })

def Manager.updateAdc (manager : Manager) (index : Nat) (update : AdcElement → AdcElement) :
    Manager :=
  { manager with adcs := manager.adcs.modify index update }

/-- A limit that cannot be read throws. -/
def readLimit (name bound : String) : Program interface Manager ℚ := do
  let manager ← Program.read
  match limitOf manager.limitJson name bound with
  | some limit => pure limit
  | none => .throw .typeError

/-- A comparison reads the voltage from the element, where the other thread may have replaced it. -/
def compareVoltage (index : Nat) (bound : Bound) (limit : ℚ) : Program interface Manager Bool := do
  let _ ← Program.ask (I := interface) (.compare index bound)
  let manager ← Program.read
  pure ((manager.adcs[index]?).any fun adc => bound.admits limit adc.vCurrent)

/-- A rail is safe strictly between its limits. -/
def checkRail (index : Nat) (name : String) : Program interface Manager Bool := do
  let lowthresh ← readLimit name "min"
  let highthresh ← readLimit name "max"
  let above ← compareVoltage index .min lowthresh
  let safe ← if above then compareVoltage index .max highthresh else pure false
  Program.modify fun manager => manager.updateAdc index fun adc => { adc with safe := safe }
  pure safe

/-- The content of the file is converted, scaled and checked. The raw reading and the voltage go
through the element. -/
def takeReading (index : Nat) (adc : AdcElement) (content : List UInt8) :
    Program interface Manager Bool :=
  match stoi content with
  | none => .throw .stoiError
  | some rawReading => do
      Program.modify fun manager => manager.updateAdc index fun adc =>
        { adc with rawReading := rawReading }
      let _ ← Program.ask (I := interface) (.scale index)
      Program.modify fun manager => manager.updateAdc index fun adc =>
        { adc with vCurrent := scaled adc.scaleCoeff adc.rawReading }
      checkRail index adc.name

def updateRail (index : Nat) : Program interface Manager Bool := do
  let manager ← Program.read
  match manager.adcs[index]? with
  | none => pure true
  | some adc =>
      let content : List UInt8 ← Program.ask (I := interface) (.readFile adc.path)
      takeReading index adc content

/-- The first unsafe rail ends the pass. -/
def updateRails : List Nat → Program interface Manager Bool
  | [] => pure true
  | index :: rest => do
      let safe ← updateRail index
      if safe then updateRails rest else pure false

/-- The second loop looks at the flags once more. -/
def recheckRails : List Nat → Program interface Manager Bool
  | [] => pure true
  | index :: rest => do
      let _ ← Program.ask (I := interface) (.recheck index)
      let manager ← Program.read
      if (manager.adcs[index]?).all AdcElement.safe then recheckRails rest else pure false

def updateReadings : Program interface Manager Bool := do
  let manager ← Program.read
  let indices := List.range manager.adcs.length
  let complete ← updateRails indices
  if complete then recheckRails indices else pure false

/-- The service is queried after the bus is ready or has been tried eleven times. -/
def waitForDBus : Nat → Program interface Manager Unit
  | 0 => do
      let _ ← Program.ask (I := interface) .isDBusReady
      pure ()
  | attempts + 1 => do
      let ready : Bool ← Program.ask (I := interface) .isDBusReady
      if ready then pure () else waitForDBus attempts

/-- A query that throws is repeated. -/
def queryService (serviceName : String) : Nat → Program interface Manager Bool
  | 0 => pure false
  | attempts + 1 => do
      let state : Option String ← Program.ask (I := interface) (.activeState serviceName)
      match state with
      | some state => pure (state == "active")
      | none => queryService serviceName attempts

def isServiceActive (serviceName : String) : Program interface Manager Bool := do
  waitForDBus 10
  queryService serviceName 5

def tempService : String := "LCR_temp_sensors.service"
def voltageService : String := "LCR_ADC_sensors.service"
def fanControllerService : String := "LCR_fan_controller.service"
def mandatorySensorService : String := "LCR_Mandatory_Sensors.service"
def gpioService : String := "LCR_GPIO_Mon.service"
def ipmiHostService : String := "phosphor-ipmi-host.service"

/-- The statuses are recorded after the last service has been queried. -/
def watchServices : Program interface Manager Unit := do
  let temp ← isServiceActive tempService
  let voltage ← isServiceActive voltageService
  let fanController ← isServiceActive fanControllerService
  let mandatorySensor ← isServiceActive mandatorySensorService
  let gpio ← isServiceActive gpioService
  let ipmi ← isServiceActive ipmiHostService
  Program.modify fun manager => { manager with
    tempServiceStatus := temp
    voltageServiceStatus := voltage
    fanControllerServiceStatus := fanController
    mandatorySensorServiceStatus := mandatorySensor
    gpioServiceStatus := gpio
    ipmiServiceStatus := ipmi }

def getFanControllerStatus : Program interface Manager Bool := do
  watchServices
  let manager ← Program.read
  pure manager.fanControllerServiceStatus

def writeLogsToFlash : Program interface Manager Unit := do
  let _ ← Program.ask (I := interface) .flashcp
  pure ()

def gpioPath (name : String) : String := "/xyz/openbmc_project/gpio/" ++ name

/-- A failed publication leaves the flag set. -/
def publishGpio (flag : Bool) (name : String) (value : Int) (published : Manager → Manager) :
    Program interface Manager Unit :=
  if flag then
    Program.tryCatch (do
      attempt (.setValueProperty (gpioPath name) value) id .dbusError
      Program.modify published) (fun _ => pure ())
  else pure ()

def publishPs (psValue : Int) : Program interface Manager Unit := do
  let manager ← Program.read
  publishGpio manager.psEnable.dbusflag manager.psEnable.name psValue fun manager =>
    { manager with psEnable := { manager.psEnable with dbusflag := false } }

def publishSr (srValue : Int) : Program interface Manager Unit := do
  let manager ← Program.read
  publishGpio manager.sysreset.dbusflag manager.sysreset.name srValue fun manager =>
    { manager with sysreset := { manager.sysreset with dbusflag := false } }

/-- One turn of the endless loop. Both values are taken before the first publication. -/
def watchGpios : Program interface Manager Unit := do
  let manager ← Program.read
  if manager.gpioServiceStatus then
    attempt .newBus id .dbusError
    let manager ← Program.read
    publishPs manager.psEnable.status
    publishSr manager.sysreset.status
  else pure ()

def thresholdInterface : String := "xyz.openbmc_project.Sensor.Threshold.Critical"
def voltageStub : String := "/xyz/openbmc_project/sensors/voltage"
def temperatureStub : String := "/xyz/openbmc_project/sensors/temperature"

/-- A path raises the alarm when one of its two flags is set. The reading is fetched for the log,
and the alarm stays raised when that fails. The loop then goes on with the next path. -/
def scanPaths (alarm : Bool) : List String → Program interface Manager Bool
  | [] => pure alarm
  | path :: rest => do
      let low : Option Bool ← Program.ask (I := interface) (.getAlarm path "CriticalAlarmLow")
      match low with
      | none => scanPaths alarm rest
      | some low =>
          let high : Option Bool ← Program.ask (I := interface) (.getAlarm path "CriticalAlarmHigh")
          match high with
          | none => scanPaths alarm rest
          | some high =>
              if low || high then
                let reading : Option ℚ ← Program.ask (I := interface) (.getValueProperty path)
                match reading with
                | some _ => pure true
                | none => scanPaths true rest
              else scanPaths false rest

/-- A failed lookup of the paths counts as no alarm. -/
def scanStub (stub : String) : Program interface Manager Bool := do
  let paths : Option (List String) ←
    Program.ask (I := interface) (.getSubTreePaths stub thresholdInterface)
  match paths with
  | some paths => scanPaths false paths
  | none => pure false

/-- One turn of the alarm loop. -/
def scanAlarms : Program interface Manager Bool := do
  watchServices
  let tempAlarm ← scanStub temperatureStub
  let voltageAlarm ← scanStub voltageStub
  pure (tempAlarm || voltageAlarm)

/-- The results of both setters are ignored. -/
def shutDown : Program interface Manager Unit := do
  let _ ← unsetPs
  let _ ← setAlarmGpio
  pure ()

/-- The places in the threads of the program where a loop turns. -/
inductive Label where
  | waitForSwitch
  | getFanControllerStatus
  | setPs
  | updateReadings
  | setSr
  | idle
  | logThread (heartbeat : Nat)
  | watchAlarms
  | scanAlarms
  | watchGpios
  deriving DecidableEq, Repr

/-- A loop repeats its body until it returns true. -/
def untilTrue (body : Program interface Manager Bool) (again : Label) (next : List Label) :
    Program interface Manager (List Label) := do
  let done ← body
  pure (if done then next else [again])

/-- The code of main and of its three threads. -/
def code : Label → Program interface Manager (List Label)
  | .waitForSwitch => untilTrue waitForSwitch .waitForSwitch [.getFanControllerStatus]
  | .getFanControllerStatus =>
      untilTrue getFanControllerStatus .getFanControllerStatus [.setPs]
  | .setPs => untilTrue setPs .setPs [.updateReadings]
  | .updateReadings => untilTrue updateReadings .updateReadings [.setSr]
  | .setSr => do
      let released ← setSr
      if released then
        writeLogsToFlash
        pure [.idle, .watchAlarms, .watchGpios]
      else pure [.setSr]
  | .idle => pure [.idle]
  | .logThread heartbeat => do
      writeLogsToFlash
      if heartbeat % 20 = 0 then
        let _ ← updateReadings
        pure [.logThread 2]
      else pure [.logThread (heartbeat + 1)]
  | .watchAlarms => do
      let manager ← Program.read
      if manager.ipmiServiceStatus then
        attempt .newBus id .dbusError
        pure [.scanAlarms]
      else
        watchServices
        pure [.watchAlarms]
  | .scanAlarms => do
      let alarms ← scanAlarms
      if alarms then
        shutDown
        pure []
      else pure [.scanAlarms]
  | .watchGpios => do
      watchGpios
      pure [.watchGpios]

abbrev Process := Pool interface Manager Label

/-- The manager is constructed before the log thread and the boot sequence start. -/
def boot (manager : Manager) : Process := ⟨manager, [Label.waitForSwitch, .logThread 1].map Worker.spawn⟩

def step : Process → Nat × ((op : Op) → op.Answer) → Option Process := Pool.step code

end Chassis.Boot
