import Chassis.Construction.Boot.Manager

namespace Chassis.Boot
open Effect

/-- The services that the manager watches. -/
inductive Service where
  | temp
  | voltage
  | fanController
  | mandatorySensor
  | gpio
  | ipmi
  deriving DecidableEq, Repr

namespace Service

def all : List Service := [.temp, .voltage, .fanController, .mandatorySensor, .gpio, .ipmi]

def unit : Service → String
  | .temp => tempService
  | .voltage => voltageService
  | .fanController => fanControllerService
  | .mandatorySensor => mandatorySensorService
  | .gpio => gpioService
  | .ipmi => ipmiHostService

def title : Service → String
  | .temp => "Temperature monitoring"
  | .voltage => "Voltage monitoring"
  | .fanController => "Fan Controller"
  | .mandatorySensor => "Mandatory Sensors"
  | .gpio => "GPIO monitoring"
  | .ipmi => "IPMI host"

end Service

namespace Manager

def serviceStatus (manager : Manager) : Service → Bool
  | .temp => manager.tempServiceStatus
  | .voltage => manager.voltageServiceStatus
  | .fanController => manager.fanControllerServiceStatus
  | .mandatorySensor => manager.mandatorySensorServiceStatus
  | .gpio => manager.gpioServiceStatus
  | .ipmi => manager.ipmiServiceStatus

def setServiceStatus (manager : Manager) (status : Bool) : Service → Manager
  | .temp => { manager with tempServiceStatus := status }
  | .voltage => { manager with voltageServiceStatus := status }
  | .fanController => { manager with fanControllerServiceStatus := status }
  | .mandatorySensor => { manager with mandatorySensorServiceStatus := status }
  | .gpio => { manager with gpioServiceStatus := status }
  | .ipmi => { manager with ipmiServiceStatus := status }

end Manager

def logServicechange (status : Bool) : String := if status = false then " to OFF" else " to ON"

/-- A line of the system log without its time. -/
def statusChanged (service : Service) (status : Bool) : String :=
  "LCR: " ++ service.title ++ " service status changed" ++ logServicechange status

/-- The manager with the lines of its system log. -/
structure Watcher where
  manager : Manager
  systemLogs : List String

namespace Watcher

/-- The six comparisons differ in the service alone. -/
def compare (observed : Service → Bool) (watcher : Watcher) (service : Service) : Watcher :=
  if observed service ≠ watcher.manager.serviceStatus service then
    { manager := watcher.manager.setServiceStatus (observed service) service
      systemLogs := watcher.systemLogs ++ [statusChanged service (observed service)] }
  else watcher

/-- The status of the IPMI host is recorded before it is compared. -/
def record (watcher : Watcher) (observed : Service → Bool) : Watcher :=
  Service.all.foldl (compare observed)
    { watcher with manager := watcher.manager.setServiceStatus (observed .ipmi) .ipmi }

def check (service : Service) : Program interface Watcher Bool := do
  let watcher ← Program.read
  (isServiceActive service.unit).focus
    (fun manager (watcher : Watcher) => { watcher with manager := manager }) watcher.manager

def checkServices : Program interface Watcher (Service → Bool) := do
  let temp ← check .temp
  let voltage ← check .voltage
  let fanController ← check .fanController
  let mandatorySensor ← check .mandatorySensor
  let gpio ← check .gpio
  let ipmi ← check .ipmi
  pure fun service =>
    match service with
    | .temp => temp
    | .voltage => voltage
    | .fanController => fanController
    | .mandatorySensor => mandatorySensor
    | .gpio => gpio
    | .ipmi => ipmi

def watchServices : Program interface Watcher Unit := do
  let observed ← checkServices
  Program.modify fun watcher => watcher.record observed

/-- The manager is constructed before the first poll. -/
def start (limitJson : Json.Value ℚ) (junk : Monitor.Rail → AdcElement)
    (systemLogs : List String) : Watcher :=
  ⟨Manager.construct limitJson junk, systemLogs⟩

def poll (watcher : Watcher) (environment : Environment interface) : Watcher :=
  (watchServices.run environment watcher 0).state

end Watcher

end Chassis.Boot
