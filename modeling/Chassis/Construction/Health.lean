import Chassis.Construction.Boot.Manager

namespace Chassis.Health
open Effect Boot

variable {State : Type}

def tachStub : String := "/xyz/openbmc_project/sensors/fan_tach"

/-- The high flag is read when the low one is not set. A read that fails ends the check with what it
has found. -/
def checkPaths (alarmactive : Bool) : List String → Program interface State Bool
  | [] => pure alarmactive
  | path :: rest => do
      let low : Option Bool ← Program.ask (I := interface) (.getAlarm path "CriticalAlarmLow")
      match low with
      | none => pure alarmactive
      | some true => checkPaths true rest
      | some false =>
          let high : Option Bool ← Program.ask (I := interface) (.getAlarm path "CriticalAlarmHigh")
          match high with
          | none => pure alarmactive
          | some high => checkPaths (alarmactive || high) rest

def alarmCheck (stub : String) : Program interface State Bool := do
  let paths : Option (List String) ←
    Program.ask (I := interface) (.getSubTreePaths stub thresholdInterface)
  match paths with
  | some paths => checkPaths false paths
  | none => pure false

/-- Each check overwrites the result of the check before it. -/
def getAllAlarmsStatus : Program interface State UInt8 := do
  let _ ← alarmCheck temperatureStub
  let _ ← alarmCheck tachStub
  let alarmactive ← alarmCheck voltageStub
  pure (if alarmactive then 0x02 else 0x01)

end Chassis.Health
