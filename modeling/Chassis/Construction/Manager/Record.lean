import Chassis.Construction.Bridge.Frame
import Chassis.Construction.Bridge.Channel
import Chassis.Effect.Program
import Mathlib.Data.Rat.Defs
import Mathlib.Algebra.Order.Field.Rat

namespace Chassis.Vita4611

def chmcI2cAddress : UInt8 := 0x20
def chmcIpmiAddress : UInt8 := chmcI2cAddress <<< 1
def vita4611VsoIdentifier : UInt8 := 3

def ipmiGetDeviceIdCmd : UInt8 := 1
def ipmiGetSensorReadingCmd : UInt8 := 0x2d
def ipmitoolCmdGetSdrInfo : UInt8 := 0x20
def ipmitoolCmdGetSdr : UInt8 := 0x21
def ipmitoolCmdReserveSdrRepo : UInt8 := 0x22

def vita4611GetVsoCapsCmd : UInt8 := 0x00
def vita4611GetChassisAddressTableInfoCmd : UInt8 := 0x01
def vita4611GetChassisIdCmd : UInt8 := 0x02
def vita4611SetChassisIdCmd : UInt8 := 0x03
def vita4611FruControl : UInt8 := 0x04
def vita4611SetIpmbStateCmd : UInt8 := 0x09
def vita4611SetFruStatePolicyBitsCmd : UInt8 := 0x0A
def vita4611GetFruStatePolicyBitsCmd : UInt8 := 0x0B
def vita4611SetFruActivationCmd : UInt8 := 0x0C
def vita4611GetDeviceLocatorRecordIdCmd : UInt8 := 0x0D
def vita4611GetFanSpeedPropertiesCmd : UInt8 := 0x14
def vita4611SetFanLevelCmd : UInt8 := 0x15
def vita4611GetFanLevelCmd : UInt8 := 0x16
def vita4611GetChassisManagerIpmbAddressCmd : UInt8 := 0x1B
def vita4611SetFanPolicyCmd : UInt8 := 0x1C
def vita4611GetFanPolicyCmd : UInt8 := 0x1D
def vita4611ChassisManagerIpAddressesCmd : UInt8 := 0x21
def vita4611GetFruAddressInfoCmd : UInt8 := 0x40
def vita4611GetMandatorySensorNumbersCmd : UInt8 := 0x44

def netfnApp : UInt8 := 6
def netfnSE : UInt8 := 4
def netfnStorage : UInt8 := 0x0a
def netfnVita4611 : UInt8 := 0x2c

structure CatEntry where
  hwAddress : UInt8
  siteNum : UInt8
  siteType : UInt8
  deriving DecidableEq, Repr

/-- The chassis address table keeps the fields that commands read or write. -/
structure Cat where
  chassisIdType : UInt8
  chassisIdField : Vector UInt8 20
  chassisAddTableEntriesCount : UInt8
  entries : List CatEntry
  deriving DecidableEq, Repr, Inhabited

structure VsoCaps where
  vsoIdentifier : UInt8
  ipmcIdentifier : UInt8
  ipmbCapabilities : UInt8
  vsoStandard : UInt8
  vsoRevision : UInt8
  maxFruDeviceId : UInt8
  ipmcFruDeviceId : UInt8
  deriving DecidableEq, Repr

inductive FruState where
  | m0IpmcInactive
  | m1FruInactive
  | m4FruActive
  | m5FruDeactivationRequest
  | m6FruDeactivationInProg
  | m7FruCommLost
  | unknown
  deriving DecidableEq, Repr, Inhabited

inductive Vita4611FruSensorType where
  | state
  | health
  | voltage
  | temp
  | payloadTestResults
  | payloadTestStatus
  | payloadModeSensor
  | unknown
  deriving DecidableEq, Repr, Inhabited

/-- The published object of one sensor. -/
structure SensorIface where
  value : ℚ
  unit : String
  criticalAlarmHigh : Bool
  criticalAlarmLow : Bool
  criticalHigh : ℚ
  criticalLow : ℚ
  deriving DecidableEq

/-- Floating-point readings are exact rational numbers here. -/
structure SensorRecord where
  sensorNumber : UInt8
  sensorType : Vita4611FruSensorType
  rawReading : UInt8
  reading : UInt8
  readingConverted : ℚ
  eventEnabled : Bool
  sdrHeaderRaw : List UInt8
  sdrInfoRaw : List UInt8
  sdrName : List UInt8
  sdrUnits : String
  sensorIface : Option SensorIface
  sensorCaps : UInt8
  sensorTypeCode : UInt8
  sensorUnits1 : UInt8
  sensorUnits3 : UInt8
  sensorLinearization : UInt8
  sensorM : UInt8
  sensorMtol : UInt8
  sensorB : UInt8
  sensorBacc : UInt8
  sensorAcc : UInt8
  rExp : UInt8
  bExp : UInt8
  analogCharacteristics : UInt8
  normalMaximum : UInt8
  normalMinimum : UInt8
  sensorMaximum : UInt8
  sensorMinimum : UInt8
  upperNonrecThreshold : UInt8
  lowerNonrecThreshold : UInt8
  upperCriticalThreshold : UInt8
  lowerCriticalThreshold : UInt8
  upperNoncriticalThreshold : UInt8
  lowerNoncriticalThreshold : UInt8
  convertedUpperNonrecThreshold : ℚ
  convertedLowerNonrecThreshold : ℚ
  convertedUpperCriticalThreshold : ℚ
  convertedLowerCriticalThreshold : ℚ
  convertedUpperNoncriticalThreshold : ℚ
  convertedLowerNoncriticalThreshold : ℚ
  deriving DecidableEq, Inhabited

/-- A default record keeps indeterminate contents in every field without an initialiser. -/
def SensorRecord.construct (indeterminate : SensorRecord) : SensorRecord :=
  { indeterminate with
    sensorNumber := 0
    sensorType := .unknown
    rawReading := 0
    reading := 0
    eventEnabled := false
    sdrHeaderRaw := []
    sdrInfoRaw := []
    sdrName := []
    sdrUnits := ""
    sensorIface := none }

structure FruInfo where
  deviceId : UInt8
  state : FruState
  fruName : String
  sensors : List SensorRecord
  deriving DecidableEq, Inhabited

structure Vita4611Device where
  sensorPopulationChangeIndicatorCache : List UInt8
  dynamicSensors : UInt8
  channel : UInt8
  deviceRecordTotal : UInt8
  mandatorySensorNumbers : List UInt8
  isVita4611Device : Bool
  validDeviceId : Bool
  deviceIdData : List UInt8
  vsocaps : Option VsoCaps
  fruinfo : FruInfo
  ipmiAddress : UInt8
  hwAddress : UInt8
  siteNumber : UInt8
  siteType : UInt8
  deviceId : UInt8
  fruActivationPolicy : UInt8
  fruActivationFlag : UInt8
  deriving DecidableEq, Inhabited

/-- The library functions behind the non-linear sensor conversions. -/
class Libm where
  log : ℚ → ℚ
  log10 : ℚ → ℚ
  log2 : ℚ → ℚ
  exp : ℚ → ℚ
  sqrt : ℚ → ℚ
  cbrt : ℚ → ℚ
  pow : ℚ → ℚ → ℚ

def tenBitSigned (low high : UInt8) : Int16 :=
  let unsigned : UInt16 := ((high >>> 6).toUInt16 <<< 8) ||| low.toUInt16
  (if unsigned &&& 0x0200 ≠ 0 then unsigned ||| 0xFC00 else unsigned).toInt16

def fourBitSigned (exponent : UInt8) : Int8 :=
  (if exponent &&& 0x08 ≠ 0 then exponent ||| 0xF0 else exponent).toInt8

/-- The analog data format selects how the raw byte is read. -/
def analogReading (analogDataFormat reading : UInt8) : Int :=
  if analogDataFormat = 0x00 then reading.toNat
  else if analogDataFormat = 0x01 then
    if reading &&& 0x80 ≠ 0 then -((~~~reading &&& 0x7F).toNat : Int) else reading.toNat
  else reading.toInt8.toInt

def linearize [Libm] (linearization : UInt8) (result : ℚ) : ℚ :=
  if linearization = 0x01 then if result > 0 then Libm.log result else result
  else if linearization = 0x02 then if result > 0 then Libm.log10 result else result
  else if linearization = 0x03 then if result > 0 then Libm.log2 result else result
  else if linearization = 0x04 then Libm.exp result
  else if linearization = 0x05 then Libm.pow 10 result
  else if linearization = 0x06 then Libm.pow 2 result
  else if linearization = 0x07 then if result ≠ 0 then 1 / result else result
  else if linearization = 0x08 then result ^ 2
  else if linearization = 0x09 then result ^ 3
  else if linearization = 0x0A then if result ≥ 0 then Libm.sqrt result else result
  else if linearization = 0x0B then if result ≥ 0 then Libm.cbrt result else result
  else result

def convertSensorReading [Libm] (unitsDef linearization m mtol b bacc rExp bExp reading : UInt8) :
    ℚ :=
  let analogDataFormat := unitsDef >>> 6
  if analogDataFormat = 0x03 then reading.toNat
  else
    let x : ℚ := analogReading analogDataFormat reading
    let calcVal : ℚ := (tenBitSigned m mtol).toInt * x +
      (tenBitSigned b bacc).toInt * (10 : ℚ) ^ (fourBitSigned bExp).toInt
    linearize linearization (calcVal * (10 : ℚ) ^ (fourBitSigned rExp).toInt)

def SensorRecord.convert [Libm] (record : SensorRecord) (reading : UInt8) : ℚ :=
  convertSensorReading record.sensorUnits1 record.sensorLinearization record.sensorM
    record.sensorMtol record.sensorB record.sensorBacc record.rExp record.bExp reading

/-- The unit table answers an unknown code with the empty text. -/
def sensorUnitTypeCodes (code : UInt8) : String :=
  (["unknown", "degrees C", "degrees F", "degrees K", "Volts", "Amps", "Watts", "Joules",
    "Coulombs", "VA", "Nits"][code.toNat]?).getD ""

/-- The answer of a D-Bus call to the bridge. -/
inductive DBusReply where
  | reply (result : Ipmb.SendRequestReply)
  | methodError
  | exception
  deriving DecidableEq, Repr, Inhabited

/-- These contents stand in every field and local that nothing initialises. -/
structure Indeterminate where
  sensor : SensorRecord
  device : Vita4611Device
  retryCount : Int
  byte : UInt8
  deriving Inhabited

/-- The calls of the chassis manager to the rest of the system. -/
inductive Op where
  | sendRequest (arguments : Ipmb.SendRequest)
  | stopUnit
  | startUnit
  | setFanPwm (target : UInt64)
  | getFanPwm
  | unitActiveState
  | openBus
  | selectAddress (addr : UInt8)
  | probe (addr : UInt8)
  | createSensorObject (path : List UInt8)
  | indeterminate
  deriving DecidableEq, Repr

/-- A call that can only succeed or throw answers whether it succeeded. -/
def Op.Answer : Op → Type
  | .sendRequest _ => DBusReply
  | .stopUnit => Bool
  | .startUnit => Bool
  | .setFanPwm _ => Bool
  | .getFanPwm => Option UInt64
  | .unitActiveState => Option String
  | .openBus => Bool
  | .selectAddress _ => Bool
  | .probe _ => Bool
  | .createSensorObject _ => Bool
  | .indeterminate => Indeterminate

instance : (op : Op) → Inhabited op.Answer
  | .sendRequest _ => inferInstanceAs (Inhabited DBusReply)
  | .stopUnit | .startUnit | .setFanPwm _ | .openBus | .selectAddress _ | .probe _
  | .createSensorObject _ => inferInstanceAs (Inhabited Bool)
  | .getFanPwm => inferInstanceAs (Inhabited (Option UInt64))
  | .unitActiveState => inferInstanceAs (Inhabited (Option String))
  | .indeterminate => inferInstanceAs (Inhabited Indeterminate)

inductive Exception where
  | badOptionalAccess
  | dbusError
  deriving DecidableEq, Repr

/-- The undefined behaviours that the chassis manager can reach. -/
inductive Fault where
  | reqdataIndex
  | reqdataRange
  | nullDevice
  | unassignedDevice
  | payloadIndex
  | payloadRange
  | nullCapabilities
  deriving DecidableEq, Repr

abbrev interface : Effect.Interface := ⟨Op, Op.Answer, Exception, Fault⟩

end Chassis.Vita4611
