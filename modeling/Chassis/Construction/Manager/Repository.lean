import Chassis.Construction.Manager.Device

namespace Chassis.Vita4611
open Effect

/-- A record of a device's SDR repository. Identifiers have their least significant byte first. -/
structure SdrRecord where
  recordId : UInt8 × UInt8
  nextRecordId : UInt8 × UInt8
  sdrVersion : UInt8
  recordType : UInt8
  body : List UInt8
  short : body.length ≤ 255

namespace SdrRecord

/-- The header of five bytes ends with the length of the body. -/
def bytes (record : SdrRecord) : List UInt8 :=
  [record.recordId.1, record.recordId.2, record.sdrVersion, record.recordType,
    UInt8.ofNat record.body.length] ++ record.body

/-- A read returns the next identifier before the bytes that were asked for. -/
def read (record : SdrRecord) (offset count : UInt8) : List UInt8 :=
  [record.nextRecordId.1, record.nextRecordId.2] ++
    (record.bytes.drop offset.toNat).take count.toNat

/-- Full and compact records describe sensors. -/
def isSensor (record : SdrRecord) : Prop := record.recordType = 1 ∨ record.recordType = 2

/-- The sensor that a record describes. -/
def sensorNumber (record : SdrRecord) : UInt8 := record.body.getD 2 0

/-- The header of a record comes with the next identifier. -/
def header (record : SdrRecord) : List UInt8 :=
  [record.nextRecordId.1, record.nextRecordId.2, record.recordId.1, record.recordId.2,
    record.sdrVersion, record.recordType, UInt8.ofNat record.body.length]

/-- The name of a sensor ends its record and has its length in the byte before it. -/
def sdrName (record : SdrRecord) : List UInt8 :=
  let first := if record.recordType = 1 then 43 else 27
  (record.body.drop first).take (record.body.getD (first - 1) 0 &&& 0x1F).toNat

end SdrRecord

/-- The bytes that a sensor takes over from a full record. -/
def SensorRecord.factors (sensor : SensorRecord) : List UInt8 :=
  [sensor.sensorCaps, sensor.sensorTypeCode, sensor.sensorUnits1, sensor.sensorUnits3,
    sensor.sensorLinearization, sensor.sensorM, sensor.sensorMtol, sensor.sensorB,
    sensor.sensorBacc, sensor.sensorAcc, sensor.rExp, sensor.bExp, sensor.analogCharacteristics,
    sensor.normalMaximum, sensor.normalMinimum, sensor.sensorMaximum, sensor.sensorMinimum,
    sensor.upperNonrecThreshold, sensor.upperCriticalThreshold, sensor.upperNoncriticalThreshold,
    sensor.lowerNonrecThreshold, sensor.lowerCriticalThreshold, sensor.lowerNoncriticalThreshold]

def SensorRecord.convertedThresholds (sensor : SensorRecord) : List ℚ :=
  [sensor.convertedUpperNonrecThreshold, sensor.convertedUpperCriticalThreshold,
    sensor.convertedUpperNoncriticalThreshold, sensor.convertedLowerNonrecThreshold,
    sensor.convertedLowerCriticalThreshold, sensor.convertedLowerNoncriticalThreshold]

/-- A sensor shows a record when it has the contents of the record. Only a full record has
factors and thresholds. -/
structure SdrRecord.Shown [Libm] (record : SdrRecord) (sensor : SensorRecord) : Prop where
  number : sensor.sensorNumber = record.sensorNumber
  header : sensor.sdrHeaderRaw = record.header
  body : sensor.sdrInfoRaw = record.body
  name : sensor.sdrName = record.sdrName
  units : sensor.sdrUnits = sensorUnitTypeCodes (record.body.getD 16 0)
  factors : record.recordType = 1 →
    let byte (index : Nat) : UInt8 := record.body.getD index 0
    sensor.factors = [6, 7, 15, 17, 18, 19, 20, 21, 22, 23].map byte ++
      [byte 24 >>> 4, byte 24 &&& 0x0F] ++
      [25, 27, 28, 29, 30, 31, 32, 33, 34, 35, 36].map byte
  thresholds : record.recordType = 1 →
    sensor.convertedThresholds =
      [31, 32, 33, 34, 35, 36].map fun index => sensor.convert (record.body.getD index 0)

/-- The identifiers of the records are distinct. -/
structure SdrRepository where
  records : List SdrRecord
  distinct : (records.map SdrRecord.recordId).Nodup

namespace SdrRepository

def find (repository : SdrRepository) (recordId : UInt8 × UInt8) : Option SdrRecord :=
  repository.records.find? fun record => record.recordId == recordId

/-- The data of a Get SDR request ends with the record, the offset and the count. -/
def getSdr (repository : SdrRepository) : List UInt8 → Option (List UInt8)
  | [_, _, low, high, offset, count] =>
      (repository.find (low, high)).map fun record => record.read offset count
  | _ => none

/-- No sensor record has the given identifier or a later one. -/
def Past (repository : SdrRepository) (index : UInt8) : Prop :=
  ∀ record ∈ repository.records, record.isSensor → record.recordId.1 < index

end SdrRepository

/-- The request got no answer that its sender can use. -/
def Fails (answer : DBusReply) : Prop := (readReply answer).1 = none

/-- The request was answered with the given data. -/
def Pays (answer : DBusReply) (data : List UInt8) : Prop :=
  ∃ result, answer = .reply result ∧ result.cc = 0 ∧ result.data = data

/-- A device with the given change indicator and repository answers a request or fails. -/
def Serves (indicator : List UInt8) (repository : SdrRepository) (arguments : Ipmb.SendRequest)
    (answer : DBusReply) : Prop :=
  arguments.netfn = netfnSE → Fails answer ∨
    (arguments.cmd = ipmitoolCmdGetSdrInfo →
      ∃ count flags, Pays answer (count :: flags :: indicator)) ∧
    (arguments.cmd = ipmitoolCmdReserveSdrRepo → ∃ low high, Pays answer [low, high]) ∧
    (arguments.cmd = ipmitoolCmdGetSdr →
      ∃ data, repository.getSdr arguments.dataReceived = some data ∧ Pays answer data)

/-- Get SDR requests are answered from one repository and fail only past its last sensor record.
The other answers are arbitrary. -/
def Answers (repository : SdrRepository) : (op : Op) → op.Answer → Prop
  | .sendRequest arguments, answer => arguments.cmd = ipmitoolCmdGetSdr →
      (∃ data, repository.getSdr arguments.dataReceived = some data ∧ Pays answer data) ∨
        Fails answer ∧ repository.Past (arguments.dataReceived.getD 2 0)
  | _, _ => True

/-- Requests for records are answered from one repository or fail, and only excused records may
fail. The other answers are arbitrary. -/
def Offers (repository : SdrRepository) (excused : UInt8 → Prop) : (op : Op) → op.Answer → Prop
  | .sendRequest arguments, answer => arguments.cmd = ipmitoolCmdGetSdr →
      ∀ first second index offset count,
        arguments.dataReceived = [first, second, index, 0, offset, count] →
        (∃ record, repository.find (index, 0) = some record ∧
          Pays answer (record.read offset count)) ∨ Fails answer ∧ excused index
  | _, _ => True

/-- What the manager attaches to the number of a sensor: its role and its published object. -/
structure Attachment where
  sensorNumber : UInt8
  sensorType : Vita4611FruSensorType
  sensorIface : Option SensorIface
  deriving DecidableEq

/-- A sensor that was only read from a record has no role and no object. -/
def Attachment.bare (sensorNumber : UInt8) : Attachment := ⟨sensorNumber, .unknown, none⟩

def SensorRecord.attachment (sensor : SensorRecord) : Attachment :=
  ⟨sensor.sensorNumber, sensor.sensorType, sensor.sensorIface⟩

def Vita4611Device.attachments (device : Vita4611Device) : List Attachment :=
  device.fruinfo.sensors.map SensorRecord.attachment

namespace SdrRecord

instance (record : SdrRecord) : Decidable record.isSensor := inferInstanceAs (Decidable (_ ∨ _))

/-- The name of a sensor record ends inside its body. -/
def Complete (record : SdrRecord) : Prop :=
  let first := if record.recordType = 1 then 43 else 27
  first + (record.body.getD (first - 1) 0 &&& 0x1F).toNat ≤ record.body.length

/-- A full record strips the first sensor with its number, and a new sensor starts stripped. -/
def attach (record : SdrRecord) (table : List Attachment) : List Attachment :=
  if record.isSensor then
    if table.any fun attachment => attachment.sensorNumber == record.sensorNumber then
      if record.recordType = 1 then
        table.modify (table.findIdx fun attachment =>
          attachment.sensorNumber == record.sensorNumber) fun _ => .bare record.sensorNumber
      else table
    else table ++ [.bare record.sensorNumber]
  else table

/-- The record describes a sensor of the table. A full record describes one without a role and
without an object. -/
def Harmless (record : SdrRecord) (table : List Attachment) : Prop :=
  ∃ attachment, table.find? (fun attachment =>
      attachment.sensorNumber == record.sensorNumber) = some attachment ∧
    (record.recordType = 1 → attachment.sensorType = .unknown ∧ attachment.sensorIface = none)

end SdrRecord

/-- During a poll the device may change its indicator at each call. -/
structure SdrPoll where
  environment : Environment interface
  indicator : Nat → List UInt8

def SdrPoll.run [Libm] (poll : SdrPoll) (device : Vita4611Device) :
    Run interface Vita4611Device Unit :=
  Vita4611Device.checkSdrInfo.run poll.environment device 0

/-- The next poll starts from the device that this one leaves, unless it reaches undefined
behaviour. -/
def Vita4611Device.poll [Libm] (device : Vita4611Device) (poll : SdrPoll) :
    Option Vita4611Device :=
  match (poll.run device).outcome with
  | .fault _ => none
  | _ => some (poll.run device).state

/-- The indicator of a dynamic sensor population has four bytes and determines the repository. -/
structure SdrPoll.Faithful (contents : List UInt8 → SdrRepository) (poll : SdrPoll) : Prop where
  length : ∀ position, (poll.indicator position).length = 4
  serves : ∀ position arguments,
    Serves (poll.indicator position) (contents (poll.indicator position)) arguments
      (poll.environment position (.sendRequest arguments))

end Chassis.Vita4611
