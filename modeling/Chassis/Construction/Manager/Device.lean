import Chassis.Construction.Manager.Record

namespace Chassis.Vita4611
open Effect

variable {State : Type}

/-- Reading a payload outside its bounds is undefined. -/
def payloadByte (data : List UInt8) (index : Nat) : Program interface State UInt8 :=
  match data[index]? with
  | some byte => pure byte
  | none => .fault .payloadIndex

/-- The bytes from `first` to `last` form a range only inside the payload. -/
def payloadRange (data : List UInt8) (first last : Nat) : Program interface State (List UInt8) :=
  if first ≤ last ∧ last ≤ data.length then pure ((data.take last).drop first)
  else .fault .payloadRange

/-- Accessing the value of an empty optional throws. -/
def optionalValue {Value : Type} : Option Value → Program interface State Value
  | some value => pure value
  | none => .throw .badOptionalAccess

/-- The caller gets the reply when its completion code is zero. The second component is the code
that the output parameter receives, and a method error leaves that parameter unassigned. -/
def readReply : DBusReply → Option Ipmb.SendRequestReply × Option UInt8
  | .methodError => (none, none)
  | .reply result =>
      let cc := result.cc
      if cc = 0 then (some result, some cc) else (none, some cc)
  | .exception => (none, some 0xFF)

def sendIpmbRequest (channel addr netfn lun cmd : UInt8) (data : List UInt8) :
    Program interface State (Option Ipmb.SendRequestReply × Option UInt8) := do
  let reply ← Program.ask (I := interface) (.sendRequest ⟨channel, addr, netfn, lun, cmd, data⟩)
  pure (readReply reply)

def indeterminate : Program interface State Indeterminate :=
  Program.ask (I := interface) .indeterminate

namespace Vita4611Device

def queryDeviceId (addr : UInt8) : Program interface Vita4611Device Unit := do
  let (response, _) ← sendIpmbRequest 0 addr netfnApp 0 ipmiGetDeviceIdCmd []
  match response with
  | some response =>
      Program.modify fun device =>
        { device with deviceIdData := response.data, validDeviceId := true }
  | none => Program.modify fun device => { device with validDeviceId := false }

def isSensorDiscovered (device : Vita4611Device) (sensorNum : UInt8) : Bool :=
  device.fruinfo.sensors.any fun sensor => sensor.sensorNumber == sensorNum

def setSensors (device : Vita4611Device) (sensors : List SensorRecord) : Vita4611Device :=
  { device with fruinfo := { device.fruinfo with sensors := sensors } }

def pushSensor (device : Vita4611Device) (record : SensorRecord) : Vita4611Device :=
  device.setSensors (device.fruinfo.sensors ++ [record])

/-- Only the first record with the number changes. -/
def updateSensor (device : Vita4611Device) (sensorNum : UInt8)
    (update : SensorRecord → SensorRecord) : Vita4611Device :=
  device.setSensors (device.fruinfo.sensors.modify
    (device.fruinfo.sensors.findIdx fun sensor => sensor.sensorNumber == sensorNum) update)

/-- A failed request leaves the raw reading at zero. -/
def rawReadingOf (response : Option Ipmb.SendRequestReply) :
    Program interface Vita4611Device UInt8 :=
  match response with
  | some response => payloadByte response.data 0
  | none => pure 0

def getSensorReading [Libm] (index : Nat) (channel : UInt8) :
    Program interface Vita4611Device Unit := do
  let device ← Program.read
  match device.fruinfo.sensors[index]? with
  | none => pure ()
  | some sensor =>
      let (response, _) ← sendIpmbRequest channel device.ipmiAddress netfnSE 0
        ipmiGetSensorReadingCmd [sensor.sensorNumber]
      let rawReading ← rawReadingOf response
      let value := sensor.convert rawReading
      Program.modify fun device => device.setSensors (device.fruinfo.sensors.set index { sensor with
        rawReading := rawReading
        readingConverted := value
        sensorIface := sensor.sensorIface.map fun iface => { iface with value := value } })

def getAllSensorReadings [Libm] : Program interface Vita4611Device Unit := do
  let device ← Program.read
  Program.forEach (fun index => getSensorReading index 0)
    (List.range device.fruinfo.sensors.length)

def reserveSdrRepo : Program interface Vita4611Device (UInt8 × UInt8) := do
  let device ← Program.read
  let (response, _) ← sendIpmbRequest device.channel device.ipmiAddress netfnSE 0
    ipmitoolCmdReserveSdrRepo []
  let response ← optionalValue response
  let first ← payloadByte response.data 0
  let second ← payloadByte response.data 1
  pure (first, second)

def getSdrHeader (resId : UInt8 × UInt8) (sensorNumber : UInt8) :
    Program interface Vita4611Device (List UInt8) := do
  let device ← Program.read
  let (response, _) ← sendIpmbRequest device.channel device.ipmiAddress netfnSE 0
    ipmitoolCmdGetSdr [resId.1, resId.2, sensorNumber, 0, 0, 0x05]
  let response ← optionalValue response
  pure response.data

/-- The loop asks for the next section until a section is shorter than `0x16` bytes. -/
def getSdrSections (resId : UInt8 × UInt8) (sensorNumber : UInt8) (length : Nat) :
    Nat → UInt8 → UInt8 → UInt8 → List UInt8 → Program interface Vita4611Device (List UInt8)
  | 0, _, _, _, responseCumulative => pure responseCumulative
  | fuel + 1, section', total, sectionTotal, responseCumulative => do
      let part : UInt8 :=
        if total.toNat + section'.toNat > length then UInt8.ofNat length - total else section'
      let device ← Program.read
      let (response, _) ← sendIpmbRequest device.channel device.ipmiAddress netfnSE 0
        ipmitoolCmdGetSdr [resId.1, resId.2, sensorNumber, 0, sectionTotal, part]
      let response ← optionalValue response
      let cumulative := responseCumulative ++ response.data.drop 2
      if part = 0x16 then
        getSdrSections resId sensorNumber length fuel part (total + part) (sectionTotal + part)
          cumulative
      else pure cumulative

/-- A body has at most 255 bytes, so twelve sections exhaust it. -/
def getSdrVals (resId : UInt8 × UInt8) (sensorNumber length : UInt8) :
    Program interface Vita4611Device (List UInt8) :=
  getSdrSections resId sensorNumber length.toNat 256 0x16 0 0x05 []

/-- The highest fixed index that a full record is read at is 42. -/
def handleFullSdr [Libm] (sdrheader sdrvals : List UInt8) :
    Program interface Vita4611Device Unit := do
  let idLength ← payloadByte sdrvals 42
  let sdrName ← payloadRange sdrvals 43 (43 + (idLength &&& 0x1F).toNat)
  let junk ← indeterminate
  let byte (index : Nat) : UInt8 := sdrvals.getD index 0
  let factors : SensorRecord := { SensorRecord.construct junk.sensor with
    sensorNumber := byte 2
    sdrHeaderRaw := sdrheader
    sdrInfoRaw := sdrvals
    sdrName := sdrName
    sdrUnits := sensorUnitTypeCodes (byte 16)
    sensorCaps := byte 6
    sensorTypeCode := byte 7
    sensorUnits1 := byte 15
    sensorUnits3 := byte 17
    sensorLinearization := byte 18
    sensorM := byte 19
    sensorMtol := byte 20
    sensorB := byte 21
    sensorBacc := byte 22
    sensorAcc := byte 23
    rExp := byte 24 >>> 4
    bExp := byte 24 &&& 0x0f
    analogCharacteristics := byte 25
    rawReading := byte 26
    normalMaximum := byte 27
    normalMinimum := byte 28
    sensorMaximum := byte 29
    sensorMinimum := byte 30
    upperNonrecThreshold := byte 31
    upperCriticalThreshold := byte 32
    upperNoncriticalThreshold := byte 33
    lowerNonrecThreshold := byte 34
    lowerCriticalThreshold := byte 35
    lowerNoncriticalThreshold := byte 36 }
  let record : SensorRecord := { factors with
    readingConverted := factors.convert factors.rawReading
    convertedUpperNonrecThreshold := factors.convert factors.upperNonrecThreshold
    convertedLowerNonrecThreshold := factors.convert factors.lowerNonrecThreshold
    convertedUpperCriticalThreshold := factors.convert factors.upperCriticalThreshold
    convertedLowerCriticalThreshold := factors.convert factors.lowerCriticalThreshold
    convertedUpperNoncriticalThreshold := factors.convert factors.upperNoncriticalThreshold
    convertedLowerNoncriticalThreshold := factors.convert factors.lowerNoncriticalThreshold }
  Program.modify fun device =>
    if device.isSensorDiscovered record.sensorNumber then
      device.updateSensor record.sensorNumber fun _ => record
    else device.pushSensor record

/-- The highest fixed index that a compact record is read at is 26. -/
def handleCompactSdr (sdrheader sdrvals : List UInt8) :
    Program interface Vita4611Device Unit := do
  let idLength ← payloadByte sdrvals 26
  let sdrName ← payloadRange sdrvals 27 (27 + (idLength &&& 0x1F).toNat)
  let junk ← indeterminate
  let sensorNumber := sdrvals.getD 2 0
  let describe (record : SensorRecord) : SensorRecord := { record with
    sdrHeaderRaw := sdrheader
    sdrInfoRaw := sdrvals
    sdrName := sdrName
    sdrUnits := sensorUnitTypeCodes (sdrvals.getD 16 0) }
  Program.modify fun device =>
    if device.isSensorDiscovered sensorNumber then device.updateSensor sensorNumber describe
    else device.pushSensor
      (describe { SensorRecord.construct junk.sensor with sensorNumber := sensorNumber })

/-- One record is skipped when its header has the wrong size or its type is unknown. -/
def readSdr [Libm] (resId : UInt8 × UInt8) (index : UInt8) :
    Program interface Vita4611Device Unit := do
  let sdrheader ← getSdrHeader resId index
  if sdrheader.length ≠ 7 then pure ()
  else
    let recordType := sdrheader.getD 5 0
    let sdrvals ← getSdrVals resId index (sdrheader.getD 6 0)
    Program.tryCatch
      (if recordType = 1 then handleFullSdr sdrheader sdrvals
        else if recordType = 2 then handleCompactSdr sdrheader sdrvals
        else pure ())
      (fun _ => pure ())

/-- A failed record is counted, and the loop stops at a failure after three retries. -/
def readSdrs [Libm] (resId : UInt8 × UInt8) :
    List UInt8 → Int → Program interface Vita4611Device Unit
  | [], _ => pure ()
  | index :: rest, retryCount => do
      let failed ← Program.tryCatch (do readSdr resId index; pure false) (fun _ => pure true)
      if failed then
        if retryCount ≥ 3 then pure () else readSdrs resId rest (retryCount + 1)
      else readSdrs resId rest retryCount

def getAllSdrs [Libm] : Program interface Vita4611Device Unit := do
  let resId ← reserveSdrRepo
  let junk ← indeterminate
  let device ← Program.read
  readSdrs resId ((List.range device.deviceRecordTotal.toNat).map UInt8.ofNat) junk.retryCount

/-- The payload of the mandatory sensor numbers names six sensors in this order. -/
def mandatoryRoles : List (Nat × Vita4611FruSensorType) :=
  [(1, .state), (2, .health), (3, .voltage), (4, .temp), (5, .payloadTestResults),
    (6, .payloadTestStatus)]

def addMandatorySensor (junk : SensorRecord) (payload : List UInt8)
    (role : Nat × Vita4611FruSensorType) : Program interface Vita4611Device Unit := do
  let number ← payloadByte payload role.1
  Program.modify fun device =>
    { device with mandatorySensorNumbers := device.mandatorySensorNumbers ++ [number] }.pushSensor
      { SensorRecord.construct junk with sensorNumber := number, sensorType := role.2 }

/-- The sensors of a FRU are added in order. An answer of another defining body ends the
enumeration of this FRU. -/
def addMandatorySensors (fru : UInt8) (response : Option Ipmb.SendRequestReply) :
    Program interface Vita4611Device Bool :=
  match response with
  | none => pure true
  | some response => do
      let identifier ← payloadByte response.data 0
      if identifier ≠ vita4611VsoIdentifier then pure false
      else
        let junk ← indeterminate
        Program.modify fun device =>
          { device with fruinfo := { device.fruinfo with deviceId := fru, fruName := "VITA4611FRU" } }
        Program.forEach (addMandatorySensor junk.sensor response.data) mandatoryRoles
        pure true

/-- The second byte of an answer updates the device, and a failed request changes nothing. -/
def updateFromInfo (info : Option Ipmb.SendRequestReply)
    (update : UInt8 → Vita4611Device → Vita4611Device) : Program interface Vita4611Device Unit :=
  match info with
  | some info => do
      let byte ← payloadByte info.data 1
      Program.modify (update byte)
  | none => pure ()

def enumerateFruSensors [Libm] (fru addr : UInt8) : Program interface Vita4611Device Unit := do
  let (response, _) ← sendIpmbRequest 0 addr netfnVita4611 0 vita4611GetMandatorySensorNumbersCmd
    [0x03, fru]
  let (sdrInfo, _) ← sendIpmbRequest 0 addr netfnSE 0 ipmitoolCmdGetSdrInfo []
  let (sdrRepoInfo, _) ← sendIpmbRequest 0 addr netfnStorage 0 ipmitoolCmdGetSdrInfo []
  let own ← addMandatorySensors fru response
  if own then
    updateFromInfo sdrRepoInfo fun numRecords device =>
      { device with deviceRecordTotal := numRecords }
    updateFromInfo sdrInfo fun flags device => { device with dynamicSensors := flags >>> 7 }
    getAllSdrs
  else pure ()

/-- The records are read again when the change indicator differs from the cached one. -/
def refreshSdrs [Libm] (indicator : List UInt8) : Program interface Vita4611Device Unit := do
  let device ← Program.read
  if indicator ≠ device.sensorPopulationChangeIndicatorCache then getAllSdrs else pure ()

def checkSdrInfo [Libm] : Program interface Vita4611Device Unit := do
  let device ← Program.read
  let (sdrInfo, _) ← sendIpmbRequest 0 device.ipmiAddress netfnSE 0 ipmitoolCmdGetSdrInfo []
  match sdrInfo with
  | some info =>
      let indicator ← payloadRange info.data 2 info.data.length
      refreshSdrs indicator
      Program.modify fun device =>
        { device with sensorPopulationChangeIndicatorCache := indicator }
  | none => pure ()

/-- A single FRU is enumerated alone. Otherwise the loop stops before the maximum identifier. -/
def discoverFrus [Libm] : Program interface Vita4611Device Unit := do
  let device ← Program.read
  match device.vsocaps with
  | none => .fault .nullCapabilities
  | some vsocaps =>
      if vsocaps.maxFruDeviceId = 0 then enumerateFruSensors 0 device.ipmiAddress
      else
        Program.forEach (fun fru => enumerateFruSensors fru device.ipmiAddress)
          ((List.range vsocaps.maxFruDeviceId.toNat).map UInt8.ofNat)

/-- The answer is read as a structure of seven bytes. -/
def VsoCaps.ofBytes (data : List UInt8) : Program interface State VsoCaps := do
  let bytes ← payloadRange data 0 7
  let byte (index : Nat) : UInt8 := bytes.getD index 0
  pure ⟨byte 0, byte 1, byte 2, byte 3, byte 4, byte 5, byte 6⟩

/-- The request names the chassis manager's own address as its destination. -/
def queryVsoCapabilities : Program interface Vita4611Device Unit := do
  let device ← Program.read
  let (response, _) ← sendIpmbRequest device.channel 0x40 netfnVita4611 0 vita4611GetVsoCapsCmd
    [0x03]
  match response with
  | some response =>
      Program.modify fun device => { device with isVita4611Device := true }
      let vsocaps ← VsoCaps.ofBytes response.data
      Program.modify fun device => { device with vsocaps := some vsocaps }
  | none => Program.modify fun device => { device with isVita4611Device := false }

/-- A new object has empty containers and indeterminate bytes. -/
def blank (junk : Vita4611Device) : Vita4611Device :=
  { junk with
    sensorPopulationChangeIndicatorCache := []
    mandatorySensorNumbers := []
    deviceIdData := []
    vsocaps := none
    fruinfo := ⟨0, .unknown, "", []⟩ }

/-- Only a device with a valid identifier is asked for its capabilities and its FRUs. -/
def query [Libm] (ipmiAddress : UInt8) : Program interface Vita4611Device Unit := do
  queryDeviceId ipmiAddress
  let device ← Program.read
  if device.validDeviceId then
    queryVsoCapabilities
    let device ← Program.read
    if device.isVita4611Device then discoverFrus else pure ()
  else pure ()

/-- The constructor derives the addresses and queries the device. -/
def construct [Libm] (channel ipmiAddress : UInt8) : Program interface Vita4611Device Unit := do
  Program.modify fun device => { device with
    channel := channel
    ipmiAddress := ipmiAddress
    hwAddress := ipmiAddress >>> 1
    siteNumber := (ipmiAddress >>> 1) - 0x40
    siteType := 0x00 }
  query ipmiAddress

end Vita4611Device

end Chassis.Vita4611
