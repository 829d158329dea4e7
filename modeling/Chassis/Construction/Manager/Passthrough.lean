import Chassis.Construction.Manager.Command

namespace Chassis.Vita4611
open Effect

/-- A response carries a completion code and optional data. -/
structure RspType where
  cc : UInt8
  data : Option (List UInt8)
  deriving DecidableEq, Repr

def response (cc : UInt8) : RspType := ⟨cc, none⟩
def responseSuccess (data : List UInt8) : RspType := ⟨0x00, some data⟩
def responseInvalidCommandOnLun : RspType := response 0xC2
def responseReqDataLenInvalid : RspType := response 0xC7
def responseIllegalCommand : RspType := response 0xCD
def responseCmdFailInitAgent : RspType := response 0xD2
def responseUnspecifiedError : RspType := response 0xFF

def ChassisManager.verifyIpmiAddressIsValid (manager : ChassisManager) (ipmiAddress : UInt8) :
    Bool :=
  manager.i2cdeviceMap.any fun item => item.devicei2caddress == ipmiAddress >>> 1

/-- The IPMI address of a device is twice its I2C address. -/
def I2cDeviceInfo.ipmiAddress (item : I2cDeviceInfo) : UInt8 := item.devicei2caddress <<< 1

def ChassisManager.getDeviceList (manager : ChassisManager) (ipmiAddressList : List UInt8) :
    List UInt8 :=
  ipmiAddressList ++ manager.i2cdeviceMap.map I2cDeviceInfo.ipmiAddress

/-- The request data is ignored. -/
def lcrGetDeviceList (manager : ChassisManager) : RspType :=
  responseSuccess (manager.getDeviceList [chmcIpmiAddress])

/-- Link A is preferred, link B replaces it, and no link closes the command. -/
def selectChannel (mIpmbAEnable mIpmbBEnable : UInt8) : Option UInt8 :=
  if mIpmbAEnable = 1 then some 0
  else if mIpmbAEnable = 0 ∧ mIpmbBEnable = 1 then some 4
  else none

/-- A code that the failed call did not assign is indeterminate. -/
def responseWithCode (cc : Option UInt8) : Program interface ChassisManager RspType := do
  match cc with
  | some cc => pure (response cc)
  | none =>
      let junk ← indeterminate
      pure (response junk.byte)

/-- The failure of the capabilities query hides the completion code of the device. -/
def forwardVita (ch ipmiAddress lun cmd : UInt8) (known : Bool) (arguments : List UInt8) :
    Program interface ChassisManager RspType := do
  if known then
    let (answer, cc) ← sendIpmbRequest ch ipmiAddress netfnVita4611 lun cmd (0x03 :: arguments)
    match answer with
    | some answer => pure (responseSuccess answer.data)
    | none =>
        if cmd = vita4611GetVsoCapsCmd then pure responseCmdFailInitAgent else responseWithCode cc
  else pure responseInvalidCommandOnLun

def forwardIpmi (ch ipmiAddress netFn lun cmd : UInt8) (known : Bool) (arguments : List UInt8) :
    Program interface ChassisManager RspType := do
  if known then
    let (answer, cc) ← sendIpmbRequest ch ipmiAddress netFn lun cmd arguments
    match answer with
    | some answer => pure (responseSuccess answer.data)
    | none => responseWithCode cc
  else pure responseUnspecifiedError

def executePassthroughCmd (reqdata : List UInt8) : Program interface ChassisManager RspType := do
  let manager ← Program.read
  match selectChannel manager.mIpmbAEnable manager.mIpmbBEnable with
  | none => pure responseIllegalCommand
  | some ch =>
      if reqdata.length < 4 then pure responseReqDataLenInvalid
      else
        let ipmiAddress ← reqByte reqdata 0
        let netFn ← reqByte reqdata 1
        let lun ← reqByte reqdata 2
        let cmd ← reqByte reqdata 3
        if ipmiAddress = chmcIpmiAddress then
          let chmResponseData ← handleChmCommand reqdata
          if chmResponseData ≠ [] then pure (responseSuccess chmResponseData)
          else pure responseIllegalCommand
        else if manager.verifyIpmiAddressIsValid ipmiAddress = false then
          pure responseIllegalCommand
        else
          let known := (manager.findDeviceByAddress ipmiAddress).isSome
          if netFn = netfnVita4611 then
            forwardVita ch ipmiAddress lun cmd known (reqdata.drop 4)
          else forwardIpmi ch ipmiAddress netFn lun cmd known (reqdata.drop 4)

/-- A device program runs on the device that the key owns. -/
def onDevice (program : Program interface Vita4611Device Unit) (key : UInt8) :
    Program interface ChassisManager Unit := do
  let manager ← Program.read
  match manager.deviceMap key with
  | none => pure ()
  | some none => .fault .nullDevice
  | some (some device) =>
      program.focus (fun device manager => manager.setDevice key (some device)) device

def pollDeviceSensors [Libm] : Program interface ChassisManager Unit :=
  Program.forEach (onDevice Vita4611Device.getAllSensorReadings) allKeys

def pollSdrs [Libm] : Program interface ChassisManager Unit :=
  Program.forEach (onDevice do
    let device ← Program.read
    if device.dynamicSensors = 1 then Vita4611Device.checkSdrInfo else pure ()) allKeys

/-- Only these units have a published object, with its group and its unit. -/
def sensorGroup (sdrUnits : String) : Option (String × String) :=
  if sdrUnits = "degrees C" then some ("temperature/", "DegreesC")
  else if sdrUnits = "Volts" then some ("voltage/", "Volts")
  else if sdrUnits = "Amps" then some ("current/", "Amperes")
  else if sdrUnits = "Watts" then some ("power/", "Watts")
  else none

def sensorPath (group : String) (sdrName : List UInt8) (num : UInt8) : List UInt8 :=
  ("/xyz/openbmc_project/sensors/" ++ group).toUTF8.toList ++
    sdrName.map (fun byte => if byte = 0x2D then 0x5F else byte) ++
    ("_" ++ toString num.toNat).toUTF8.toList

def exposeSensor (num : UInt8) (index : Nat) : Program interface Vita4611Device Unit := do
  let device ← Program.read
  match device.fruinfo.sensors[index]? with
  | none => pure ()
  | some sensor =>
      match sensorGroup sensor.sdrUnits with
      | none => pure ()
      | some (group, unit) =>
          Program.tryCatch (do
            dbusCall (.createSensorObject (sensorPath group sensor.sdrName num)) id
            Program.modify fun device => device.setSensors (device.fruinfo.sensors.set index
              { sensor with sensorIface := some {
                  value := sensor.readingConverted
                  unit := unit
                  criticalAlarmHigh := false
                  criticalAlarmLow := false
                  criticalHigh := sensor.convertedUpperCriticalThreshold
                  criticalLow := sensor.convertedLowerCriticalThreshold } }))
            (fun _ => pure ())

def exposeFruSensors [Libm] : Program interface ChassisManager Unit :=
  Program.forEach (fun key => onDevice (do
    let device ← Program.read
    Program.forEach (exposeSensor key) (List.range device.fruinfo.sensors.length)
    Vita4611Device.getAllSensorReadings) key) allKeys

/-- The timers poll a device for its readings and for changed records. -/
inductive DevicePoll where
  | readings (environment : Environment interface)
  | sdrs (environment : Environment interface)

def DevicePoll.run [Libm] (device : Vita4611Device) : DevicePoll → Run interface Vita4611Device Unit
  | .readings environment => Vita4611Device.getAllSensorReadings.run environment device 0
  | .sdrs environment => Vita4611Device.checkSdrInfo.run environment device 0

/-- The next poll starts from the device that this one leaves, unless it reaches undefined
behaviour. -/
def Vita4611Device.polled [Libm] (device : Vita4611Device) (poll : DevicePoll) :
    Option Vita4611Device :=
  match (poll.run device).outcome with
  | .fault _ => none
  | _ => some (poll.run device).state

/-- The objects of a table are published once, for sensors that have none yet. -/
def Vita4611Device.Exposed (device : Vita4611Device) : Prop :=
  ∃ (table : Vita4611Device) (num : UInt8) (environment : Environment interface),
    (∀ sensor ∈ table.fruinfo.sensors, sensor.sensorIface = none) ∧
      ((Program.forEach (exposeSensor num) (List.range table.fruinfo.sensors.length)).run
        environment table 0).state = device

/-- The device is stored under its key and enters both lists. -/
def addDevice [Libm] (key addr : UInt8) : Program interface ChassisManager Unit := do
  Program.modify fun manager =>
    { manager with i2cdeviceMap := manager.i2cdeviceMap ++ [⟨0, addr, 0, 0x20⟩] }
  let junk ← indeterminate
  let (_, device) ← (Vita4611Device.construct 0 (addr <<< 1)).isolate (.blank junk.device)
  Program.modify fun manager =>
    let manager := manager.setDevice key (some { device with deviceId := 0 })
    { manager with chassisAddressTable := { manager.chassisAddressTable with
        entries := manager.chassisAddressTable.entries ++
          [⟨device.hwAddress, 0, device.siteType⟩]
        chassisAddTableEntriesCount :=
          manager.chassisAddressTable.chassisAddTableEntriesCount + 0x01 } }

/-- The chassis manager's own address takes key 0, and the others take the next number. -/
def enumerateAddresses [Libm] : List UInt8 → UInt8 → Program interface ChassisManager Unit
  | [], _ => pure ()
  | addr :: rest, n => do
      let selected : Bool ← Program.ask (I := interface) (.selectAddress addr)
      if selected then
        let present : Bool ← Program.ask (I := interface) (.probe addr)
        if present then
          if addr = chmcI2cAddress then
            addDevice 0 addr
            enumerateAddresses rest n
          else
            addDevice n addr
            enumerateAddresses rest (n + 1)
        else enumerateAddresses rest n
      else enumerateAddresses rest n

/-- The probed addresses run from `0x03` to `0x77`. -/
def probedAddresses : List UInt8 := (List.range' 0x3 0x75).map UInt8.ofNat

def enumerateI2cDevices [Libm] : Program interface ChassisManager Unit := do
  let opened : Bool ← Program.ask (I := interface) .openBus
  if opened then enumerateAddresses probedAddresses 1 else pure ()

/-- The only manager is a static object, so its bytes are zero before it is constructed. -/
def ChassisManager.blank : ChassisManager where
  chassisAddressTable := ⟨0, Vector.replicate 20 0, 0, []⟩
  mIpmbAEnable := 0
  mIpmbBEnable := 0
  mIpmbALinkId := 0
  mIpmbBLinkId := 0
  ipmbAddress := 0
  addressCount := 0
  siteType := 0
  siteNumber := 0
  maxUnavailableTime := 0
  addressType := 0
  ipAddress := []
  fanRestartTimer := none
  i2cdeviceMap := []
  deviceMap := fun _ => none

def ChassisManager.construct [Libm] : Program interface ChassisManager Unit := do
  Program.modify fun manager => { manager with
    chassisAddressTable := { manager.chassisAddressTable with
      chassisIdType := 0xC0
      chassisAddTableEntriesCount := 0x0 }
    addressCount := 1
    siteType := 0
    ipmbAddress := 0x40
    siteNumber := 0x40 - 0x40
    maxUnavailableTime := 0x0a
    addressType := 0x80
    ipAddress := manager.ipAddress ++ [0xc0, 0xa8, 0x00, 0x68, 0x02, 0x6f]
    mIpmbAEnable := 1
    mIpmbBEnable := 1 }
  enumerateI2cDevices
  exposeFruSensors

/-- The manager is built under some environment. -/
def Started [Libm] (manager : ChassisManager) : Prop :=
  ∃ environment : Environment interface,
    let run := ChassisManager.construct.run environment .blank 0
    run.outcome = .value () ∧ run.state = manager

/-- A process ends at undefined behaviour or at an exception that escapes a timer callback. -/
inductive Ending where
  | fault (reason : Fault)
  | terminated (exception : Exception)
  deriving DecidableEq, Repr

/-- The running system consists of the manager and the way it ended, if it did. -/
structure System where
  manager : ChassisManager
  ending : Option Ending

/-- The host sends commands, and two timers poll the devices. -/
inductive Operation where
  | passthrough (reqdata : List UInt8)
  | pollDeviceSensors
  | pollSdrs

/-- Only a command has an answer. -/
def Operation.program [Libm] : Operation → Program interface ChassisManager (Option RspType)
  | .passthrough reqdata => do
      let answer ← executePassthroughCmd reqdata
      pure (some answer)
  | .pollDeviceSensors => do
      Vita4611.pollDeviceSensors
      pure none
  | .pollSdrs => do
      Vita4611.pollSdrs
      pure none

/-- The host answers a command whose handler throws. A poll has nobody to catch. -/
def Operation.caught : Operation → Bool
  | .passthrough _ => true
  | .pollDeviceSensors => false
  | .pollSdrs => false

def endingOf {Value : Type} (caught : Bool) : Outcome interface Value → Option Ending
  | .value _ => none
  | .thrown exception => if caught then none else some (.terminated exception)
  | .fault reason => some (.fault reason)

/-- Each event brings the environment's answers to the calls it causes. -/
structure Event where
  operation : Operation
  environment : Environment interface

def Event.run [Libm] (event : Event) (manager : ChassisManager) :
    Run interface ChassisManager (Option RspType) :=
  event.operation.program.run event.environment manager 0

/-- A process that has ended takes no further event. -/
def System.step [Libm] (system : System) (event : Event) : Option System :=
  if system.ending.isSome then none
  else
    let run := event.run system.manager
    some ⟨run.state, endingOf event.operation.caught run.outcome⟩

end Chassis.Vita4611
