import Chassis.Construction.Manager.Device
import Mathlib.Logic.Function.Basic

namespace Chassis.Vita4611
open Effect

structure I2cDeviceInfo where
  i2cbus : Int
  devicei2caddress : UInt8
  channel : Int
  shmci2caddress : UInt8
  deriving DecidableEq, Repr

/-- A restart timer knows its period and whether its wait is still pending. -/
structure SteadyTimer where
  seconds : Nat
  waiting : Bool
  deriving DecidableEq, Repr

/-- A key of the device map is absent, holds a null pointer, or owns a device. Only one bus is
enumerated, so the map of discovered addresses is one list. -/
structure ChassisManager where
  chassisAddressTable : Cat
  mIpmbAEnable : UInt8
  mIpmbBEnable : UInt8
  mIpmbALinkId : UInt8
  mIpmbBLinkId : UInt8
  ipmbAddress : UInt8
  addressCount : UInt8
  siteType : UInt8
  siteNumber : UInt8
  maxUnavailableTime : UInt8
  addressType : UInt8
  ipAddress : List UInt8
  fanRestartTimer : Option SteadyTimer
  i2cdeviceMap : List I2cDeviceInfo
  deviceMap : UInt8 → Option (Option Vita4611Device)
  deriving Inhabited

/-- The keys of a map are visited in ascending order. -/
def allKeys : List UInt8 := (List.range 256).map UInt8.ofNat

/-- Reading a request outside its bounds is undefined. -/
def reqByte {State : Type} (reqdata : List UInt8) (index : Nat) :
    Program interface State UInt8 :=
  match reqdata[index]? with
  | some byte => pure byte
  | none => .fault .reqdataIndex

/-- The range to the end of a request must start inside it. -/
def reqRange {State : Type} (reqdata : List UInt8) (first : Nat) :
    Program interface State (List UInt8) :=
  if first ≤ reqdata.length then pure (reqdata.drop first) else .fault .reqdataRange

namespace ChassisManager

def findDevice (manager : ChassisManager) (accept : Vita4611Device → Bool) :
    Option Vita4611Device :=
  allKeys.findSome? fun key =>
    match manager.deviceMap key with
    | some (some device) => if accept device then some device else none
    | _ => none

def findDeviceByAddress (manager : ChassisManager) (addr : UInt8) : Option Vita4611Device :=
  manager.findDevice fun device => device.ipmiAddress == addr

def findDeviceByPhysAddress (manager : ChassisManager) (physAddr : UInt8) : Option Vita4611Device :=
  manager.findDevice fun device => device.siteNumber == physAddr

def findDeviceByHwAddress (manager : ChassisManager) (hwAddr : UInt8) : Option Vita4611Device :=
  manager.findDevice fun device => device.hwAddress == hwAddr

/-- The map has no key at all. -/
def deviceMapEmpty (manager : ChassisManager) : Bool :=
  allKeys.all fun key => (manager.deviceMap key).isNone

def setDevice (manager : ChassisManager) (key : UInt8) (device : Option Vita4611Device) :
    ChassisManager :=
  { manager with deviceMap := Function.update manager.deviceMap key (some device) }

end ChassisManager

/-- The subscript operator inserts a null pointer under an absent key. -/
def deviceMapAt (key : UInt8) : Program interface ChassisManager (Option Vita4611Device) := do
  let manager ← Program.read
  match manager.deviceMap key with
  | some device => pure device
  | none =>
      Program.modify fun manager => manager.setDevice key none
      pure none

/-- A member access through a null pointer is undefined. -/
def derefDevice {State : Type} : Option Vita4611Device → Program interface State Vita4611Device
  | some device => pure device
  | none => .fault .nullDevice

def getShmcVsoCaps : List UInt8 :=
  [((1 : UInt8) <<< 4) ||| 2, 1, 0, 0, 1, 0]

/-- The six address bytes of a device. -/
def addressInfo (device : Vita4611Device) : List UInt8 :=
  [device.hwAddress, device.ipmiAddress, 0xFF, device.deviceId, device.siteNumber, device.siteType]

/-- The lookup by a key type other than 0 and 1 leaves the pointer unassigned. -/
def lookupByKey (addrKeyType addrKey : UInt8) :
    Program interface ChassisManager (Option (Option Vita4611Device)) := do
  let manager ← Program.read
  if addrKeyType = 0x00 then pure (some (manager.findDeviceByHwAddress addrKey))
  else if addrKeyType = 0x01 then pure (some (manager.findDeviceByAddress addrKey))
  else pure none

def derefAssigned : Option (Option Vita4611Device) →
    Program interface ChassisManager Vita4611Device
  | some device => derefDevice device
  | none => .fault .unassignedDevice

def getAddTable (reqdata : List UInt8) : Program interface ChassisManager (List UInt8) := do
  if reqdata.length < 8 then pure []
  else
    let fruDevId ← reqByte reqdata 4
    let addrKeyType ← reqByte reqdata 5
    let addrKey ← reqByte reqdata 6
    let siteType ← reqByte reqdata 7
    let manager ← Program.read
    if addrKeyType > 0x03 ∨ addrKeyType = 0x02 ∨ manager.chassisAddressTable.entries = [] then
      pure []
    else if addrKeyType = 0x03 ∧ siteType = 0 then
      let device ← derefDevice (manager.findDeviceByPhysAddress addrKey)
      pure (0x03 :: addressInfo device)
    else
      let found ← lookupByKey addrKeyType addrKey
      if fruDevId > 0 then
        let device ← derefAssigned found
        let (response, _) ← sendIpmbRequest 0 device.ipmiAddress netfnVita4611 0
          vita4611GetFruAddressInfoCmd [0x03, fruDevId]
        match response with
        | some response =>
            -- The highest index read of the answer is 6.
            let _ ← payloadByte response.data 6
            pure (0x03 :: (response.data.drop 1).take 6)
        | none =>
            let device ← derefAssigned found
            pure (0x03 :: addressInfo device)
      else
        let device ← derefAssigned found
        pure (0x03 :: addressInfo device)

def getChassisManagerIpAddresses (addrNum : UInt8) :
    Program interface ChassisManager (List UInt8) := do
  let manager ← Program.read
  if addrNum > 0 then pure []
  else
    pure (0x03 :: [manager.addressCount, manager.siteType, manager.siteNumber,
      manager.maxUnavailableTime, manager.addressType] ++ manager.ipAddress)

def getChassisIdentifier : Program interface ChassisManager (List UInt8) := do
  let manager ← Program.read
  pure (0x03 :: manager.chassisAddressTable.chassisIdType ::
    manager.chassisAddressTable.chassisIdField.toList)

/-- The new bytes replace a front part of the stored field. -/
def writeFront (field : Vector UInt8 20) (bytes : List UInt8) : Vector UInt8 20 :=
  Vector.ofFn fun index => bytes.getD index.val (field.get index)

def setChassisIdentifier (reqdata : List UInt8) :
    Program interface ChassisManager (List UInt8) := do
  let chIdentifier ← reqByte reqdata 4
  let chIdField ← reqRange reqdata 5
  if chIdField.length > 20 then pure []
  else
    Program.modify fun manager => { manager with
      chassisAddressTable := { manager.chassisAddressTable with
        chassisIdType := chIdentifier
        chassisIdField := writeFront manager.chassisAddressTable.chassisIdField chIdField } }
    pure [0x03]

/-- Both reset commands go to the fixed address `0x8a` when the pointer is not null. -/
def sendReset (device : Option Vita4611Device) (cmd : UInt8) :
    Program interface ChassisManager Unit := do
  match device with
  | some _ =>
      let _ ← sendIpmbRequest 0 0x8a 0x06 0x00 cmd [0x03]
      pure ()
  | none => pure ()

/-- The length check admits a request without the control byte that the handler reads. -/
def fruControl (reqdata : List UInt8) : Program interface ChassisManager (List UInt8) := do
  if reqdata.length < 5 then pure []
  else
    let fruDevId ← reqByte reqdata 4
    let fruControlByte ← reqByte reqdata 5
    let device ← deviceMapAt fruDevId
    if fruControlByte = 0x00 then
      sendReset device 0x02
      pure [0x03]
    else if fruControlByte = 0x01 then
      sendReset device 0x03
      pure [0x03]
    else if fruControlByte = 0x02 ∨ fruControlByte = 0x03 then pure [0x03]
    else pure []

/-- A link byte `0xFF` keeps the link. Any other byte carries the flag and the identifier. -/
def applyIpmbState (manager : ChassisManager) (ipmbAState ipmbBState : UInt8) : ChassisManager :=
  let linkA := if ipmbAState = 0xFF then manager else { manager with
    mIpmbAEnable := if ipmbAState % 2 = 0 then 0 else 1
    mIpmbALinkId := ipmbAState >>> 1 }
  if ipmbBState = 0xFF then linkA else { linkA with
    mIpmbBEnable := if ipmbBState % 2 = 0 then 0 else 1
    mIpmbBLinkId := ipmbBState >>> 1 }

def setIpmbState (reqdata : List UInt8) : Program interface ChassisManager (List UInt8) := do
  if reqdata.length < 6 then pure []
  else
    let ipmbAState ← reqByte reqdata 4
    let ipmbBState ← reqByte reqdata 5
    Program.modify fun manager => applyIpmbState manager ipmbAState ipmbBState
    pure [0x03]

def setFruStatePolicyBits (reqdata : List UInt8) :
    Program interface ChassisManager (List UInt8) := do
  if reqdata.length < 7 then pure []
  else
    let fruDevId ← reqByte reqdata 4
    let fruMaskBits ← reqByte reqdata 5
    let fruPolicyBits ← reqByte reqdata 6
    let manager ← Program.read
    if manager.deviceMapEmpty then pure []
    else
      let device ← deviceMapAt fruDevId
      let device ← derefDevice device
      Program.modify fun manager => manager.setDevice fruDevId
        (some { device with fruActivationPolicy := fruMaskBits &&& fruPolicyBits })
      pure [0x03]

def getFruStatePolicyBits (devId : UInt8) : Program interface ChassisManager (List UInt8) := do
  let manager ← Program.read
  if manager.deviceMapEmpty then pure []
  else
    let device ← deviceMapAt devId
    let device ← derefDevice device
    pure [0x03, device.fruActivationPolicy]

/-- Only the directives 0 and 1 reach the device. -/
def setFruActivation (reqdata : List UInt8) : Program interface ChassisManager (List UInt8) := do
  if reqdata.length < 6 then pure []
  else
    let devId ← reqByte reqdata 4
    let fruDirective ← reqByte reqdata 5
    let manager ← Program.read
    if manager.deviceMapEmpty then pure []
    else
      let device ← deviceMapAt devId
      if fruDirective = 0 ∨ fruDirective = 1 then
        let device ← derefDevice device
        Program.modify fun manager => manager.setDevice devId
          (some { device with fruActivationFlag := fruDirective })
        pure [0x03]
      else pure []

def getDeviceLocatorRecordId (reqdata : List UInt8) :
    Program interface ChassisManager (List UInt8) := do
  if reqdata.length < 5 then pure []
  else
    let devId ← reqByte reqdata 4
    let manager ← Program.read
    if manager.deviceMapEmpty then pure []
    else
      let device ← deviceMapAt devId
      let _ ← derefDevice device
      pure [0x03]

def getChassisManagerIpmbAddress : List UInt8 := [0x03, 0x20, 0x0]

def getFanSpeedProperties (reqdata : List UInt8) : List UInt8 :=
  if reqdata.length < 5 then [] else [0x03, 0, 0xfd, 0x64, 0x80]

def isServiceActive {State : Type} : Program interface State Bool := do
  let state : Option String ← Program.ask (I := interface) .unitActiveState
  pure (state == some "active")

def getFanLevel (reqdata : List UInt8) : Program interface ChassisManager (List UInt8) := do
  if reqdata.length < 5 then pure []
  else
    let target : Option UInt64 ← Program.ask (I := interface) .getFanPwm
    let fanpwm := target.getD 0
    let active ← isServiceActive
    pure [0x03, 0xff, fanpwm.toUInt8, if active then 1 else 0]

/-- A failed D-Bus call throws. -/
def dbusCall {State : Type} (op : Op) (answer : op.Answer → Bool) :
    Program interface State Unit := do
  let result ← Program.ask (I := interface) op
  if answer result then pure () else .throw .dbusError

def stopUnit {State : Type} : Program interface State Unit := dbusCall .stopUnit id

def startUnit {State : Type} : Program interface State Unit := dbusCall .startUnit id

def setFanPwm {State : Type} (target : UInt64) : Program interface State Unit :=
  dbusCall (.setFanPwm target) id

def setFanLevel (reqdata : List UInt8) : Program interface ChassisManager (List UInt8) := do
  if reqdata.length < 7 then pure []
  else
    let fanLevel ← reqByte reqdata 5
    let localControlEnableState ← reqByte reqdata 6
    if localControlEnableState = 0 then
      Program.tryCatch (do stopUnit; setFanPwm fanLevel.toUInt64) (fun _ => pure ())
    else Program.tryCatch startUnit (fun _ => pure ())
    pure [0x03]

/-- The command cancels a pending timer before it attempts anything else. -/
def cancelFanRestartTimer : Program interface ChassisManager Unit :=
  Program.modify fun manager => { manager with fanRestartTimer := none }

def armFanRestartTimer (fanPolicyTimeout : UInt8) : Program interface ChassisManager Unit :=
  Program.modify fun manager => { manager with
    fanRestartTimer := some ⟨fanPolicyTimeout.toNat * 5, true⟩ }

/-- A zero timeout neither stops the controller nor arms the timer. -/
def stopFans (fanPolicyTimeout : UInt8) : Program interface ChassisManager Unit := do
  if fanPolicyTimeout ≠ 0 then stopUnit else pure ()
  if fanPolicyTimeout > 0 ∧ fanPolicyTimeout ≠ 0xFF then armFanRestartTimer fanPolicyTimeout
  else pure ()

def setFanPolicy (reqdata : List UInt8) : Program interface ChassisManager (List UInt8) := do
  if reqdata.length < 9 then pure []
  else
    let traySiteNum ← reqByte reqdata 4
    let fanEnableState ← reqByte reqdata 5
    let fanPolicyTimeout ← reqByte reqdata 6
    if traySiteNum ≠ 0 then pure []
    else if fanPolicyTimeout > 240 then pure []
    else
      cancelFanRestartTimer
      if fanEnableState = 0 then
        Program.tryCatch (stopFans fanPolicyTimeout) (fun _ => pure ())
      else Program.tryCatch startUnit (fun _ => pure ())
      pure [0x03]

/-- The callback of an expired timer starts the controller once. -/
def fanRestartCallback : Program interface ChassisManager Unit :=
  Program.tryCatch startUnit (fun _ => pure ())

/-- The coverage byte stays unassigned when both site bytes are `0xFF`. -/
def getFanPolicy (reqdata : List UInt8) : Program interface ChassisManager (List UInt8) := do
  if reqdata.length < 7 then pure []
  else
    let traySiteNumber ← reqByte reqdata 4
    let siteNumber ← reqByte reqdata 5
    let siteType ← reqByte reqdata 6
    let active ← if traySiteNumber ≠ 0xFF then isServiceActive else pure false
    let junk ← indeterminate
    let coverage := if siteNumber ≠ 0xFF ∨ siteType ≠ 0xFF then 1 else junk.byte
    pure [0x03, if active then 1 else 0, coverage]

def getChmFruInfo : List UInt8 := [0x03, 0x20, 0x40, 0xFF, 0x00, 0x00, 0x00, 0xFF, 0xFF]

/-- A site type other than 0 is answered with the bare identifier. -/
def getFruAddressInfo (reqdata : List UInt8) : Program interface ChassisManager (List UInt8) := do
  if reqdata.length < 4 ∨ (reqdata.length > 4 ∧ reqdata.length < 8) ∨ reqdata.length > 8 then
    pure []
  else if reqdata.length = 4 then pure getChmFruInfo
  else
    let fruDevId ← reqByte reqdata 4
    let addrKeyType ← reqByte reqdata 5
    let addrKey ← reqByte reqdata 6
    let siteType ← reqByte reqdata 7
    if fruDevId ≠ 0 then pure []
    else if addrKeyType ≠ 0x03 then pure []
    else if siteType = 0 then
      let manager ← Program.read
      let device ← derefDevice (manager.findDeviceByPhysAddress addrKey)
      pure (0x03 :: addressInfo device ++ [0xFF, 0xFF])
    else pure [0x03]

/-- Two cases of the dispatcher pass byte 4 on when the request has it. -/
def withArgument (reqdata : List UInt8)
    (handler : UInt8 → Program interface ChassisManager (List UInt8)) :
    Program interface ChassisManager (List UInt8) := do
  if reqdata.length > 4 then
    let argument ← reqByte reqdata 4
    handler argument
  else pure []

/-- The switch of the dispatcher tries the command codes in the order of its cases. -/
def chmHandler (reqdata : List UInt8) (cmd : UInt8) :
    Program interface ChassisManager (List UInt8) :=
  if cmd = vita4611GetVsoCapsCmd then pure getShmcVsoCaps
  else if cmd = vita4611GetChassisAddressTableInfoCmd then getAddTable reqdata
  else if cmd = vita4611ChassisManagerIpAddressesCmd then
    withArgument reqdata getChassisManagerIpAddresses
  else if cmd = vita4611GetChassisIdCmd then getChassisIdentifier
  else if cmd = vita4611SetChassisIdCmd then setChassisIdentifier reqdata
  else if cmd = vita4611FruControl then fruControl reqdata
  else if cmd = vita4611SetIpmbStateCmd then setIpmbState reqdata
  else if cmd = vita4611SetFruStatePolicyBitsCmd then setFruStatePolicyBits reqdata
  else if cmd = vita4611GetFruStatePolicyBitsCmd then withArgument reqdata getFruStatePolicyBits
  else if cmd = vita4611SetFruActivationCmd then setFruActivation reqdata
  else if cmd = vita4611GetDeviceLocatorRecordIdCmd then getDeviceLocatorRecordId reqdata
  else if cmd = vita4611GetFanSpeedPropertiesCmd then pure (getFanSpeedProperties reqdata)
  else if cmd = vita4611SetFanLevelCmd then setFanLevel reqdata
  else if cmd = vita4611GetFanLevelCmd then getFanLevel reqdata
  else if cmd = vita4611SetFanPolicyCmd then setFanPolicy reqdata
  else if cmd = vita4611GetFanPolicyCmd then getFanPolicy reqdata
  else if cmd = vita4611GetChassisManagerIpmbAddressCmd then pure getChassisManagerIpmbAddress
  else if cmd = vita4611GetFruAddressInfoCmd then getFruAddressInfo reqdata
  else if cmd = vita4611GetMandatorySensorNumbersCmd then getDeviceLocatorRecordId reqdata
  else pure []

def handleChmCommand (reqdata : List UInt8) : Program interface ChassisManager (List UInt8) := do
  let netFn ← reqByte reqdata 1
  let cmd ← reqByte reqdata 3
  if netFn ≠ netfnVita4611 then pure []
  else chmHandler reqdata cmd

end Chassis.Vita4611
