import Chassis.Construction.Manager.Passthrough
import Chassis.Effect.Keeps

namespace Chassis.Vita4611
open Effect Program

/-- These fields are fixed once a device is constructed. -/
structure Identity where
  vsocaps : Option VsoCaps
  channel : UInt8
  ipmiAddress : UInt8
  hwAddress : UInt8
  siteNumber : UInt8
  siteType : UInt8

def Vita4611Device.identity (device : Vita4611Device) : Identity :=
  ⟨device.vsocaps, device.channel, device.ipmiAddress, device.hwAddress, device.siteNumber,
    device.siteType⟩

/-- A device sends on the fixed channel 0 or on its own channel. -/
def DeviceCall (identity : Identity) (op : Op) : Prop :=
  ∀ arguments, op = .sendRequest arguments →
    arguments.reqChannel = 0 ∨ arguments.reqChannel = identity.channel

/-- An invariant that survives the reading of records. A record brings a sensor without an object
or leaves the object of a sensor alone. -/
structure DeviceRules (channels : UInt8 → Prop) (allowed : Vita4611Device → Op → Prop)
    (invariant : Vita4611Device → Prop) (admitted : Fault → Prop) : Prop where
  fixed : channels 0
  own : ∀ device, invariant device → channels device.channel
  sends : ∀ device arguments, invariant device → channels arguments.reqChannel →
    allowed device (.sendRequest arguments)
  uninitialised : ∀ device, invariant device → allowed device .indeterminate
  index : admitted .payloadIndex
  range : admitted .payloadRange
  updates : ∀ device sensorNum (update : SensorRecord → SensorRecord), invariant device →
    (∀ sensor, (update sensor).sensorIface = none ∨
      (update sensor).sensorIface = sensor.sensorIface) →
    invariant (device.updateSensor sensorNum update)
  pushes : ∀ device record, invariant device → record.sensorIface = none →
    invariant (device.pushSensor record)
  caches : ∀ device indicator, invariant device →
    invariant { device with sensorPopulationChangeIndicatorCache := indicator }

namespace DeviceRules

variable {channels : UInt8 → Prop} {allowed : Vita4611Device → Op → Prop}
  {invariant : Vita4611Device → Prop} {admitted : Fault → Prop}
  (rules : DeviceRules channels allowed invariant admitted)
include rules

theorem payloadByte {data : List UInt8} {index : Nat} :
    Keeps allowed invariant admitted (Vita4611.payloadByte data index) := by
  unfold Vita4611.payloadByte
  split
  · exact keeps_pure _
  · exact keeps_fault rules.index

theorem payloadRange {data : List UInt8} {first last : Nat} :
    Keeps allowed invariant admitted (Vita4611.payloadRange data first last) :=
  keeps_ite (fun _ => keeps_pure _) (fun _ => keeps_fault rules.range)

omit rules in
theorem optionalValue {Value : Type} {value : Option Value} :
    Keeps allowed invariant admitted (Vita4611.optionalValue value) := by
  cases value with
  | none => exact keeps_throw _
  | some value => exact keeps_pure _

theorem sendIpmbRequest {channel : UInt8} (reached : channels channel)
    {addr netfn lun cmd : UInt8} {data : List UInt8} :
    Keeps allowed invariant admitted
      (Vita4611.sendIpmbRequest channel addr netfn lun cmd data) :=
  keeps_bind (keeps_ask fun device kept => rules.sends device _ kept reached) fun _ => keeps_pure _

theorem indeterminate : Keeps allowed invariant admitted Vita4611.indeterminate :=
  keeps_ask rules.uninitialised

theorem reserveSdrRepo : Keeps allowed invariant admitted Vita4611Device.reserveSdrRepo := by
  apply keeps_read
  intro device kept
  apply keeps_bind (rules.sendIpmbRequest (rules.own device kept))
  intro _
  apply keeps_bind optionalValue
  intro response
  exact keeps_bind rules.payloadByte fun _ => keeps_bind rules.payloadByte fun _ => keeps_pure _

theorem getSdrHeader (resId : UInt8 × UInt8) (sensorNumber : UInt8) :
    Keeps allowed invariant admitted (Vita4611Device.getSdrHeader resId sensorNumber) := by
  apply keeps_read
  intro device kept
  apply keeps_bind (rules.sendIpmbRequest (rules.own device kept))
  intro _
  exact keeps_bind optionalValue fun _ => keeps_pure _

theorem getSdrSections (resId : UInt8 × UInt8) (sensorNumber : UInt8) (length fuel : Nat)
    (section' total sectionTotal : UInt8) (responseCumulative : List UInt8) :
    Keeps allowed invariant admitted
      (Vita4611Device.getSdrSections resId sensorNumber length fuel section' total sectionTotal
        responseCumulative) := by
  induction fuel generalizing section' total sectionTotal responseCumulative with
  | zero => exact keeps_pure _
  | succ fuel ih =>
      apply keeps_read
      intro device kept
      apply keeps_bind (rules.sendIpmbRequest (rules.own device kept))
      intro _
      apply keeps_bind optionalValue
      intro response
      exact keeps_ite (fun _ => ih _ _ _ _) (fun _ => keeps_pure _)

theorem handleFullSdr [Libm] (sdrheader sdrvals : List UInt8) :
    Keeps allowed invariant admitted (Vita4611Device.handleFullSdr sdrheader sdrvals) := by
  apply keeps_bind rules.payloadByte
  intro _
  apply keeps_bind rules.payloadRange
  intro _
  apply keeps_bind rules.indeterminate
  intro _
  apply keeps_modify
  intro device kept
  dsimp only
  split
  · exact rules.updates device _ _ kept fun _ => .inl rfl
  · exact rules.pushes device _ kept rfl

theorem handleCompactSdr (sdrheader sdrvals : List UInt8) :
    Keeps allowed invariant admitted (Vita4611Device.handleCompactSdr sdrheader sdrvals) := by
  apply keeps_bind rules.payloadByte
  intro _
  apply keeps_bind rules.payloadRange
  intro _
  apply keeps_bind rules.indeterminate
  intro _
  apply keeps_modify
  intro device kept
  dsimp only
  split
  · exact rules.updates device _ _ kept fun _ => .inr rfl
  · exact rules.pushes device _ kept rfl

theorem readSdr [Libm] (resId : UInt8 × UInt8) (index : UInt8) :
    Keeps allowed invariant admitted (Vita4611Device.readSdr resId index) := by
  apply keeps_bind (rules.getSdrHeader resId index)
  intro sdrheader
  apply keeps_ite (fun _ => keeps_pure _)
  intro _
  apply keeps_bind (rules.getSdrSections _ _ _ _ _ _ _ _)
  intro sdrvals
  apply keeps_tryCatch
  · apply keeps_ite (fun _ => rules.handleFullSdr _ _)
    intro _
    exact keeps_ite (fun _ => rules.handleCompactSdr _ _) fun _ => keeps_pure _
  · exact fun _ => keeps_pure _

theorem readSdrs [Libm] (resId : UInt8 × UInt8) (indices : List UInt8) (retryCount : Int) :
    Keeps allowed invariant admitted (Vita4611Device.readSdrs resId indices retryCount) := by
  induction indices generalizing retryCount with
  | nil => exact keeps_pure _
  | cons index rest ih =>
      apply keeps_bind (keeps_tryCatch (keeps_bind (rules.readSdr resId index) fun _ =>
        keeps_pure _) fun _ => keeps_pure _)
      intro failed
      apply keeps_ite
      · intro _
        exact keeps_ite (fun _ => keeps_pure _) fun _ => ih (retryCount + 1)
      · exact fun _ => ih retryCount

theorem getAllSdrs [Libm] : Keeps allowed invariant admitted Vita4611Device.getAllSdrs :=
  keeps_bind rules.reserveSdrRepo fun _ => keeps_bind rules.indeterminate fun _ =>
    keeps_read fun _ _ => rules.readSdrs _ _ _

theorem checkSdrInfo [Libm] : Keeps allowed invariant admitted Vita4611Device.checkSdrInfo := by
  apply keeps_read
  intro device _
  apply keeps_bind (rules.sendIpmbRequest rules.fixed)
  intro sdrInfo
  rcases sdrInfo with ⟨_ | info, _⟩
  · exact keeps_pure _
  · apply keeps_bind rules.payloadRange
    intro indicator
    apply keeps_bind
    · exact keeps_read fun _ _ => keeps_ite (fun _ => rules.getAllSdrs) fun _ => keeps_pure _
    · intro _
      exact keeps_modify fun device kept => rules.caches device indicator kept

end DeviceRules

/-- A steady program keeps the identity of its device and cannot meet a null device. -/
def Steady {Value : Type} (identity : Identity) (program : Program interface Vita4611Device Value) :
    Prop :=
  Keeps (fun device op => device.identity = identity ∧ DeviceCall identity op)
    (fun device => device.identity = identity) (fun reason : Fault => reason ≠ .nullDevice) program

namespace Steady

variable {identity : Identity}

theorem rules : DeviceRules (fun channel => channel = 0 ∨ channel = identity.channel)
    (fun device op => device.identity = identity ∧ DeviceCall identity op)
    (fun device => device.identity = identity) (fun reason => reason ≠ .nullDevice) where
  fixed := .inl rfl
  own _ kept := .inr (congrArg Identity.channel kept)
  sends device arguments kept reached := by
    refine ⟨kept, ?_⟩
    rintro _ ⟨⟩
    exact reached
  uninitialised _ kept := ⟨kept, nofun⟩
  index := nofun
  range := nofun
  updates _ _ _ kept _ := kept
  pushes _ _ kept _ := kept
  caches _ _ kept := kept

theorem payloadByte {data : List UInt8} {index : Nat} :
    Steady identity (Vita4611.payloadByte data index) := rules.payloadByte

theorem payloadRange {data : List UInt8} {first last : Nat} :
    Steady identity (Vita4611.payloadRange data first last) := rules.payloadRange

theorem sendIpmbRequest {channel : UInt8} (own : channel = 0 ∨ channel = identity.channel)
    {addr netfn lun cmd : UInt8} {data : List UInt8} :
    Steady identity (Vita4611.sendIpmbRequest channel addr netfn lun cmd data) :=
  rules.sendIpmbRequest own

theorem indeterminate : Steady identity Vita4611.indeterminate := rules.indeterminate

theorem dbusCall {op : Op} {answer : op.Answer → Bool} (permitted : DeviceCall identity op) :
    Steady identity (Vita4611.dbusCall op answer) := by
  apply keeps_bind (keeps_ask fun _ kept => ⟨kept, permitted⟩)
  intro result
  cases answer result with
  | true => exact keeps_pure _
  | false => exact keeps_throw _

theorem modify {update : Vita4611Device → Vita4611Device}
    (same : ∀ device, (update device).identity = device.identity) :
    Steady identity (Program.modify update) :=
  keeps_modify fun device kept => (same device).trans kept

theorem own {device : Vita4611Device} (kept : device.identity = identity) :
    device.channel = 0 ∨ device.channel = identity.channel :=
  .inr (congrArg Identity.channel kept)

end Steady

namespace Vita4611Device

variable {identity : Identity}

@[simp] theorem setSensors_identity (device : Vita4611Device) (sensors : List SensorRecord) :
    (device.setSensors sensors).identity = device.identity := rfl

theorem queryDeviceId_steady (addr : UInt8) : Steady identity (queryDeviceId addr) := by
  apply keeps_bind (Steady.sendIpmbRequest (.inl rfl))
  intro response
  rcases response with ⟨_ | response, _⟩
  · exact Steady.modify fun _ => rfl
  · exact Steady.modify fun _ => rfl

theorem rawReadingOf_steady (response : Option Ipmb.SendRequestReply) :
    Steady identity (rawReadingOf response) := by
  cases response with
  | none => exact keeps_pure _
  | some response => exact Steady.payloadByte

theorem getSensorReading_steady [Libm] (index : Nat) {channel : UInt8}
    (own : channel = 0 ∨ channel = identity.channel) :
    Steady identity (getSensorReading index channel) := by
  apply keeps_read
  intro device kept
  rcases device.fruinfo.sensors[index]? with _ | sensor
  · exact keeps_pure _
  · apply keeps_bind (Steady.sendIpmbRequest own)
    intro response
    exact keeps_bind (rawReadingOf_steady _) fun _ => Steady.modify fun _ => rfl

theorem getAllSensorReadings_steady [Libm] : Steady identity getAllSensorReadings :=
  keeps_read fun _ _ => keeps_forEach fun index => getSensorReading_steady index (.inl rfl)

theorem getAllSdrs_steady [Libm] : Steady identity getAllSdrs := Steady.rules.getAllSdrs

theorem checkSdrInfo_steady [Libm] : Steady identity checkSdrInfo := Steady.rules.checkSdrInfo

theorem addMandatorySensor_steady (junk : SensorRecord) (payload : List UInt8)
    (role : Nat × Vita4611FruSensorType) :
    Steady identity (addMandatorySensor junk payload role) :=
  keeps_bind Steady.payloadByte fun _ => Steady.modify fun _ => rfl

theorem addMandatorySensors_steady (fru : UInt8) (response : Option Ipmb.SendRequestReply) :
    Steady identity (addMandatorySensors fru response) := by
  cases response with
  | none => exact keeps_pure _
  | some response =>
      apply keeps_bind Steady.payloadByte
      intro identifier
      apply keeps_ite (fun _ => keeps_pure _)
      intro _
      apply keeps_bind Steady.indeterminate
      intro junk
      refine keeps_bind (Steady.modify fun _ => rfl) fun _ => ?_
      exact keeps_bind (keeps_forEach fun role => addMandatorySensor_steady _ _ _) fun _ =>
        keeps_pure _

theorem updateFromInfo_steady (info : Option Ipmb.SendRequestReply)
    {update : UInt8 → Vita4611Device → Vita4611Device}
    (same : ∀ byte device, (update byte device).identity = device.identity) :
    Steady identity (updateFromInfo info update) := by
  cases info with
  | none => exact keeps_pure _
  | some info => exact keeps_bind Steady.payloadByte fun byte => Steady.modify (same byte)

theorem enumerateFruSensors_steady [Libm] (fru addr : UInt8) :
    Steady identity (enumerateFruSensors fru addr) := by
  apply keeps_bind (Steady.sendIpmbRequest (.inl rfl))
  intro response
  apply keeps_bind (Steady.sendIpmbRequest (.inl rfl))
  intro sdrInfo
  apply keeps_bind (Steady.sendIpmbRequest (.inl rfl))
  intro sdrRepoInfo
  apply keeps_bind (addMandatorySensors_steady _ _)
  intro own
  refine keeps_ite (fun _ => ?_) fun _ => keeps_pure _
  exact keeps_bind (updateFromInfo_steady _ fun _ _ => rfl) fun _ =>
    keeps_bind (updateFromInfo_steady _ fun _ _ => rfl) fun _ => getAllSdrs_steady

theorem discoverFrus_steady [Libm] : Steady identity discoverFrus := by
  apply keeps_read
  intro device _
  rcases device.vsocaps with _ | vsocaps
  · exact keeps_fault nofun
  · apply keeps_ite (fun _ => enumerateFruSensors_steady _ _)
    intro _
    exact keeps_forEach fun fru => enumerateFruSensors_steady _ _

theorem ofBytes_steady (data : List UInt8) : Steady identity (VsoCaps.ofBytes data) :=
  keeps_bind Steady.payloadRange fun _ => keeps_pure _

/-- Only the capabilities may have changed. -/
def Renewed (identity : Identity) (device : Vita4611Device) : Prop :=
  ∃ vsocaps, device.identity = { identity with vsocaps := vsocaps }

/-- A renewing program keeps everything but the capabilities of its device. -/
def Renews {Value : Type} (identity : Identity) (program : Program interface Vita4611Device Value) :
    Prop :=
  Keeps (fun _ op => DeviceCall identity op) (Renewed identity)
    (fun reason : Fault => reason ≠ .nullDevice) program

theorem Renews.of_steady {Value : Type} {program : Program interface Vita4611Device Value}
    (steady : ∀ identity, Steady identity program) : Renews identity program := by
  rintro device ⟨vsocaps, kept⟩
  exact pre_mono (steady _ device kept) (fun _ _ held => held.2) (fun _ _ held => ⟨vsocaps, held⟩)
    (fun _ _ held => ⟨vsocaps, held⟩) (fun _ _ held => ⟨⟨vsocaps, held.1⟩, held.2⟩)

theorem Renews.modify {update : Vita4611Device → Vita4611Device}
    (same : ∀ device, ∃ vsocaps,
      (update device).identity = { device.identity with vsocaps := vsocaps }) :
    Renews identity (Program.modify update) := by
  apply keeps_modify
  rintro device ⟨_, kept⟩
  obtain ⟨vsocaps, updated⟩ := same device
  exact ⟨vsocaps, by rw [updated, kept]⟩

theorem queryVsoCapabilities_renews : Renews identity queryVsoCapabilities := by
  apply keeps_read
  intro device kept
  have channel : device.channel = identity.channel := by
    obtain ⟨_, kept⟩ := kept
    exact congrArg Identity.channel kept
  have sent : Renews identity (sendIpmbRequest device.channel 0x40 netfnVita4611 0
      vita4611GetVsoCapsCmd [0x03]) := by
    refine keeps_bind (keeps_ask fun _ _ => ?_) fun _ => keeps_pure _
    rintro _ ⟨⟩
    exact .inr channel
  apply keeps_bind sent
  intro response
  rcases response with ⟨_ | response, _⟩
  · exact Renews.modify fun device => ⟨device.vsocaps, rfl⟩
  · refine keeps_bind (Renews.modify fun device => ⟨device.vsocaps, rfl⟩) fun _ => ?_
    exact keeps_bind (Renews.of_steady fun _ => ofBytes_steady _) fun vsocaps =>
      Renews.modify fun _ => ⟨some vsocaps, rfl⟩

theorem query_renews [Libm] (ipmiAddress : UInt8) : Renews identity (query ipmiAddress) := by
  refine keeps_bind (Renews.of_steady fun _ => queryDeviceId_steady _) fun _ =>
    keeps_read fun device _ => ?_
  refine keeps_ite (fun _ => ?_) fun _ => keeps_pure _
  apply keeps_bind queryVsoCapabilities_renews
  intro _
  apply keeps_read
  intro device _
  exact keeps_ite (fun _ => Renews.of_steady fun _ => discoverFrus_steady) fun _ => keeps_pure _

/-- The identity follows from the two arguments of the constructor and the capabilities. -/
def constructed (channel ipmiAddress : UInt8) (vsocaps : Option VsoCaps) : Identity :=
  ⟨vsocaps, channel, ipmiAddress, ipmiAddress >>> 1, (ipmiAddress >>> 1) - 0x40, 0x00⟩

/-- The constructor fixes the addresses before it sends anything. -/
theorem pre_construct [Libm] (channel ipmiAddress : UInt8) (device : Vita4611Device) :
    (construct channel ipmiAddress).pre
      (fun _ op => DeviceCall (constructed channel ipmiAddress none) op)
      ⟨fun _ device => Renewed (constructed channel ipmiAddress none) device, fun _ _ => True,
        fun _ _ => True⟩ device := by
  rw [construct, pre_bind, pre_modify]
  exact pre_mono (query_renews _ _ ⟨device.vsocaps, rfl⟩) (fun _ _ held => held)
    (fun _ _ held => held) (fun _ _ _ => trivial) (fun _ _ _ => trivial)

theorem exposeSensor_steady (num : UInt8) (index : Nat) : Steady identity (exposeSensor num index) := by
  apply keeps_read
  intro device _
  rcases device.fruinfo.sensors[index]? with _ | sensor
  · exact keeps_pure _
  · dsimp only
    rcases sensorGroup sensor.sdrUnits with _ | ⟨group, unit⟩
    · exact keeps_pure _
    · exact keeps_tryCatch (keeps_bind (Steady.dbusCall fun _ => nofun) fun _ =>
        Steady.modify fun _ => rfl) fun _ => keeps_pure _

end Vita4611Device

end Chassis.Vita4611
