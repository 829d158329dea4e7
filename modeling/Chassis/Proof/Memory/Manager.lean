import Chassis.Proof.Manager.Enumeration
import Chassis.Proof.Memory.Start

namespace Chassis.Vita4611
open Effect Program

/-- The commands have stored the policies of some devices. -/
structure Stored where
  policies : UInt8 → Bool

def Stored.nothing : Stored := ⟨fun _ => false⟩

/-- Two devices under one key are alike in all that the device with this address has told. -/
abbrev OwnedAlike (policed : Bool) (told : UInt8 → Told) (first second : Vita4611Device) : Prop :=
  DeviceAlike true policed (told first.ipmiAddress) first.ipmiAddress first second

/-- Two managers differ at most in fields that nothing has set. -/
structure ManagerAlike (stored : Stored) (told : UInt8 → Told) (first second : ChassisManager) :
    Prop where
  idType : first.chassisAddressTable.chassisIdType = second.chassisAddressTable.chassisIdType
  identifier :
    first.chassisAddressTable.chassisIdField = second.chassisAddressTable.chassisIdField
  entries : first.chassisAddressTable.entries = second.chassisAddressTable.entries
  linkA : first.mIpmbAEnable = second.mIpmbAEnable
  linkB : first.mIpmbBEnable = second.mIpmbBEnable
  addressCount : first.addressCount = second.addressCount
  siteType : first.siteType = second.siteType
  siteNumber : first.siteNumber = second.siteNumber
  maxUnavailableTime : first.maxUnavailableTime = second.maxUnavailableTime
  addressType : first.addressType = second.addressType
  ipAddress : first.ipAddress = second.ipAddress
  i2cdeviceMap : first.i2cdeviceMap = second.i2cdeviceMap
  devices : ∀ key, Option.Rel (Option.Rel (OwnedAlike (stored.policies key) told))
    (first.deviceMap key) (second.deviceMap key)

namespace ManagerAlike

variable {stored : Stored} {told : UInt8 → Told} {first second : ChassisManager}

/-- Related devices are stored under one key. -/
theorem setDevice (alike : ManagerAlike stored told first second) (key : UInt8)
    {device device' : Option Vita4611Device}
    (pair : Option.Rel (OwnedAlike (stored.policies key) told) device device') :
    ManagerAlike stored told (first.setDevice key device) (second.setDevice key device') :=
  { alike with
    devices := by
      intro other
      by_cases same : other = key
      · subst same
        simpa [ChassisManager.setDevice] using Option.Rel.some pair
      · simpa [ChassisManager.setDevice, same] using alike.devices other }

end ManagerAlike

section Devices

variable {known : Known} {stored : Stored} {first second : ChassisManager} {key : UInt8}
  {program program' : Program interface Vita4611Device Unit}

/-- Programs on two devices under one key leave all other keys alone. -/
theorem onDevice_twin (alike : ManagerAlike stored known.told first second)
    (each : ∀ device device', first.deviceMap key = some (some device) →
      OwnedAlike (stored.policies key) known.told device device' →
        twin memoryWatch program program' ⟨fun now value value' after after' => value = value' ∧
          now = known ∧ DeviceAlike true (stored.policies key) (known.told device.ipmiAddress)
            device.ipmiAddress after after', lost⟩ known device device') :
    twin memoryWatch (onDevice program key) (onDevice program' key)
      ⟨fun now value value' after after' => value = value' ∧ now = known ∧
        ManagerAlike stored known.told after after' ∧
          ∀ other ≠ key, after.deviceMap other = first.deviceMap other, lost⟩ known first second := by
  apply twin_read
  have pair := alike.devices key
  generalize present : first.deviceMap key = slot at pair ⊢
  generalize present' : second.deviceMap key = slot' at pair ⊢
  cases pair with
  | none => exact twin_pure ⟨rfl, rfl, alike, fun _ _ => rfl⟩
  | some owned =>
      cases owned with
      | none => exact twin_fault _
      | @some device device' owned =>
          dsimp only
          conv =>
            arg 6
            rw [← ChassisManager.setDevice_self present]
          conv =>
            arg 7
            rw [← ChassisManager.setDevice_self present']
          apply twin_focus fun _ _ _ => ChassisManager.setDevice_setDevice _ _
          refine twin_mono (each device device' present owned) ?_ fun _ _ _ _ => trivial
          rintro now _ _ after after' ⟨rfl, rfl, related⟩
          have own : OwnedAlike (stored.policies key) now.told after after' := by
            rwa [OwnedAlike, related.address]
          refine ⟨rfl, rfl, alike.setDevice key (.some own), fun other different => ?_⟩
          exact Function.update_of_ne different _ _

/-- A key that is still to be visited is as it was at the beginning of the loop. -/
theorem forEachDevice_twin {program : UInt8 → Program interface Vita4611Device Unit}
    {keys : List UInt8} (distinct : keys.Nodup) {ready : Vita4611Device → Prop}
    (alike : ManagerAlike stored known.told first second)
    (initial : ∀ key ∈ keys, ∀ device, first.deviceMap key = some (some device) → ready device)
    (each : ∀ key device device', ready device →
      OwnedAlike (stored.policies key) known.told device device' →
        twin memoryWatch (program key) (program key) ⟨fun now value value' after after' =>
          value = value' ∧ now = known ∧ DeviceAlike true (stored.policies key)
            (known.told device.ipmiAddress) device.ipmiAddress after after', lost⟩ known device
          device') :
    twin memoryWatch (forEach (fun key => onDevice (program key) key) keys)
      (forEach (fun key => onDevice (program key) key) keys)
      ⟨fun now value value' after after' => value = value' ∧
        Stay known (ManagerAlike stored known.told) now after after', lost⟩ known first second := by
  induction keys generalizing first second with
  | nil => exact twin_pure ⟨rfl, rfl, alike⟩
  | cons key rest ih =>
      obtain ⟨fresh, distinct⟩ := List.nodup_cons.mp distinct
      apply twin_bind
      refine twin_mono (onDevice_twin alike fun device device' present owned =>
        each key device device' (initial key List.mem_cons_self device present) owned) ?_
          fun _ _ _ _ => trivial
      rintro _ _ _ after after' ⟨_, rfl, alike, others⟩
      refine ih distinct alike fun other member device present => ?_
      rw [others other fun same => fresh (same ▸ member)] at present
      exact initial other (List.mem_cons_of_mem _ member) device present

end Devices

section Exposure

/-- The number and the unit of each sensor. -/
def Vita4611Device.headings (device : Vita4611Device) : List (UInt8 × String) :=
  device.fruinfo.sensors.map fun sensor => (sensor.sensorNumber, sensor.sdrUnits)

/-- Every sensor whose unit has an object is the first with its number, and a full record describes
it. -/
def Described (described : List UInt8) (device : Vita4611Device) : Prop :=
  ∀ index heading, device.headings[index]? = some heading →
    (sensorGroup heading.2).isSome = true → heading.1 ∈ described ∧
      (device.headings.findIdx fun other => other.1 == heading.1) = index

instance (described : List UInt8) (device : Vita4611Device) : Decidable (Described described device) :=
  decidable_of_iff (∀ index : Fin device.headings.length,
    (sensorGroup device.headings[index].2).isSome = true →
      device.headings[index].1 ∈ described ∧
        (device.headings.findIdx fun other => other.1 == device.headings[index].1) = index) (by
    constructor
    · intro each index heading present published
      obtain ⟨inside, rfl⟩ := List.getElem?_eq_some_iff.mp present
      exact each ⟨index, inside⟩ published
    · intro each index published
      exact each index _ (List.getElem?_eq_getElem index.isLt) published)

/-- A condition on every device of a manager is decided key by key. -/
instance decidableDevices (manager : ChassisManager) (holds : Vita4611Device → Prop)
    [DecidablePred holds] :
    Decidable (∀ key device, manager.deviceMap key = some (some device) → holds device) :=
  decidable_of_iff (allKeys.all fun key => (manager.deviceMap key).join.all (holds ·)) (by
    simp [Option.join_eq_some_iff, mem_allKeys, Option.all_eq_true])

variable {known : Known} {told : Told} {addr : UInt8} {policed : Bool}
  {first second device device' : Vita4611Device} {index : Nat} {sensor other : SensorRecord}

theorem headings_set {record : SensorRecord} (present : device.fruinfo.sensors[index]? = some sensor)
    (number : record.sensorNumber = sensor.sensorNumber) (units : record.sdrUnits = sensor.sdrUnits) :
    (device.setSensors (device.fruinfo.sensors.set index record)).headings = device.headings := by
  obtain ⟨inside, rfl⟩ := List.getElem?_eq_some_iff.mp present
  have headed : index < device.headings.length := by simpa [Vita4611Device.headings] using inside
  have same : (record.sensorNumber, record.sdrUnits) = device.headings[index] := by
    simp [Vita4611Device.headings, number, units]
  change (device.fruinfo.sensors.set index record).map _ = device.headings
  rw [List.map_set, same]
  exact List.set_getElem_self _

/-- A described sensor is the same in both runs. -/
theorem same_of_described (alike : DeviceAlike true policed told addr first second)
    (described : Described told.described first) (present : first.fruinfo.sensors[index]? = some sensor)
    (present' : second.fruinfo.sensors[index]? = some other)
    (published : (sensorGroup sensor.sdrUnits).isSome = true) : sensor = other := by
  have heading : first.headings[index]? = some (sensor.sensorNumber, sensor.sdrUnits) := by
    simp [Vita4611Device.headings, present]
  obtain ⟨member, place⟩ := described index _ heading published
  rw [Vita4611Device.headings, List.findIdx_map] at place
  obtain ⟨whole, found, found'⟩ := alike.described _ member
  rw [Vita4611Device.sensorAt, List.find?_eq_getElem?_findIdx] at found found'
  rw [← alike.findIdx] at found'
  change first.fruinfo.sensors.findIdx (fun other => other.sensorNumber == sensor.sensorNumber) = index
    at place
  rw [place, present] at found
  rw [place, present'] at found'
  exact (Option.some.inj found).trans (Option.some.inj found').symm

/-- One record takes the place of a sensor with its number in both runs. -/
theorem DeviceAlike.setSensor {record : SensorRecord}
    (alike : DeviceAlike true policed told addr first second)
    (present : first.fruinfo.sensors[index]? = some sensor)
    (present' : second.fruinfo.sensors[index]? = some sensor)
    (number : record.sensorNumber = sensor.sensorNumber) :
    DeviceAlike true policed told addr
      (first.setSensors (first.fruinfo.sensors.set index record))
      (second.setSensors (second.fruinfo.sensors.set index record)) := by
  have keeps {device : Vita4611Device} (present : device.fruinfo.sensors[index]? = some sensor) :
      KeepsNumber device index fun _ => record := by
    intro stored found
    rw [number, ← Option.some.inj (found.symm.trans present)]
  have kept := alike.modifySensor (keeps present) (keeps present') fun _ _ _ =>
    SensorAlike.refl record
  rwa [← Data.set_eq_modify present, ← Data.set_eq_modify present'] at kept

/-- A call that is no request tells nothing. -/
theorem dbusCall_lockstep {State : Type} {relation : Known → State → State → Prop} {op : Op}
    {succeeds : op.Answer → Bool} (determinate : op ≠ .indeterminate)
    (silent : ∀ known answer, Known.observe known op answer = known) :
    Lockstep memoryWatch relation relation Eq (dbusCall op succeeds) (dbusCall op succeeds) := by
  have answered : Lockstep memoryWatch relation relation Eq (Program.ask (I := interface) op)
      (Program.ask (I := interface) op) := by
    apply lockstep_ask
    intro known state other answer answer' related agree _
    change answer = answer' ∧ relation (Known.observe known op answer) state other
    rw [silent]
    exact ⟨agree determinate, related⟩
  apply lockstep_bind answered
  rintro answer _ rfl
  exact lockstep_ite (fun _ => lockstep_pure rfl) fun _ => lockstep_throw _

/-- Publishing a described sensor keeps the devices alike. -/
theorem exposeSensor_lockstep (num : UInt8) (index : Nat) :
    Lockstep memoryWatch
      (Stay known fun first second => DeviceAlike true policed told addr first second ∧
        Described told.described first) lost Eq
      (exposeSensor num index) (exposeSensor num index) := by
  rintro now device device' ⟨rfl, alike, described⟩
  apply twin_read
  have pair := Data.getElem?_of_forall₂ alike.sensors index
  generalize present : device.fruinfo.sensors[index]? = slot at pair ⊢
  generalize present' : device'.fruinfo.sensors[index]? = slot' at pair ⊢
  cases pair with
  | none => exact twin_pure ⟨rfl, rfl, alike, described⟩
  | @some sensor other pair =>
      dsimp only
      rw [← pair.units]
      cases group : sensorGroup sensor.sdrUnits with
      | none => exact twin_pure ⟨rfl, rfl, alike, described⟩
      | some place =>
          obtain rfl : sensor = other :=
            same_of_described alike described present present' (by rw [group]; rfl)
          apply twin_tryCatch
          apply twin_bind
          have start : Stay now (These device device') now device device' := ⟨rfl, rfl, rfl⟩
          refine twin_mono (dbusCall_lockstep (by simp) (fun _ _ => rfl) _ _ _ start) ?_ ?_
          · rintro _ _ _ _ _ ⟨_, rfl, rfl, rfl⟩
            apply twin_modify
            refine ⟨rfl, rfl, alike.setSensor present present' rfl, ?_⟩
            unfold Described
            rw [headings_set present]
            · exact described
            · rfl
            · rfl
          · rintro _ _ _ ⟨rfl, rfl, rfl⟩ _
            exact twin_pure ⟨rfl, rfl, alike, described⟩

variable [Libm] {stored : Stored}

/-- The described sensors of one device are published and read. -/
theorem exposeSensors_twin (key : UInt8) (alike : DeviceAlike true policed told addr first second)
    (described : Described told.described first) :
    let program : Program interface Vita4611Device Unit := do
      let device ← Program.read
      Program.forEach (exposeSensor key) (List.range device.fruinfo.sensors.length)
      Vita4611Device.getAllSensorReadings
    twin memoryWatch program program ⟨fun now value value' after after' => value = value' ∧
      now = known ∧ DeviceAlike true policed told addr after after', lost⟩ known first second := by
  intro program
  apply twin_read
  rw [← alike.sensors.length_eq]
  apply twin_bind
  refine twin_mono (lockstep_forEach (fun index _ => exposeSensor_lockstep key index) known first
    second ⟨rfl, alike, described⟩) ?_ fun _ _ _ _ => trivial
  rintro _ _ _ first second ⟨_, rfl, alike, _⟩
  exact getAllSensorReadings_lockstep _ _ _ ⟨rfl, alike⟩

/-- Every described sensor is published. -/
theorem exposeFruSensors_twin {first second : ChassisManager}
    (alike : ManagerAlike stored known.told first second)
    (described : ∀ key device, first.deviceMap key = some (some device) →
      Described (known.told device.ipmiAddress).described device) :
    twin memoryWatch exposeFruSensors exposeFruSensors
      ⟨fun now value value' after after' => value = value' ∧
        Stay known (ManagerAlike stored known.told) now after after', lost⟩ known first second :=
  forEachDevice_twin allKeys_nodup alike (fun key _ device => described key device)
    fun key _ _ described owned => exposeSensors_twin key owned described

end Exposure

section Enumeration

variable {known : Known} {first second : ChassisManager}

/-- What one device tells leaves the other devices alike. -/
theorem ManagerAlike.put {stored : Stored} {addr : UInt8} {told : Told}
    (alike : ManagerAlike stored known.told first second)
    (others : ∀ key device, first.deviceMap key = some (some device) → device.ipmiAddress ≠ addr) :
    ManagerAlike stored (known.put addr told).told first second :=
  { alike with
    devices := by
      intro key
      have pair := alike.devices key
      generalize present : first.deviceMap key = slot at pair ⊢
      generalize second.deviceMap key = slot' at pair ⊢
      cases pair with
      | none => exact .none
      | some owned =>
          cases owned with
          | none => exact .some .none
          | @some device device' owned =>
              have same : (known.put addr told).told device.ipmiAddress =
                  known.told device.ipmiAddress :=
                Function.update_of_ne (others key device present) _ _
              refine .some (.some ?_)
              rwa [OwnedAlike, same] }

variable [Libm]

/-- A device at a new address is built and stored in both runs. -/
theorem addDevice_twin (starts : known.phase = .starting) {key addr : UInt8}
    (fresh : known.told (addr <<< 1) = .nothing)
    (others : ∀ key device, first.deviceMap key = some (some device) →
      device.ipmiAddress ≠ addr <<< 1)
    (alike : ManagerAlike .nothing known.told first second) :
    twin memoryWatch (addDevice key addr) (addDevice key addr)
      ⟨fun now value value' after after' => value = value' ∧
        ∃ told, now = known.put (addr <<< 1) told ∧ ManagerAlike .nothing now.told after after' ∧
          ∀ other device, after.deviceMap other = some (some device) →
            device.ipmiAddress = addr <<< 1 ∨ first.deviceMap other = some (some device), lost⟩
      known first second := by
  apply twin_bind
  apply twin_modify
  apply twin_bind
  apply twin_ask
  intro junk junk' _ _
  apply twin_bind
  apply twin_isolate
  refine twin_mono (construct_twin starts fresh 0 junk.device junk'.device) ?_
    fun _ _ _ _ => trivial
  rintro _ _ _ device device' ⟨told, rfl, _, built⟩
  apply twin_modify
  have owned : OwnedAlike false (known.put (addr <<< 1) told).told { device with deviceId := 0 }
      { device' with deviceId := 0 } := by
    rw [OwnedAlike, built.address, Known.put_told]
    exact { built with address := rfl, deviceId := fun _ => rfl }
  have listed : ManagerAlike .nothing (known.put (addr <<< 1) told).told
      { first with i2cdeviceMap := first.i2cdeviceMap ++ [⟨0, addr, 0, 0x20⟩] }
      { second with i2cdeviceMap := second.i2cdeviceMap ++ [⟨0, addr, 0, 0x20⟩] } :=
    { alike.put others with i2cdeviceMap := congrArg (· ++ _) alike.i2cdeviceMap }
  have added := listed.setDevice key (.some owned)
  refine ⟨rfl, told, rfl, { added with entries := ?_ }, fun other stored present => ?_⟩
  · exact congrArg₂ (· ++ [·]) alike.entries (by rw [built.hwAddress, built.siteType])
  · change Function.update first.deviceMap key (some (some _)) other = _ at present
    rw [Function.update_apply] at present
    split_ifs at present
    · cases present
      exact .inl built.address
    · exact .inr present

/-- The addresses that are still to be probed have told nothing, and no device has one. -/
structure Unprobed (addresses : List UInt8) (known : Known) (manager : ChassisManager) : Prop where
  fresh : ∀ addr ∈ addresses, known.told (addr <<< 1) = .nothing
  others : ∀ addr ∈ addresses, ∀ key device, manager.deviceMap key = some (some device) →
    device.ipmiAddress ≠ addr <<< 1

omit [Libm] in
theorem Unprobed.rest {addr : UInt8} {rest : List UInt8}
    (unprobed : Unprobed (addr :: rest) known first) : Unprobed rest known first where
  fresh other member := unprobed.fresh other (List.mem_cons_of_mem _ member)
  others other member := unprobed.others other (List.mem_cons_of_mem _ member)

theorem enumerateAddresses_twin (starts : known.phase = .starting) {addresses : List UInt8}
    (distinct : (addresses.map fun addr : UInt8 => addr <<< 1).Nodup) (n : UInt8)
    (unprobed : Unprobed addresses known first)
    (alike : ManagerAlike .nothing known.told first second) :
    twin memoryWatch (enumerateAddresses addresses n) (enumerateAddresses addresses n)
      ⟨fun now _ _ after after' => now.phase = .starting ∧
        ManagerAlike .nothing now.told after after', lost⟩ known first second := by
  induction addresses generalizing known first second n with
  | nil => exact twin_pure ⟨starts, alike⟩
  | cons addr rest ih =>
      obtain ⟨single, distinct⟩ := List.nodup_cons.mp distinct
      have skipped := ih starts distinct n unprobed.rest alike
      have added (key n : UInt8) : twin memoryWatch
          (addDevice key addr >>= fun _ => enumerateAddresses rest n)
          (addDevice key addr >>= fun _ => enumerateAddresses rest n)
          ⟨fun now _ _ after after' => now.phase = .starting ∧
            ManagerAlike .nothing now.told after after', lost⟩ known first second := by
        apply twin_bind
        refine twin_mono (addDevice_twin starts (unprobed.fresh addr List.mem_cons_self)
          (unprobed.others addr List.mem_cons_self) alike) ?_ fun _ _ _ _ => trivial
        rintro _ _ _ after after' ⟨_, told, rfl, alike, devices⟩
        have apart {other : UInt8} (member : other ∈ rest) : other <<< 1 ≠ addr <<< 1 :=
          fun same => single (List.mem_map.mpr ⟨other, member, same⟩)
        have started : (known.put (addr <<< 1) told).phase = .starting := starts
        refine ih started distinct n ⟨fun other member => ?_, fun other member key device present => ?_⟩
          alike
        · exact (Function.update_of_ne (apart member) _ _).trans (unprobed.rest.fresh other member)
        · rcases devices key device present with own | before
          · exact fun same => apart member (same.symm.trans own)
          · exact unprobed.rest.others other member key device before
      apply twin_bind
      apply twin_ask
      rintro (selected : Bool) _ agree _
      obtain rfl := agree (by simp)
      refine twin_ite (fun _ => ?_) fun _ => skipped
      apply twin_bind
      apply twin_ask
      rintro (present : Bool) _ agree _
      obtain rfl := agree (by simp)
      exact twin_ite (fun _ => twin_ite (fun _ => added 0 n) fun _ => added n (n + 1)) fun _ => skipped

omit [Libm] in
/-- The probed addresses give different IPMI addresses. -/
theorem probedAddresses_distinct : (probedAddresses.map fun addr : UInt8 => addr <<< 1).Nodup := by
  decide +kernel

/-- A new manager has no device, and nothing is told. -/
theorem enumerateI2cDevices_twin (empty : ∀ key, first.deviceMap key = none)
    (alike : ManagerAlike .nothing Known.fresh.told first second) :
    twin memoryWatch enumerateI2cDevices enumerateI2cDevices
      ⟨fun now _ _ after after' => now.phase = .starting ∧
        ManagerAlike .nothing now.told after after', lost⟩ .fresh first second := by
  apply twin_bind
  apply twin_ask
  rintro (opened : Bool) _ agree _
  obtain rfl := agree (by simp)
  refine twin_ite (fun _ => ?_) fun _ => twin_pure ⟨rfl, alike⟩
  refine enumerateAddresses_twin rfl probedAddresses_distinct 1 ⟨fun _ _ => rfl, ?_⟩ alike
  intro _ _ key device present
  rw [empty] at present
  cases present

/-- What the constructor sets in a new manager. -/
def ChassisManager.prepare (manager : ChassisManager) : ChassisManager :=
  { manager with
    chassisAddressTable := { manager.chassisAddressTable with
      chassisIdType := 0xC0
      chassisAddTableEntriesCount := 0x0 }
    addressCount := 1
    siteType := 0
    ipmbAddress := 0x40
    siteNumber := 0x40 - 0x40
    maxUnavailableTime := 0x0a
    addressType := 0x80
    ipAddress := manager.ipAddress ++ [0xc0, 0xa8, 0x00, 0x68, 0x02, 0x6f]
    mIpmbAEnable := 1
    mIpmbBEnable := 1 }

/-- The devices are enumerated in the new manager. -/
def ChassisManager.enumerated (environment : Environment interface) :
    Run interface ChassisManager Unit :=
  enumerateI2cDevices.run environment blank.prepare 0

def ChassisManager.constructed (environment : Environment interface) :
    Run interface ChassisManager Unit :=
  ChassisManager.construct.run environment blank 0

/-- Objects are published for the sensors of the enumerated devices. -/
theorem constructed_eq (environment : Environment interface) :
    ChassisManager.constructed environment =
      (ChassisManager.enumerated environment).andThen fun _ manager =>
        exposeFruSensors.run environment manager
          (0 + (ChassisManager.enumerated environment).calls.length) :=
  run_bind environment ChassisManager.blank.prepare 0 enumerateI2cDevices fun _ => exposeFruSensors

/-- The answers to the constructor are sound, and the sensors that it publishes are described. -/
structure SoundStart (environment : Environment interface) : Prop where
  clean : memoryWatch.Clean .fresh (ChassisManager.constructed environment).exchanges
  described : ∀ key device,
    (ChassisManager.enumerated environment).state.deviceMap key = some (some device) →
      Described ((memoryWatch.after .fresh (ChassisManager.enumerated environment).exchanges).told
        device.ipmiAddress).described device

variable {environment environment' : Environment interface}

instance (environment : Environment interface) : Decidable (SoundStart environment) :=
  decidable_of_iff
    (memoryWatch.Clean .fresh (ChassisManager.constructed environment).exchanges ∧
      ∀ key device,
        (ChassisManager.enumerated environment).state.deviceMap key = some (some device) →
          Described ((memoryWatch.after .fresh
            (ChassisManager.enumerated environment).exchanges).told
              device.ipmiAddress).described device)
    ⟨fun both => ⟨both.1, both.2⟩, fun sound => ⟨sound.clean, sound.described⟩⟩

/-- After a sound start the two managers are alike. -/
theorem constructed_meets (agree : memoryWatch.Agree environment environment')
    (sound : SoundStart environment) :
    Meets memoryWatch ⟨fun now _ _ first second => ManagerAlike .nothing now.told first second, lost⟩
      .fresh (ChassisManager.constructed environment)
      (ChassisManager.constructed environment') := by
  have start : ManagerAlike .nothing Known.fresh.told ChassisManager.blank.prepare
      ChassisManager.blank.prepare := {
    idType := rfl
    identifier := rfl
    entries := rfl
    linkA := rfl
    linkB := rfl
    addressCount := rfl
    siteType := rfl
    siteNumber := rfl
    maxUnavailableTime := rfl
    addressType := rfl
    ipAddress := rfl
    i2cdeviceMap := rfl
    devices := fun _ => .none }
  have enumerated := enumerateI2cDevices_twin (fun _ => rfl) start environment environment' agree 0
  rw [constructed_eq, constructed_eq]
  refine meets_andThen enumerated ?_ fun _ _ _ _ => trivial
  intro value value' _ lengths ended
  change (ChassisManager.enumerated environment).calls.length =
    (ChassisManager.enumerated environment').calls.length at lengths
  rw [← lengths]
  have exposed := exposeFruSensors_twin ended.2 sound.described
  refine twin_mono exposed ?_ (fun _ _ _ _ => trivial) environment environment' agree _
  rintro _ _ _ first second ⟨_, rfl, alike⟩
  exact alike

end Enumeration

end Chassis.Vita4611
