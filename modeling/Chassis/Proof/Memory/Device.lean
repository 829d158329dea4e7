import Chassis.Proof.Manager.SensorAlarm
import Chassis.Proof.Memory.Alike

namespace Chassis.Vita4611
open Effect Program

/-- Nothing more becomes known while a relation holds. -/
abbrev Stay {State : Type} (known : Known) (relation : State → State → Prop) :
    Known → State → State → Prop :=
  fun now state other => now = known ∧ relation state other

/-- Nothing is asked of the states after an exception. -/
abbrev lost {State : Type} : Known → State → State → Prop := fun _ _ _ => True

/-- An answer to this request is not stored. -/
def Quiet (netfn cmd : UInt8) : Prop :=
  ∀ (told : Told) (arguments : Ipmb.SendRequest) (answer : DBusReply), arguments.netfn = netfn →
    arguments.cmd = cmd → told.hear arguments answer = told

theorem quiet_reading : Quiet netfnSE ipmiGetSensorReadingCmd := by
  intro told arguments answer netfn cmd
  rw [Told.hear, netfn, cmd]
  rfl

theorem Known.put_self (known : Known) (addr : UInt8) :
    known.put addr (known.told addr) = known := by
  rw [put, Function.update_eq_self]

theorem observe_quiet (arguments : Ipmb.SendRequest) {known : Known}
    (quiet : known.phase = .starting → Quiet arguments.netfn arguments.cmd) (answer : DBusReply) :
    known.observe (.sendRequest arguments) answer = known := by
  simp only [Known.observe]
  split
  next starting => rw [quiet starting _ _ _ rfl rfl, Known.put_self]
  next => rfl

section Primitives

variable {State : Type} {relation thrown : Known → State → State → Prop}

theorem payloadByte_value (data : List UInt8) (index : Nat) :
    Lockstep memoryWatch relation thrown
      (fun byte byte' => byte = byte' ∧ data.getD index 0 = byte) (payloadByte data index)
      (payloadByte data index) := by
  unfold payloadByte
  rw [List.getD_eq_getElem?_getD]
  cases data[index]? with
  | none => exact lockstep_fault _
  | some byte => exact lockstep_pure ⟨rfl, rfl⟩

theorem payloadByte_lockstep (data : List UInt8) (index : Nat) :
    Lockstep memoryWatch relation thrown Eq (payloadByte data index) (payloadByte data index) :=
  lockstep_weaken (payloadByte_value data index) fun _ _ same => same.1

theorem payloadRange_lockstep (data : List UInt8) (first last : Nat) :
    Lockstep memoryWatch relation thrown Eq (payloadRange data first last)
      (payloadRange data first last) :=
  lockstep_ite (fun _ => lockstep_pure rfl) fun _ => lockstep_fault _

/-- The uninitialised contents of the two runs have nothing in common. -/
theorem indeterminate_lockstep :
    Lockstep memoryWatch relation thrown (fun _ _ => True) indeterminate indeterminate :=
  lockstep_ask fun _ _ _ _ _ related _ _ => ⟨trivial, related⟩

/-- Both runs get the same reply, and it is a sound one. -/
theorem twin_sendIpmbRequest {channel addr netfn lun cmd : UInt8} {data : List UInt8}
    {ends : Ends Known State (Option Ipmb.SendRequestReply × Option UInt8)} {known : Known}
    {state other : State}
    (related : ∀ reply : DBusReply,
      known.Sound (.sendRequest ⟨channel, addr, netfn, lun, cmd, data⟩) reply →
      ends.value (known.observe (.sendRequest ⟨channel, addr, netfn, lun, cmd, data⟩) reply)
        (readReply reply) (readReply reply) state other) :
    twin memoryWatch (sendIpmbRequest channel addr netfn lun cmd data)
      (sendIpmbRequest channel addr netfn lun cmd data) ends known state other := by
  apply twin_bind
  apply twin_ask
  intro first second agree sound
  obtain rfl : first = second := agree (by simp)
  exact twin_pure (related first sound)

variable {known : Known} {kept : State → State → Prop}

/-- A quiet request leaves the two runs as they are. -/
theorem sendIpmbRequest_lockstep {channel addr addr' netfn lun cmd : UInt8} {data data' : List UInt8}
    (quiet : known.phase = .starting → Quiet netfn cmd) (address : addr = addr')
    (same : data = data') :
    Lockstep memoryWatch (Stay known kept) thrown
      (fun value value' => value = value' ∧ ∃ reply, readReply reply = value ∧
        known.Sound (.sendRequest ⟨channel, addr, netfn, lun, cmd, data⟩) reply)
      (sendIpmbRequest channel addr netfn lun cmd data)
      (sendIpmbRequest channel addr' netfn lun cmd data') := by
  subst address same
  rintro now state other ⟨rfl, related⟩
  apply twin_sendIpmbRequest
  intro reply sound
  exact ⟨⟨rfl, reply, rfl, sound⟩,
    observe_quiet ⟨channel, addr, netfn, lun, cmd, data⟩ quiet reply, related⟩

end Primitives

section Readings

theorem rawReadingOf_lockstep (response : Option Ipmb.SendRequestReply)
    {relation thrown : Known → Vita4611Device → Vita4611Device → Prop} :
    Lockstep memoryWatch relation thrown Eq (Vita4611Device.rawReadingOf response)
      (Vita4611Device.rawReadingOf response) := by
  cases response with
  | none => exact lockstep_pure rfl
  | some response => exact payloadByte_lockstep _ _

variable [Libm] {known : Known} {numbered policed : Bool} {told : Told} {addr : UInt8}
  {thrown : Known → Vita4611Device → Vita4611Device → Prop}

/-- A reading keeps two records of one sensor alike. -/
theorem SensorAlike.publish {sensor other : SensorRecord} (alike : SensorAlike sensor other)
    (raw : UInt8) : SensorAlike (sensor.publish raw) (other.publish raw) where
  number := alike.number
  name := alike.name
  units := alike.units
  published := by
    simp only [SensorRecord.publish, Option.isSome_map]
    exact alike.published
  whole := by
    intro set
    simp only [SensorRecord.publish, Option.isSome_map] at set
    rw [alike.whole set]

/-- The two devices are these. -/
abbrev These (device device' : Vita4611Device) : Vita4611Device → Vita4611Device → Prop :=
  fun first second => first = device ∧ second = device'

theorem getSensorReading_lockstep (index : Nat) :
    Lockstep memoryWatch (Stay known (DeviceAlike numbered policed told addr)) thrown Eq
      (Vita4611Device.getSensorReading index 0) (Vita4611Device.getSensorReading index 0) := by
  rintro now device device' ⟨rfl, alike⟩
  apply twin_read
  have found := Data.getElem?_of_forall₂ alike.sensors index
  generalize first : device.fruinfo.sensors[index]? = sensor at found ⊢
  generalize second : device'.fruinfo.sensors[index]? = other at found ⊢
  cases found with
  | none => exact twin_pure ⟨rfl, rfl, alike⟩
  | some pair =>
      have start : Stay now (These device device') now device device' := ⟨rfl, rfl, rfl⟩
      refine (sendIpmbRequest_lockstep (fun _ => quiet_reading)
        (alike.address.trans alike.address'.symm) (congrArg ([·]) pair.number)).bind start ?_
      rintro _ ⟨response, cc⟩ _ _ _ ⟨rfl, _⟩ same
      refine (rawReadingOf_lockstep response).bind same ?_
      rintro _ raw _ device device' rfl ⟨rfl, rfl, rfl⟩
      apply twin_modify
      refine ⟨rfl, rfl, ?_⟩
      have published : DeviceAlike numbered policed told addr
          (device.setSensors (device.fruinfo.sensors.modify index (·.publish raw)))
          (device'.setSensors (device'.fruinfo.sensors.modify index (·.publish raw))) :=
        alike.modifySensor (fun _ _ => rfl) (fun _ _ => rfl) fun _ _ pair => pair.publish raw
      rwa [← Data.set_eq_modify first, ← Data.set_eq_modify second] at published

theorem getAllSensorReadings_lockstep :
    Lockstep memoryWatch (Stay known (DeviceAlike numbered policed told addr)) thrown Eq
      Vita4611Device.getAllSensorReadings Vita4611Device.getAllSensorReadings := by
  apply lockstep_read
  rintro _ device device' ⟨_, alike⟩
  rw [alike.sensors.length_eq]
  exact lockstep_forEach fun index _ => getSensorReading_lockstep index

end Readings

end Chassis.Vita4611
