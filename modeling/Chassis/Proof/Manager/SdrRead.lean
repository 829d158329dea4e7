import Chassis.Construction.Manager.Repository
import Chassis.Effect.Rely
import Chassis.Data.List

namespace Chassis.Vita4611
open Effect Program

theorem readReply_pays {answer : DBusReply} {data : List UInt8} (pays : Pays answer data) :
    ∃ result, readReply answer = (some result, some 0) ∧ result.data = data := by
  obtain ⟨result, rfl, code, same⟩ := pays
  refine ⟨result, ?_, same⟩
  unfold readReply
  dsimp only
  rw [if_pos code, code]

section Requests

variable {repository : SdrRepository} {excused : UInt8 → Prop}
  {assumed : (op : Op) → op.Answer → Prop}
  (offers : ∀ op answer, assumed op answer → Offers repository excused op answer)
include offers

/-- A Get SDR request returns the bytes of an existing record or fails for an excused one. -/
theorem rely_getSdr (channel addr index : UInt8)
    (resId : UInt8 × UInt8) (offset count : UInt8)
    (post : Post interface Vita4611Device (Option Ipmb.SendRequestReply × Option UInt8))
    (device : Vita4611Device)
    (answered : ∀ (record : SdrRecord) (result : Ipmb.SendRequestReply),
      repository.find (index, 0) = some record → result.data = record.read offset count →
      post.value (some result, some 0) device)
    (failed : ∀ code, excused index → post.value (none, code) device) :
    (sendIpmbRequest channel addr netfnSE 0 ipmitoolCmdGetSdr
      [resId.1, resId.2, index, 0, offset, count]).rely assumed post device := by
  intro answer given
  change post.value (readReply answer) device
  rcases offers _ _ given rfl _ _ _ _ _ rfl with ⟨record, found, pays⟩ | ⟨fails, past⟩
  · obtain ⟨result, reply, same⟩ := readReply_pays pays
    rw [reply]
    exact answered record result found same
  · have reply : readReply answer = (none, (readReply answer).2) := Prod.ext fails rfl
    rw [reply]
    exact failed _ past

omit offers in
theorem read_header (record : SdrRecord) : record.read 0 5 = record.header := by
  unfold SdrRecord.read SdrRecord.bytes SdrRecord.header
  rfl

theorem rely_getSdrHeader (resId : UInt8 × UInt8) (index : UInt8)
    (post : Post interface Vita4611Device (List UInt8)) (device : Vita4611Device)
    (answered : ∀ record, repository.find (index, 0) = some record →
      post.value record.header device)
    (failed : excused index → ∀ exception, post.thrown exception device) :
    (Vita4611Device.getSdrHeader resId index).rely assumed post device := by
  simp only [Vita4611Device.getSdrHeader, rely_bind, rely_read]
  apply rely_getSdr offers
  · intro record result found same
    rw [read_header] at same
    change post.value result.data device
    rw [same]
    exact answered record found
  · intro code past
    exact failed past _

variable {record : SdrRecord}

omit offers in
/-- Past the header the bytes of a record are those of its body. -/
theorem read_body {offset count : Nat} (record : SdrRecord) (inside : offset + 5 < 256)
    (bounded : count < 256) :
    (record.read (UInt8.ofNat (offset + 5)) (UInt8.ofNat count)).drop 2 =
      (record.body.drop offset).take count := by
  unfold SdrRecord.read
  rw [UInt8.toNat_ofNat_of_lt' inside, UInt8.toNat_ofNat_of_lt' bounded]
  rfl

omit offers in
/-- The last section holds the rest of the body. -/
theorem read_lastSection {sections : Nat} (record : SdrRecord)
    (inside : 22 * sections ≤ record.body.length) :
    (record.read (UInt8.ofNat (22 * sections + 5))
      (UInt8.ofNat (record.body.length - 22 * sections))).drop 2 =
      record.body.drop (22 * sections) := by
  have short := record.short
  rw [read_body record (by omega) (by omega)]
  exact List.take_of_length_le (by rw [List.length_drop])

omit offers in
/-- A full section follows what was read before it. -/
theorem read_nextSection {sections : Nat} (record : SdrRecord)
    (inside : 22 * sections ≤ record.body.length) :
    record.body.take (22 * sections) ++
        (record.read (UInt8.ofNat (22 * sections + 5)) 0x16).drop 2 =
      record.body.take (22 * (sections + 1)) := by
  have short := record.short
  have part : (record.read (UInt8.ofNat (22 * sections + 5)) 0x16).drop 2 =
      (record.body.drop (22 * sections)).take 22 := read_body record (by omega) (by decide)
  rw [part, Nat.mul_succ, List.take_add]

/-- The sections are asked for in order, so what was read is a front part of the body. The last
section is shorter than `0x16` bytes and may be empty. -/
theorem rely_getSdrSections {index : UInt8} (found : repository.find (index, 0) = some record)
    (resId : UInt8 × UInt8) (post : Post interface Vita4611Device (List UInt8))
    (device : Vita4611Device) (answered : post.value record.body device)
    (failed : excused index → ∀ exception, post.thrown exception device)
    (fuel sections : Nat) (inside : 22 * sections ≤ record.body.length)
    (enough : record.body.length < 22 * (sections + fuel)) :
    (Vita4611Device.getSdrSections resId index record.body.length fuel 0x16
      (UInt8.ofNat (22 * sections)) (UInt8.ofNat (22 * sections + 5))
      (record.body.take (22 * sections))).rely assumed post device := by
  have short := record.short
  induction fuel generalizing sections with
  | zero => omega
  | succ fuel ih =>
      have total : (UInt8.ofNat (22 * sections)).toNat = 22 * sections :=
        UInt8.toNat_ofNat_of_lt' (by change _ < 256; omega)
      simp only [Vita4611Device.getSdrSections, rely_bind, rely_read]
      rw [total, show (0x16 : UInt8).toNat = 22 from rfl]
      by_cases last : 22 * sections + 22 > record.body.length
      · have part : UInt8.ofNat record.body.length - UInt8.ofNat (22 * sections) =
            UInt8.ofNat (record.body.length - 22 * sections) := (UInt8.ofNat_sub inside).symm
        have shorter : UInt8.ofNat (record.body.length - 22 * sections) ≠ 0x16 := by
          intro whole
          have value := congrArg UInt8.toNat whole
          rw [UInt8.toNat_ofNat_of_lt' (by change _ < 256; omega)] at value
          change record.body.length - 22 * sections = 22 at value
          omega
        rw [if_pos last, part]
        apply rely_getSdr offers
        · intro other result again same
          cases found.symm.trans again
          simp only [optionalValue, rely_pure, if_neg shorter, same, read_lastSection record inside,
            List.take_append_drop]
          exact answered
        · intro code past
          exact failed past _
      · rw [if_neg last]
        apply rely_getSdr offers
        · intro other result again same
          cases found.symm.trans again
          have total' : UInt8.ofNat (22 * sections) + 0x16 = UInt8.ofNat (22 * (sections + 1)) :=
            (UInt8.ofNat_add (22 * sections) 22).symm
          have offset : UInt8.ofNat (22 * sections + 5) + 0x16 =
              UInt8.ofNat (22 * (sections + 1) + 5) := by
            rw [show 22 * (sections + 1) + 5 = 22 * sections + 5 + 22 by omega]
            exact (UInt8.ofNat_add (22 * sections + 5) 22).symm
          have later := ih (sections + 1) (by omega) (by omega)
          simp only [optionalValue, rely_pure, if_true, same, read_nextSection record inside, total',
            offset]
          exact later
        · intro code past
          exact failed past _

/-- A record is read to its end whatever its length is. -/
theorem rely_getSdrVals {index : UInt8} (found : repository.find (index, 0) = some record)
    (resId : UInt8 × UInt8) (post : Post interface Vita4611Device (List UInt8))
    (device : Vita4611Device) (answered : post.value record.body device)
    (failed : excused index → ∀ exception, post.thrown exception device) :
    (Vita4611Device.getSdrVals resId index (UInt8.ofNat record.body.length)).rely
      assumed post device := by
  have short := record.short
  have length : (UInt8.ofNat record.body.length).toNat = record.body.length :=
    UInt8.toNat_ofNat_of_lt' (by change _ < 256; omega)
  unfold Vita4611Device.getSdrVals
  rw [length]
  exact rely_getSdrSections offers found resId post device answered failed 256 0 (by omega) (by omega)

end Requests

section Store

variable {assumed : (op : Op) → op.Answer → Prop}

theorem rely_payloadByte (data : List UInt8) (index : Nat)
    (post : Post interface Vita4611Device UInt8) (device : Vita4611Device)
    (outside : data.length ≤ index → ∀ reason, post.fault reason device)
    (holds : index < data.length → post.value (data.getD index 0) device) :
    (payloadByte data index : Program interface Vita4611Device UInt8).rely assumed post device := by
  unfold payloadByte
  split
  next byte found =>
    have value : data.getD index 0 = byte := by
      rw [List.getD_eq_getElem?_getD, found, Option.getD_some]
    rw [value] at holds
    exact holds (List.getElem?_eq_some_iff.mp found).1
  next missing => exact outside (List.getElem?_eq_none_iff.mp missing) _

theorem rely_payloadRange (data : List UInt8) (first length : Nat)
    (post : Post interface Vita4611Device (List UInt8)) (device : Vita4611Device)
    (outside : data.length < first + length → ∀ reason, post.fault reason device)
    (holds : first + length ≤ data.length → post.value ((data.drop first).take length) device) :
    (payloadRange data first (first + length) :
      Program interface Vita4611Device (List UInt8)).rely assumed post device := by
  unfold payloadRange
  split
  next fits =>
    rw [List.drop_take, Nat.add_sub_cancel_left]
    exact holds fits.2
  next long => exact outside (by omega) _

/-- Nothing is assumed about the answer. -/
theorem rely_sendIpmbRequest (channel addr netfn lun cmd : UInt8) (data : List UInt8)
    (post : Post interface Vita4611Device (Option Ipmb.SendRequestReply × Option UInt8))
    (device : Vita4611Device) (holds : ∀ response code, post.value (response, code) device) :
    (sendIpmbRequest channel addr netfn lun cmd data).rely assumed post device := by
  intro answer _
  exact holds _ _

theorem rely_indeterminate (post : Post interface Vita4611Device Indeterminate)
    (device : Vita4611Device) (holds : ∀ junk, post.value junk device) :
    (indeterminate : Program interface Vita4611Device Indeterminate).rely assumed post device := by
  intro junk _
  exact holds junk

theorem any_attachment (sensors : List SensorRecord) (number : UInt8) :
    ((sensors.map SensorRecord.attachment).any fun attachment =>
      attachment.sensorNumber == number) =
      sensors.any fun sensor => sensor.sensorNumber == number := by
  rw [List.any_map]
  rfl

theorem findIdx_attachment (sensors : List SensorRecord) (number : UInt8) :
    ((sensors.map SensorRecord.attachment).findIdx fun attachment =>
      attachment.sensorNumber == number) =
      sensors.findIdx fun sensor => sensor.sensorNumber == number := by
  rw [List.findIdx_map]
  rfl

/-- A stored record attaches to the table what its kind attaches. -/
theorem attachments_sensor {record : SdrRecord} {device : Vita4611Device} {update : SensorRecord → SensorRecord}
    {sensor : SensorRecord} (kind : record.isSensor)
    (stripped : record.recordType = 1 → ∀ known, (update known).attachment =
      .bare record.sensorNumber)
    (kept : record.recordType ≠ 1 → ∀ known, (update known).attachment = known.attachment)
    (added : sensor.attachment = .bare record.sensorNumber) :
    (if device.isSensorDiscovered record.sensorNumber then
        device.updateSensor record.sensorNumber update
      else device.pushSensor sensor).attachments = record.attach device.attachments := by
  unfold SdrRecord.attach Vita4611Device.attachments
  rw [if_pos kind, any_attachment]
  unfold Vita4611Device.isSensorDiscovered
  split
  next =>
    unfold Vita4611Device.updateSensor Vita4611Device.setSensors
    dsimp only
    by_cases full : record.recordType = 1
    · rw [if_pos full, findIdx_attachment]
      exact Data.map_modify _ (fun known => stripped full known) _ _
    · have same : ∀ known, (update known).attachment = id known.attachment := kept full
      rw [if_neg full, Data.map_modify _ same, List.modify_id]
  next =>
    unfold Vita4611Device.pushSensor Vita4611Device.setSensors
    dsimp only
    rw [List.map_append, List.map_singleton, added]

variable [Libm] {record : SdrRecord}

/-- A stored record is shown, and the sensors with other numbers stay. -/
structure Stores (record : SdrRecord) (before after : Vita4611Device) : Prop where
  shown : ∃ sensor ∈ after.fruinfo.sensors, record.Shown sensor
  others : ∀ sensor ∈ before.fruinfo.sensors, sensor.sensorNumber ≠ record.sensorNumber →
    sensor ∈ after.fruinfo.sensors

theorem stores_pushSensor (device : Vita4611Device) {sensor : SensorRecord}
    (shown : record.Shown sensor) : Stores record device (device.pushSensor sensor) := by
  refine ⟨⟨sensor, ?_, shown⟩, ?_⟩
  · exact List.mem_append_right _ List.mem_cons_self
  · intro other member _
    exact List.mem_append_left _ member

/-- The first sensor with the number is replaced, and no other one is. -/
theorem stores_updateSensor {device : Vita4611Device}
    (discovered : device.isSensorDiscovered record.sensorNumber = true)
    (update : SensorRecord → SensorRecord)
    (shown : ∀ sensor, sensor.sensorNumber = record.sensorNumber → record.Shown (update sensor)) :
    Stores record device (device.updateSensor record.sensorNumber update) := by
  obtain ⟨known, member, same⟩ := List.any_eq_true.mp discovered
  have inside := List.findIdx_lt_length_of_exists
    (p := fun sensor : SensorRecord => sensor.sensorNumber == record.sensorNumber)
    ⟨known, member, same⟩
  have number := List.findIdx_getElem (w := inside)
  constructor
  · refine ⟨update (device.fruinfo.sensors.get ⟨_, inside⟩), ?_, shown _ (eq_of_beq number)⟩
    apply List.mem_iff_getElem?.mpr
    refine ⟨device.fruinfo.sensors.findIdx fun sensor =>
      sensor.sensorNumber == record.sensorNumber, ?_⟩
    rw [Vita4611Device.updateSensor, Vita4611Device.setSensors, List.getElem?_modify_eq,
      List.getElem?_eq_getElem inside]
    rfl
  · intro other member different
    obtain ⟨index, found⟩ := List.mem_iff_getElem?.mp member
    apply List.mem_iff_getElem?.mpr
    refine ⟨index, ?_⟩
    rw [Vita4611Device.updateSensor, Vita4611Device.setSensors, List.getElem?_modify_ne, found]
    rintro rfl
    rw [List.getElem?_eq_getElem inside] at found
    cases found
    exact different (eq_of_beq number)

/-- A known sensor is updated in place, and an unknown one is added. -/
theorem stores_sensor {device : Vita4611Device} {update : SensorRecord → SensorRecord}
    {sensor : SensorRecord}
    (updated : ∀ known, known.sensorNumber = record.sensorNumber → record.Shown (update known))
    (added : record.Shown sensor) :
    Stores record device
      (if device.isSensorDiscovered record.sensorNumber then
        device.updateSensor record.sensorNumber update
      else device.pushSensor sensor) := by
  split
  next discovered => exact stores_updateSensor discovered update updated
  next => exact stores_pushSensor device added

/-- The effect of storing a sensor record on the contents and on the attachments. -/
structure Files (record : SdrRecord) (before after : Vita4611Device) : Prop where
  stores : Stores record before after
  attached : after.attachments = record.attach before.attachments
  complete : record.Complete

theorem rely_handleCompactSdr (compact : record.recordType = 2) (device : Vita4611Device) :
    (Vita4611Device.handleCompactSdr record.header record.body).rely assumed
      ⟨fun _ after => Files record device after, fun _ _ => False,
        fun _ _ => ¬ record.Complete⟩ device := by
  have full : record.recordType ≠ 1 := by
    rw [compact]
    decide
  have name : (record.body.drop 27).take (record.body.getD 26 0 &&& 0x1F).toNat =
      record.sdrName := by
    rw [SdrRecord.sdrName, if_neg full]
  have complete : record.Complete ↔
      27 + (record.body.getD 26 0 &&& 0x1F).toNat ≤ record.body.length := by
    rw [SdrRecord.Complete, if_neg full]
  simp only [Vita4611Device.handleCompactSdr, rely_bind]
  apply rely_payloadByte
  · intro short _
    rw [complete]
    omega
  intro _
  apply rely_payloadRange
  · intro short _
    rw [complete]
    omega
  intro inside
  apply rely_indeterminate
  intro junk
  refine ⟨?_, ?_, complete.mpr inside⟩
  · apply stores_sensor
    · intro known number
      exact ⟨number, rfl, rfl, name, rfl, fun absurd => (full absurd).elim,
        fun absurd => (full absurd).elim⟩
    · exact ⟨rfl, rfl, rfl, name, rfl, fun absurd => (full absurd).elim,
        fun absurd => (full absurd).elim⟩
  · exact attachments_sensor (.inr compact) (fun absurd => (full absurd).elim) (fun _ _ => rfl) rfl

theorem rely_handleFullSdr (full : record.recordType = 1) (device : Vita4611Device) :
    (Vita4611Device.handleFullSdr record.header record.body).rely assumed
      ⟨fun _ after => Files record device after, fun _ _ => False,
        fun _ _ => ¬ record.Complete⟩ device := by
  have name : (record.body.drop 43).take (record.body.getD 42 0 &&& 0x1F).toNat =
      record.sdrName := by
    rw [SdrRecord.sdrName, if_pos full]
  have complete : record.Complete ↔
      43 + (record.body.getD 42 0 &&& 0x1F).toNat ≤ record.body.length := by
    rw [SdrRecord.Complete, if_pos full]
  simp only [Vita4611Device.handleFullSdr, rely_bind]
  apply rely_payloadByte
  · intro short _
    rw [complete]
    omega
  intro _
  apply rely_payloadRange
  · intro short _
    rw [complete]
    omega
  intro inside
  apply rely_indeterminate
  intro junk
  refine ⟨?_, ?_, complete.mpr inside⟩
  · apply stores_sensor
    · intro known number
      exact ⟨rfl, rfl, rfl, name, rfl, fun _ => rfl, fun _ => rfl⟩
    · exact ⟨rfl, rfl, rfl, name, rfl, fun _ => rfl, fun _ => rfl⟩
  · exact attachments_sensor (.inl full) (fun _ _ => rfl) (fun absurd => (absurd full).elim) rfl

/-- The effect of reading one record: a sensor record is stored, and any other is ignored. -/
def Takes (record : SdrRecord) (before after : Vita4611Device) : Prop :=
  (record.isSensor → Stores record before after) ∧ (¬ record.isSensor → after = before)

/-- A record that is read is taken over, a read fails only for an excused record, and only an
incomplete sensor record leads to undefined behaviour. -/
theorem rely_readSdr {repository : SdrRepository} {excused : UInt8 → Prop}
    (offers : ∀ op answer, assumed op answer → Offers repository excused op answer)
    (resId : UInt8 × UInt8) (index : UInt8) (device : Vita4611Device) :
    (Vita4611Device.readSdr resId index).rely assumed
      ⟨fun _ after => ∃ record, repository.find (index, 0) = some record ∧
          Takes record device after ∧ after.attachments = record.attach device.attachments ∧
          (record.isSensor → record.Complete),
        fun _ after => excused index ∧ after = device,
        fun _ _ => ∃ record, repository.find (index, 0) = some record ∧ record.isSensor ∧
          ¬ record.Complete⟩ device := by
  simp only [Vita4611Device.readSdr, rely_bind]
  apply rely_getSdrHeader offers
  · intro record found
    have length : ¬ record.header.length ≠ 7 := by
      intro different
      exact different rfl
    simp only [if_neg length, rely_bind]
    apply rely_getSdrVals offers found
    · have kind : record.header.getD 5 0 = record.recordType := rfl
      simp only [kind, rely_tryCatch, rely_ite, rely_pure]
      split_ifs with full compact
      · apply rely_mono (rely_handleFullSdr full device)
        · intro _ after files
          exact ⟨record, found, ⟨fun _ => files.stores, fun other => (other (.inl full)).elim⟩,
            files.attached, fun _ => files.complete⟩
        · intro _ after thrown
          exact thrown.elim
        · intro _ _ incomplete
          exact ⟨record, found, .inl full, incomplete⟩
      · apply rely_mono (rely_handleCompactSdr compact device)
        · intro _ after files
          exact ⟨record, found, ⟨fun _ => files.stores, fun other => (other (.inr compact)).elim⟩,
            files.attached, fun _ => files.complete⟩
        · intro _ after thrown
          exact thrown.elim
        · intro _ _ incomplete
          exact ⟨record, found, .inr compact, incomplete⟩
      · have other : ¬ record.isSensor := fun sensor => sensor.elim full compact
        refine ⟨record, found, ⟨fun sensor => (other sensor).elim, fun _ => rfl⟩, ?_,
          fun sensor => (other sensor).elim⟩
        rw [SdrRecord.attach, if_neg other]
    · intro past _
      exact ⟨past, rfl⟩
  · intro past _
    exact ⟨past, rfl⟩

end Store

end Chassis.Vita4611
