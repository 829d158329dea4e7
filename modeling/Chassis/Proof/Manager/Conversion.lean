import Chassis.Data.Byte
import Chassis.Proof.Manager.SensorAlarm
import Mathlib.Algebra.Order.Field.Basic

namespace Chassis.Vita4611
open Data Effect Program

/-- The ten bits that a factor has in a byte and in the upper two bits of the next one. -/
def tenBits (low high : UInt8) : BitVec 10 := high.toBitVec.extractLsb' 6 2 ++ low.toBitVec

def lowNibble (byte : UInt8) : BitVec 4 := byte.toBitVec.extractLsb' 0 4

def highNibble (byte : UInt8) : BitVec 4 := byte.toBitVec.extractLsb' 4 4

/-- What a raw byte stands for as unsigned, one's complement or two's complement number. -/
def decoded (analogDataFormat reading : UInt8) : Int :=
  if analogDataFormat = 0 then reading.toNat
  else if analogDataFormat = 1 then
    if reading.toNat < 128 then reading.toNat else (reading.toNat : Int) - 255
  else reading.toBitVec.toInt

section Decoding

/-- The sign extension on two bytes is the two's complement of ten bits. -/
theorem tenBitSigned_eq (low high : UInt8) :
    (tenBitSigned low high).toInt = (tenBits low high).toInt := by
  have all : (List.range 4).all (fun top => (List.range 256).all fun low =>
      (tenBitSigned (UInt8.ofNat low) (UInt8.ofNat (64 * top))).toInt ==
        (tenBits (UInt8.ofNat low) (UInt8.ofNat (64 * top))).toInt) = true := by
    decide +kernel
  have bound := high.toNat_lt
  have inside : high.toNat / 64 ∈ List.range 4 := List.mem_range.mpr (by omega)
  have checked := forall_byte (fun low => (tenBitSigned low (UInt8.ofNat (64 *
    (high.toNat / 64)))).toInt == (tenBits low (UInt8.ofNat (64 * (high.toNat / 64)))).toInt)
      (List.all_eq_true.mp all _ inside) low
  -- Only the upper two bits of the second byte count.
  have shifted : UInt8.ofNat (64 * (high.toNat / 64)) >>> 6 = high >>> 6 := by
    apply UInt8.toNat_inj.mp
    simp [UInt8.toNat_shiftRight, Nat.shiftRight_eq_div_pow]
    omega
  have extracted : (UInt8.ofNat (64 * (high.toNat / 64))).toBitVec.extractLsb' 6 2 =
      high.toBitVec.extractLsb' 6 2 := by
    apply BitVec.eq_of_toNat_eq
    have shifts := congrArg UInt8.toNat shifted
    simp only [UInt8.toNat_shiftRight] at shifts
    simpa using congrArg (· % 4) shifts
  rw [beq_iff_eq, tenBitSigned, shifted, tenBits, extracted] at checked
  exact checked

theorem fourBitSigned_low (byte : UInt8) :
    (fourBitSigned (byte &&& 0x0f)).toInt = (lowNibble byte).toInt := by
  have checked := forall_byte (fun byte =>
    (fourBitSigned (byte &&& 0x0f)).toInt == (lowNibble byte).toInt) (by decide +kernel) byte
  exact beq_iff_eq.mp checked

theorem fourBitSigned_high (byte : UInt8) :
    (fourBitSigned (byte >>> 4)).toInt = (highNibble byte).toInt := by
  have checked := forall_byte (fun byte =>
    (fourBitSigned (byte >>> 4)).toInt == (highNibble byte).toInt) (by decide +kernel) byte
  exact beq_iff_eq.mp checked

theorem analogReading_eq (analogDataFormat reading : UInt8) :
    analogReading analogDataFormat reading = decoded analogDataFormat reading := by
  have ones := forall_byte (fun reading => (if reading &&& 0x80 ≠ 0 then
      -((~~~reading &&& 0x7F).toNat : Int) else reading.toNat) ==
    if reading.toNat < 128 then (reading.toNat : Int) else (reading.toNat : Int) - 255)
      (by decide +kernel) reading
  rw [analogReading, decoded, beq_iff_eq.mp ones]
  rfl

end Decoding

/-- The byte of a record at an index. -/
def sdrByte (sdrvals : List UInt8) (index : Nat) : UInt8 := sdrvals.getD index 0

section Law

variable (sdrvals : List UInt8)

/-- The multiplier of a full record. -/
def factorM : Int := (tenBits (sdrByte sdrvals 19) (sdrByte sdrvals 20)).toInt

/-- The offset of a full record. -/
def factorB : Int := (tenBits (sdrByte sdrvals 21) (sdrByte sdrvals 22)).toInt

/-- The exponent of the offset. -/
def exponentB : Int := (lowNibble (sdrByte sdrvals 24)).toInt

/-- The exponent of the result. -/
def exponentR : Int := (highNibble (sdrByte sdrvals 24)).toInt

/-- What a raw byte stands for in the format of the record. -/
def rawValue (reading : UInt8) : Int := decoded (sdrByte sdrvals 15 >>> 6) reading

/-- The linear law of a full record. -/
def linearLaw (reading : UInt8) : ℚ :=
  (factorM sdrvals * rawValue sdrvals reading + factorB sdrvals * 10 ^ exponentB sdrvals) *
    10 ^ exponentR sdrvals

/-- The record describes an analog sensor without a linearization function. -/
structure Linear : Prop where
  analog : sdrByte sdrvals 15 >>> 6 ≠ 0x03
  linearization : sdrByte sdrvals 18 = 0x00 ∨ 0x0C ≤ sdrByte sdrvals 18

end Law

section Conversion

variable {sdrvals : List UInt8}

/-- The result passes through unless the code selects one of the eleven functions. -/
theorem linearize_linear [Libm] {linearization : UInt8}
    (linear : linearization = 0x00 ∨ 0x0C ≤ linearization) (result : ℚ) :
    linearize linearization result = result := by
  have apart (code : UInt8) (positive : 0x00 < code) (low : code < 0x0C) :
      linearization ≠ code := by
    rintro rfl
    rcases linear with zero | high
    · exact UInt8.ne_of_lt positive zero.symm
    · exact absurd (UInt8.lt_of_lt_of_le low high) (UInt8.lt_irrefl _)
  simp only [linearize, if_neg (apart 0x01 (by decide) (by decide)),
    if_neg (apart 0x02 (by decide) (by decide)), if_neg (apart 0x03 (by decide) (by decide)),
    if_neg (apart 0x04 (by decide) (by decide)), if_neg (apart 0x05 (by decide) (by decide)),
    if_neg (apart 0x06 (by decide) (by decide)), if_neg (apart 0x07 (by decide) (by decide)),
    if_neg (apart 0x08 (by decide) (by decide)), if_neg (apart 0x09 (by decide) (by decide)),
    if_neg (apart 0x0A (by decide) (by decide)), if_neg (apart 0x0B (by decide) (by decide))]

/-- The conversion with the factors of a linear record is its law. -/
theorem convertSensorReading_linear [Libm] (linear : Linear sdrvals) (reading : UInt8) :
    convertSensorReading (sdrByte sdrvals 15) (sdrByte sdrvals 18) (sdrByte sdrvals 19)
      (sdrByte sdrvals 20) (sdrByte sdrvals 21) (sdrByte sdrvals 22) (sdrByte sdrvals 24 >>> 4)
      (sdrByte sdrvals 24 &&& 0x0f) reading = linearLaw sdrvals reading := by
  rw [convertSensorReading, if_neg linear.analog]
  dsimp only
  rw [linearize_linear linear.linearization, tenBitSigned_eq, tenBitSigned_eq, fourBitSigned_low,
    fourBitSigned_high, analogReading_eq]
  rfl

/-- The law follows the decoded readings upwards. -/
theorem linearLaw_lt_iff (positive : 0 < factorM sdrvals) (reading threshold : UInt8) :
    linearLaw sdrvals threshold < linearLaw sdrvals reading ↔
      rawValue sdrvals threshold < rawValue sdrvals reading := by
  have scale : (0 : ℚ) < 10 ^ exponentR sdrvals := zpow_pos (by norm_num) _
  have factor : (0 : ℚ) < factorM sdrvals := Int.cast_pos.mpr positive
  rw [linearLaw, linearLaw, mul_lt_mul_iff_left₀ scale, add_lt_add_iff_right,
    mul_lt_mul_iff_right₀ factor, Int.cast_lt]

/-- A negative multiplier turns the order around. -/
theorem linearLaw_gt_iff (negative : factorM sdrvals < 0) (reading threshold : UInt8) :
    linearLaw sdrvals threshold < linearLaw sdrvals reading ↔
      rawValue sdrvals reading < rawValue sdrvals threshold := by
  have scale : (0 : ℚ) < 10 ^ exponentR sdrvals := zpow_pos (by norm_num) _
  have factor : (factorM sdrvals : ℚ) < 0 := Int.cast_lt_zero.mpr negative
  rw [linearLaw, linearLaw, mul_lt_mul_iff_left₀ scale, add_lt_add_iff_right,
    mul_lt_mul_left_of_neg factor, Int.cast_lt]

end Conversion

section Records

variable {sdrvals : List UInt8} {sensor : SensorRecord}

/-- The raw thresholds of a record with the converted ones. -/
def SensorRecord.thresholds (sensor : SensorRecord) : List (UInt8 × ℚ) :=
  [(sensor.upperNonrecThreshold, sensor.convertedUpperNonrecThreshold),
    (sensor.lowerNonrecThreshold, sensor.convertedLowerNonrecThreshold),
    (sensor.upperCriticalThreshold, sensor.convertedUpperCriticalThreshold),
    (sensor.lowerCriticalThreshold, sensor.convertedLowerCriticalThreshold),
    (sensor.upperNoncriticalThreshold, sensor.convertedUpperNoncriticalThreshold),
    (sensor.lowerNoncriticalThreshold, sensor.convertedLowerNoncriticalThreshold)]

/-- The sensor converts by the factors of the full record, and has converted its reading and its
thresholds. -/
structure Converted [Libm] (sdrvals : List UInt8) (sensor : SensorRecord) : Prop where
  factors : ∀ reading, sensor.convert reading =
    convertSensorReading (sdrByte sdrvals 15) (sdrByte sdrvals 18) (sdrByte sdrvals 19)
      (sdrByte sdrvals 20) (sdrByte sdrvals 21) (sdrByte sdrvals 22) (sdrByte sdrvals 24 >>> 4)
      (sdrByte sdrvals 24 &&& 0x0f) reading
  reading : sensor.readingConverted = sensor.convert sensor.rawReading
  thresholds : ∀ threshold ∈ sensor.thresholds, threshold.2 = sensor.convert threshold.1

/-- A reading keeps the factors and the thresholds. -/
theorem Converted.publish [Libm] (converted : Converted sdrvals sensor) (raw : UInt8) :
    Converted sdrvals (sensor.publish raw) where
  factors := converted.factors
  reading := rfl
  thresholds := converted.thresholds

/-- The value of the published object is the converted reading. -/
def SensorRecord.ShowsReading (sensor : SensorRecord) : Prop :=
  ∀ iface, sensor.sensorIface = some iface → iface.value = sensor.readingConverted

theorem publish_shows [Libm] (sensor : SensorRecord) (raw : UInt8) :
    (sensor.publish raw).ShowsReading := by
  intro iface published
  obtain ⟨before, -, rfl⟩ := publish_iface published
  rfl

/-- A record replaces the first record of a number or is added behind the others. -/
theorem stored_mem (device : Vita4611Device) (number : UInt8) (record : SensorRecord) :
    record ∈ (if device.isSensorDiscovered number then
        device.updateSensor number fun _ => record
      else device.pushSensor record).fruinfo.sensors := by
  split_ifs with discovered
  · have bound := List.findIdx_lt_length_of_exists (List.any_eq_true.mp discovered)
    have replaced := List.getElem?_modify_eq (fun _ => record)
      (device.fruinfo.sensors.findIdx fun sensor => sensor.sensorNumber == number)
      device.fruinfo.sensors
    rw [List.getElem?_eq_getElem bound] at replaced
    exact List.mem_of_getElem? replaced
  · exact List.mem_append_right _ (List.mem_singleton_self record)

/-- A record with the factors of a full record converts by them. -/
theorem convert_factors [Libm] (units : sensor.sensorUnits1 = sdrByte sdrvals 15)
    (linearization : sensor.sensorLinearization = sdrByte sdrvals 18)
    (m : sensor.sensorM = sdrByte sdrvals 19) (mtol : sensor.sensorMtol = sdrByte sdrvals 20)
    (b : sensor.sensorB = sdrByte sdrvals 21) (bacc : sensor.sensorBacc = sdrByte sdrvals 22)
    (rExp : sensor.rExp = sdrByte sdrvals 24 >>> 4)
    (bExp : sensor.bExp = sdrByte sdrvals 24 &&& 0x0f) (reading : UInt8) :
    sensor.convert reading =
      convertSensorReading (sdrByte sdrvals 15) (sdrByte sdrvals 18) (sdrByte sdrvals 19)
        (sdrByte sdrvals 20) (sdrByte sdrvals 21) (sdrByte sdrvals 22) (sdrByte sdrvals 24 >>> 4)
        (sdrByte sdrvals 24 &&& 0x0f) reading := by
  rw [SensorRecord.convert, units, linearization, m, mtol, b, bacc, rExp, bExp]

/-- A full record that is handled is stored with its converted thresholds. -/
theorem handleFullSdr_converted [Libm] (sdrheader sdrvals : List UInt8)
    (device : Vita4611Device) (environment : Environment interface) (position : Nat)
    (returned : ((Vita4611Device.handleFullSdr sdrheader sdrvals).run environment device
      position).outcome = .value ()) :
    ∃ sensor ∈ ((Vita4611Device.handleFullSdr sdrheader sdrvals).run environment device
      position).state.fruinfo.sensors, sensor.sensorNumber = sdrByte sdrvals 2 ∧
        Converted sdrvals sensor := by
  have stores : (Vita4611Device.handleFullSdr sdrheader sdrvals).pre (fun _ _ => True)
      ⟨fun _ after => ∃ sensor ∈ after.fruinfo.sensors, sensor.sensorNumber = sdrByte sdrvals 2 ∧
        Converted sdrvals sensor, fun _ _ => True, fun _ _ => True⟩ device := by
    rw [Vita4611Device.handleFullSdr, pre_bind, pre_payloadByte]
    split_ifs
    · dsimp only
      rw [pre_bind, pre_payloadRange]
      split_ifs
      · refine ⟨trivial, fun junk => ?_⟩
        refine ⟨_, stored_mem device _ _, ?_⟩
        refine ⟨rfl, convert_factors rfl rfl rfl rfl rfl rfl rfl rfl, rfl, ?_⟩
        intro threshold member
        simp only [SensorRecord.thresholds, List.mem_cons, List.not_mem_nil, or_false] at member
        rcases member with rfl | rfl | rfl | rfl | rfl | rfl <;> rfl
      · trivial
    · trivial
  have ended := (pre_sound _ environment device position stores).2
  rw [returned] at ended
  exact ended

/-- A poll of the readings leaves a converted sensor converted and shows its reading. -/
theorem polled_converted [Libm] {device after : Vita4611Device}
    {environment : Environment interface} {index : Nat}
    (taken : device.polled (.readings environment) = some after)
    (stored : device.fruinfo.sensors[index]? = some sensor)
    (converted : Converted sdrvals sensor) :
    ∃ read, after.fruinfo.sensors[index]? = some read ∧ Converted sdrvals read ∧
      read.rawReading = device.polledReading environment index sensor ∧ read.ShowsReading := by
  obtain ⟨rfl, running⟩ := polled_eq_some taken
  have published : (DevicePoll.run device (.readings environment)).state.fruinfo.sensors[index]? =
    _ := run_getAllSensorReadings environment device running index
  rw [stored, Option.map_some] at published
  exact ⟨_, published, converted.publish _, rfl, publish_shows sensor _⟩

/-- The reading of a converted sensor passes a threshold when its decoded raw byte passes the decoded
raw threshold in the direction of the multiplier. -/
theorem Converted.passes_iff [Libm] (converted : Converted sdrvals sensor)
    (linear : Linear sdrvals) {threshold : UInt8 × ℚ} (member : threshold ∈ sensor.thresholds) :
    (0 < factorM sdrvals → (sensor.readingConverted > threshold.2 ↔
        rawValue sdrvals sensor.rawReading > rawValue sdrvals threshold.1)) ∧
      (factorM sdrvals < 0 → (sensor.readingConverted > threshold.2 ↔
        rawValue sdrvals sensor.rawReading < rawValue sdrvals threshold.1)) := by
  rw [converted.reading, converted.thresholds threshold member, converted.factors,
    converted.factors, convertSensorReading_linear linear, convertSensorReading_linear linear]
  exact ⟨fun positive => linearLaw_lt_iff positive _ _, fun negative => linearLaw_gt_iff negative _ _⟩

end Records

/-- The conversion of a linear full record is its law, its sensor is stored and polled with converted
values, and these compare as the decoded raw bytes do. -/
theorem sensorConversion_linear [Libm] {sdrvals : List UInt8} (linear : Linear sdrvals) :
    (∀ reading, convertSensorReading (sdrByte sdrvals 15) (sdrByte sdrvals 18) (sdrByte sdrvals 19)
      (sdrByte sdrvals 20) (sdrByte sdrvals 21) (sdrByte sdrvals 22) (sdrByte sdrvals 24 >>> 4)
      (sdrByte sdrvals 24 &&& 0x0f) reading = linearLaw sdrvals reading) ∧
    (∀ sdrheader device environment position,
      ((Vita4611Device.handleFullSdr sdrheader sdrvals).run environment device position).outcome =
          .value () →
        ∃ sensor ∈ ((Vita4611Device.handleFullSdr sdrheader sdrvals).run environment device
          position).state.fruinfo.sensors, sensor.sensorNumber = sdrByte sdrvals 2 ∧
            Converted sdrvals sensor) ∧
    (∀ (device after : Vita4611Device) environment index sensor,
      device.polled (.readings environment) = some after →
        device.fruinfo.sensors[index]? = some sensor → Converted sdrvals sensor →
          ∃ read, after.fruinfo.sensors[index]? = some read ∧ Converted sdrvals read ∧
            read.rawReading = device.polledReading environment index sensor ∧
            read.ShowsReading) ∧
    ∀ sensor, Converted sdrvals sensor → ∀ threshold ∈ sensor.thresholds,
      (0 < factorM sdrvals → (sensor.readingConverted > threshold.2 ↔
        rawValue sdrvals sensor.rawReading > rawValue sdrvals threshold.1)) ∧
      (factorM sdrvals < 0 → (sensor.readingConverted > threshold.2 ↔
        rawValue sdrvals sensor.rawReading < rawValue sdrvals threshold.1)) :=
  ⟨convertSensorReading_linear linear,
    fun sdrheader device environment position =>
      handleFullSdr_converted sdrheader sdrvals device environment position,
    fun _ _ _ _ _ taken stored converted => polled_converted taken stored converted,
    fun _ converted _ member => converted.passes_iff linear member⟩

/-- A two's complement sensor with the multiplier 2, the offset 50 and the result in tenths. -/
def tenthsSdr : List UInt8 :=
  List.replicate 15 0 ++ [0x80, 0x04, 0x00, 0x00, 0x02, 0x00, 0x05, 0x00, 0x00, 0xF1] ++
    List.replicate 18 0

theorem sensorConversion_linear_tenths : Linear tenthsSdr ∧
    @convertSensorReading silentLibm (sdrByte tenthsSdr 15) (sdrByte tenthsSdr 18)
      (sdrByte tenthsSdr 19) (sdrByte tenthsSdr 20) (sdrByte tenthsSdr 21) (sdrByte tenthsSdr 22)
      (sdrByte tenthsSdr 24 >>> 4) (sdrByte tenthsSdr 24 &&& 0x0f) 0xF0 = 9 / 5 := by
  have linear : Linear tenthsSdr := ⟨by decide, by decide⟩
  have value : linearLaw tenthsSdr 0xF0 = 9 / 5 := by decide +kernel
  exact ⟨linear, ((@sensorConversion_linear silentLibm _ linear).1 0xF0).trans value⟩

end Chassis.Vita4611
