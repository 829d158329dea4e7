import Chassis.Proof.Manager.PayloadBounds
import Chassis.Proof.Memory.Records

namespace Chassis.Vita4611
open Effect Program

section Sensors

variable {known : Known} {told : Told} {addr : UInt8} {numbered policed : Bool}
  {thrown : Known → Vita4611Device → Vita4611Device → Prop}

/-- A mandatory sensor starts with uninitialised factors and without an object. -/
theorem addMandatorySensor_lockstep (junk junk' : SensorRecord) (payload : List UInt8)
    (role : Nat × Vita4611FruSensorType) :
    Lockstep memoryWatch (Stay known (DeviceAlike numbered policed told addr)) thrown Eq
      (Vita4611Device.addMandatorySensor junk payload role)
      (Vita4611Device.addMandatorySensor junk' payload role) := by
  apply lockstep_bind (payloadByte_lockstep _ _)
  rintro number _ rfl
  apply lockstep_modify
  rintro _ device device' ⟨rfl, alike⟩
  have listed : DeviceAlike numbered policed told addr
      { device with mandatorySensorNumbers := device.mandatorySensorNumbers ++ [number] }
      { device' with mandatorySensorNumbers := device'.mandatorySensorNumbers ++ [number] } :=
    { alike with }
  exact ⟨rfl, listed.pushSensor ⟨rfl, rfl, rfl, rfl, fun published =>
    absurd published Bool.false_ne_true⟩⟩

/-- The enumeration of a FRU goes on as the answer for its mandatory sensors says. -/
theorem addMandatorySensors_lockstep (fru : UInt8) (answer : DBusReply) :
    Lockstep memoryWatch (Stay known (DeviceAlike numbered policed told addr)) thrown
      (fun own own' => own = own' ∧ own = answer.own)
      (Vita4611Device.addMandatorySensors fru (readReply answer).1)
      (Vita4611Device.addMandatorySensors fru (readReply answer).1) := by
  unfold DBusReply.own
  cases (readReply answer).1 with
  | none => exact lockstep_pure ⟨rfl, rfl⟩
  | some response =>
      apply lockstep_bind (payloadByte_value _ _)
      rintro identifier _ ⟨rfl, rfl⟩
      apply lockstep_ite
      · intro foreign
        exact lockstep_pure ⟨rfl, (beq_eq_false_iff_ne.mpr foreign).symm⟩
      · intro own
        apply lockstep_bind indeterminate_lockstep
        intro junk junk' _
        apply lockstep_bind
        · apply lockstep_modify
          rintro _ device device' ⟨rfl, alike⟩
          exact ⟨rfl, { alike with }⟩
        · intro _ _ _
          apply lockstep_bind (lockstep_forEach fun role _ =>
            addMandatorySensor_lockstep junk.sensor junk'.sensor response.data role)
          intro _ _ _
          exact lockstep_pure ⟨rfl, (beq_iff_eq.mpr (not_not.mp own)).symm⟩

/-- Storing a byte of an answer makes a field the same in both runs. -/
theorem updateFromInfo_twin {after : Vita4611Device → Vita4611Device → Prop} (answer : DBusReply)
    (update : UInt8 → Vita4611Device → Vita4611Device) {device device' : Vita4611Device}
    (missing : answer.paid = false → after device device')
    (stored : ∀ byte, after (update byte device) (update byte device')) :
    twin memoryWatch (Vita4611Device.updateFromInfo (readReply answer).1 update)
      (Vita4611Device.updateFromInfo (readReply answer).1 update)
      ⟨fun now _ _ device device' => now = known ∧ after device device', lost⟩ known device
      device' := by
  unfold DBusReply.paid at missing
  cases found : (readReply answer).1 with
  | none =>
      rw [found] at missing
      exact twin_pure ⟨rfl, missing rfl⟩
  | some info =>
      have start : Stay known (These device device') known device device' := ⟨rfl, rfl, rfl⟩
      refine (payloadByte_lockstep info.data 1).bind start ?_
      rintro _ byte _ _ _ rfl ⟨rfl, rfl, rfl⟩
      exact twin_modify ⟨rfl, stored byte⟩

end Sensors

section Enumeration

/-- The three answers for a FRU. -/
structure FruAnswers where
  numbers : DBusReply
  info : DBusReply
  repository : DBusReply

/-- The three answers tell whether the two counts are stored. -/
def FruAnswers.told (answers : FruAnswers) (told : Told) : Told :=
  { told with
    own := answers.numbers.own
    counted := told.counted || (answers.numbers.own && answers.repository.paid)
    dynamic := told.dynamic || (answers.numbers.own && answers.info.paid) }

variable [Libm] {origin : Known} {addr : UInt8} (starts : origin.phase = .starting)
include starts

omit [Libm] in
/-- A device hears the answers to its own requests. -/
theorem observe_own {channel netfn lun cmd : UInt8} {data : List UInt8} (told : Told)
    (answer : DBusReply) :
    (origin.put addr told).observe (.sendRequest ⟨channel, addr, netfn, lun, cmd, data⟩) answer =
      origin.put addr (told.hear ⟨channel, addr, netfn, lun, cmd, data⟩ answer) := by
  have known := origin.observe_put told ⟨channel, addr, netfn, lun, cmd, data⟩ answer
  rwa [Known.hear, if_pos starts] at known

/-- The answers of an accepted FRU are stored, and those of a skipped one are not. -/
theorem readFruAnswers_twin (fru : UInt8) (answers : FruAnswers) {told : Told}
    {device device' : Vita4611Device} (alike : DeviceAlike false false told addr device device') :
    twin memoryWatch
      (readFruAnswers fru (readReply answers.numbers).1 (readReply answers.info).1
        (readReply answers.repository).1)
      (readFruAnswers fru (readReply answers.numbers).1 (readReply answers.info).1
        (readReply answers.repository).1)
      ⟨fun known value value' first second => value = value' ∧
        Reading false false origin addr known first second, lost⟩
      (origin.put addr (answers.told told)) device device' := by
  have past {told : Told} : origin.phase ≠ .starting → told = origin.told addr :=
    fun other => (other starts).elim
  refine (addMandatorySensors_lockstep fru answers.numbers).bind ⟨rfl, alike⟩ ?_
  rintro _ own _ device device' ⟨rfl, accepted⟩ ⟨rfl, alike⟩
  cases own with
  | false =>
      refine twin_pure ⟨rfl, _, rfl, past, alike.weaken (fun _ => id) ?_ ?_⟩
      · simp [FruAnswers.told, ← accepted]
      · simp [FruAnswers.told, ← accepted]
  | true =>
      let counting : Told := { told with counted := (answers.told told).counted }
      have counted : twin memoryWatch _ _
          ⟨fun now _ _ device device' => now = origin.put addr (answers.told told) ∧
            DeviceAlike false false counting addr device device', lost⟩
          (origin.put addr (answers.told told)) device device' :=
        updateFromInfo_twin answers.repository
          (fun numRecords device => { device with deviceRecordTotal := numRecords })
          (fun missing => alike.weaken (fun _ => id)
            (by simp [counting, FruAnswers.told, missing]) id)
          fun _ => { alike with counted := fun _ => rfl }
      apply twin_bind
      refine twin_mono counted ?_ fun _ _ _ _ => trivial
      rintro _ _ _ device device' ⟨rfl, alike⟩
      have stored : twin memoryWatch _ _
          ⟨fun now _ _ device device' => now = origin.put addr (answers.told told) ∧
            DeviceAlike false false (answers.told told) addr device device', lost⟩
          (origin.put addr (answers.told told)) device device' :=
        updateFromInfo_twin answers.info
          (fun flags device => { device with dynamicSensors := flags >>> 7 })
          (fun missing => alike.weaken (fun _ => id) id
            (by simp [counting, FruAnswers.told, missing]))
          fun _ => { alike with dynamic := fun _ => rfl }
      apply twin_bind
      refine twin_mono stored ?_ fun _ _ _ _ => trivial
      rintro _ _ _ device device' ⟨rfl, alike⟩
      exact getAllSdrs_lockstep (.inl starts) _ _ _ ⟨_, rfl, past, alike⟩

/-- The device hears the answers to the three requests in order. -/
theorem enumerateFruSensors_lockstep (fru : UInt8) :
    Lockstep memoryWatch (Reading false false origin addr) lost Eq
      (Vita4611Device.enumerateFruSensors fru addr)
      (Vita4611Device.enumerateFruSensors fru addr) := by
  rintro known device device' ⟨told, rfl, _, alike⟩
  apply twin_bind
  apply twin_sendIpmbRequest
  intro numbers _
  rw [observe_own starts]
  apply twin_bind
  apply twin_sendIpmbRequest
  intro info _
  rw [observe_own starts]
  apply twin_bind
  apply twin_sendIpmbRequest
  intro repository _
  rw [observe_own starts]
  exact readFruAnswers_twin starts fru ⟨numbers, info, repository⟩ alike

theorem discoverFrus_lockstep :
    Lockstep memoryWatch (Reading false false origin addr) lost Eq Vita4611Device.discoverFrus
      Vita4611Device.discoverFrus := by
  apply lockstep_read
  rintro _ device device' ⟨told, rfl, _, alike⟩
  rw [alike.vsocaps, alike.address, alike.address']
  cases device'.vsocaps with
  | none => exact lockstep_fault _
  | some vsocaps =>
      exact lockstep_ite (fun _ => enumerateFruSensors_lockstep starts 0) fun _ =>
        lockstep_forEach fun fru _ => enumerateFruSensors_lockstep starts fru

end Enumeration

section Construction

variable {origin : Known} {addr : UInt8} (starts : origin.phase = .starting)

/-- Both runs agree in a flag of the device that has just been stored. -/
def Flagged (origin : Known) (addr : UInt8) (flag : Vita4611Device → Bool) :
    Known → Vita4611Device → Vita4611Device → Prop :=
  fun known first second => Reading false false origin addr known first second ∧
    flag first = flag second

include starts in
theorem queryDeviceId_twin {known : Known} {device device' : Vita4611Device}
    (reading : Reading false false origin addr known device device') :
    twin memoryWatch (Vita4611Device.queryDeviceId addr) (Vita4611Device.queryDeviceId addr)
      ⟨fun known _ _ => Flagged origin addr Vita4611Device.validDeviceId known, lost⟩ known device
      device' := by
  obtain ⟨told, rfl, past, alike⟩ := reading
  apply twin_bind
  apply twin_sendIpmbRequest
  intro reply _
  rw [observe_own starts]
  rcases readReply reply with ⟨_ | response, cc⟩
  · exact twin_modify ⟨⟨_, rfl, past, { alike with }⟩, rfl⟩
  · exact twin_modify ⟨⟨_, rfl, past, { alike with }⟩, rfl⟩

theorem ofBytes_lockstep {relation thrown : Known → Vita4611Device → Vita4611Device → Prop}
    (data : List UInt8) :
    Lockstep memoryWatch relation thrown Eq (Vita4611Device.VsoCaps.ofBytes data)
      (Vita4611Device.VsoCaps.ofBytes data) := by
  apply lockstep_bind (payloadRange_lockstep _ _ _)
  rintro bytes _ rfl
  exact lockstep_pure rfl

theorem quiet_capabilities : Quiet netfnVita4611 vita4611GetVsoCapsCmd := by
  intro told arguments answer netfn cmd
  rw [Told.hear, netfn, cmd]
  rfl

/-- The request goes to another address, and its answer is not heard. -/
theorem queryVsoCapabilities_twin {known : Known} {device device' : Vita4611Device}
    (reading : Reading false false origin addr known device device') :
    twin memoryWatch Vita4611Device.queryVsoCapabilities Vita4611Device.queryVsoCapabilities
      ⟨fun known _ _ => Flagged origin addr Vita4611Device.isVita4611Device known, lost⟩ known device
      device' := by
  obtain ⟨told, rfl, past, alike⟩ := reading
  apply twin_read
  rw [alike.channel]
  apply twin_bind
  apply twin_sendIpmbRequest
  intro reply _
  rw [observe_quiet _ fun _ => quiet_capabilities]
  rcases readReply reply with ⟨_ | response, cc⟩
  · exact twin_modify ⟨⟨_, rfl, past, { alike with }⟩, rfl⟩
  · apply twin_bind
    apply twin_modify
    have start : Flagged origin addr Vita4611Device.isVita4611Device (origin.put addr told)
        { device with isVita4611Device := true } { device' with isVita4611Device := true } :=
      ⟨⟨_, rfl, past, { alike with }⟩, rfl⟩
    refine (ofBytes_lockstep response.data).bind start ?_
    rintro _ vsocaps _ device device' rfl ⟨⟨told, rfl, past, alike⟩, same⟩
    exact twin_modify ⟨⟨_, rfl, past, { alike with vsocaps := rfl }⟩, same⟩

variable [Libm]
include starts

/-- The two flags of a query are looked at only after they are stored. -/
theorem query_lockstep :
    Lockstep memoryWatch (Reading false false origin addr) lost Eq (Vita4611Device.query addr)
      (Vita4611Device.query addr) := by
  intro known device device' reading
  apply twin_bind
  refine twin_mono (queryDeviceId_twin starts reading) ?_ fun _ _ _ _ => trivial
  rintro known _ _ device device' ⟨reading, valid⟩
  apply twin_read
  rw [valid]
  cases device'.validDeviceId with
  | false => exact twin_pure ⟨rfl, reading⟩
  | true =>
      apply twin_bind
      refine twin_mono (queryVsoCapabilities_twin reading) ?_ fun _ _ _ _ => trivial
      rintro known _ _ device device' ⟨reading, vita⟩
      apply twin_read
      rw [vita]
      cases device'.isVita4611Device with
      | false => exact twin_pure ⟨rfl, reading⟩
      | true => exact discoverFrus_lockstep starts _ _ _ reading

/-- The constructor starts from different contents and with nothing told. -/
theorem construct_twin (fresh : origin.told addr = .nothing) (channel : UInt8)
    (junk junk' : Vita4611Device) :
    twin memoryWatch (Vita4611Device.construct channel addr) (Vita4611Device.construct channel addr)
      ⟨fun known _ _ => Reading false false origin addr known, lost⟩ origin (.blank junk)
      (.blank junk') := by
  apply twin_bind
  apply twin_modify
  refine twin_mono (query_lockstep starts _ _ _ ⟨.nothing, ?_, fun other => (other starts).elim, ?_⟩)
    (fun _ _ _ _ _ ended => ended.2) fun _ _ _ _ => trivial
  · rw [← fresh, Known.put_self]
  · exact {
      address := rfl
      address' := rfl
      cache := rfl
      channel := rfl
      hwAddress := rfl
      siteNumber := rfl
      siteType := rfl
      vsocaps := rfl
      deviceId := fun set => absurd set Bool.false_ne_true
      policy := fun set => absurd set Bool.false_ne_true
      sensors := .nil
      described := fun _ member => absurd member List.not_mem_nil
      counted := fun set => absurd set Bool.false_ne_true
      dynamic := fun set => absurd set Bool.false_ne_true }

end Construction

end Chassis.Vita4611
