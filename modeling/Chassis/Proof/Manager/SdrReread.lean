import Chassis.Proof.Manager.SdrCache

namespace Chassis.Vita4611
open Effect Program

section Table

variable {record : SdrRecord} {table : List Attachment}

/-- Stripping the first attachment with a number changes nothing when it is stripped already. -/
theorem modify_bare_eq_self_iff {number : UInt8} {attachment : Attachment}
    (found : table.find? (fun attachment => attachment.sensorNumber == number) =
      some attachment) :
    table.modify (table.findIdx fun attachment => attachment.sensorNumber == number)
        (fun _ => .bare number) = table ↔
      attachment.sensorType = .unknown ∧ attachment.sensorIface = none := by
  have first := found
  rw [List.find?_eq_getElem?_findIdx] at first
  have matched := List.find?_some found
  have same : attachment.sensorNumber = number := eq_of_beq matched
  constructor
  · intro unchanged
    have entry := congrArg
      (·[table.findIdx fun attachment => attachment.sensorNumber == number]?) unchanged
    rw [List.getElem?_modify_eq, first] at entry
    have stripped : Attachment.bare number = attachment := Option.some.inj entry
    rw [← stripped]
    exact ⟨rfl, rfl⟩
  · rintro ⟨role, object⟩
    have bare : Attachment.bare number = attachment := by
      rw [Attachment.bare, ← same, ← role, ← object]
    apply List.ext_getElem?
    intro index
    rw [List.getElem?_modify]
    split
    next own =>
      rw [← own, first, bare]
      rfl
    next => simp

/-- A sensor record leaves the table alone exactly when it is harmless. -/
theorem attach_eq_self_iff (sensor : record.isSensor) :
    record.attach table = table ↔ record.Harmless table := by
  unfold SdrRecord.attach SdrRecord.Harmless
  rw [if_pos sensor]
  split
  next discovered =>
    obtain ⟨attachment, found⟩ := Option.isSome_iff_exists.mp
      (List.find?_isSome.mpr (List.any_eq_true.mp discovered))
    by_cases full : record.recordType = 1
    · rw [if_pos full, modify_bare_eq_self_iff found]
      constructor
      · intro stripped
        exact ⟨attachment, found, fun _ => stripped⟩
      · rintro ⟨other, again, stripped⟩
        cases found.symm.trans again
        exact stripped full
    · rw [if_neg full]
      exact ⟨fun _ => ⟨attachment, found, fun absurd => (full absurd).elim⟩, fun _ => rfl⟩
  next absent =>
    constructor
    · intro longer
      have length := congrArg List.length longer
      rw [List.length_append, List.length_singleton] at length
      omega
    · rintro ⟨attachment, found, _⟩
      have matched := List.find?_some found
      exact (absent (List.any_eq_true.mpr
        ⟨attachment, List.mem_of_find?_eq_some found, matched⟩)).elim

end Table

section Reread

variable [Libm] {repository : SdrRepository}

/-- Reading the records again leaves every number, role and published object as it was, whichever
requests fail. -/
def Vita4611Device.KeepsAttachments (device : Vita4611Device) (repository : SdrRepository) : Prop :=
  ∀ environment : Environment interface,
    (∀ position op, Offers repository (fun _ => True) op (environment position op)) →
    let run := Vita4611Device.getAllSdrs.run environment device 0
    (∀ reason, run.outcome ≠ .fault reason) → run.state.attachments = device.attachments

/-- The loop asks for the records with these identifiers. -/
structure SdrRecord.Reached (record : SdrRecord) (total : UInt8) : Prop where
  high : record.recordId.2 = 0
  low : record.recordId.1 < total

/-- The loop keeps a table that every record it reads is harmless to. -/
theorem rely_readSdrs_keeps (table : List Attachment) (resId : UInt8 × UInt8)
    (indices : List UInt8) (harmless : ∀ index ∈ indices, ∀ record,
      repository.find (index, 0) = some record → record.isSensor → record.Complete →
      record.Harmless table)
    (retryCount : Int) (device : Vita4611Device) (initial : device.attachments = table) :
    (Vita4611Device.readSdrs resId indices retryCount).rely (Offers repository fun _ => True)
      ⟨fun _ after => after.attachments = table, fun _ _ => False, fun _ _ => True⟩ device := by
  induction indices generalizing retryCount device with
  | nil => exact initial
  | cons index rest ih =>
      have later := ih fun other member => harmless other (List.mem_cons_of_mem _ member)
      simp only [Vita4611Device.readSdrs, rely_bind, rely_tryCatch, rely_pure]
      apply rely_mono (rely_readSdr (fun _ _ given => given) resId index device)
      · rintro _ after ⟨record, found, _, attached, complete⟩
        apply later
        rw [attached, initial]
        by_cases sensor : record.isSensor
        · exact (attach_eq_self_iff sensor).mpr
            (harmless index List.mem_cons_self record found sensor (complete sensor))
        · rw [SdrRecord.attach, if_neg sensor]
      · rintro _ after ⟨_, rfl⟩
        simp only [if_true, rely_ite, rely_pure]
        split_ifs
        · exact initial
        · exact later (retryCount + 1) after initial
      · exact fun _ _ _ => trivial

/-- The repository with a single record. -/
def SdrRepository.single (record : SdrRecord) : SdrRepository := ⟨[record], List.nodup_singleton _⟩

/-- Only one record is answered, the repository is reserved, and no failure stops the loop. -/
def Singles (record : SdrRecord) : (op : Op) → op.Answer → Prop
  | .sendRequest arguments, answer =>
      (arguments.cmd = ipmitoolCmdReserveSdrRepo → Pays answer [1, 0]) ∧
        Offers (.single record) (· ≠ record.recordId.1) (.sendRequest arguments) answer
  | .indeterminate, junk => junk.retryCount = -256
  | _, _ => True

omit [Libm] in
theorem singles_offers {record : SdrRecord} (op : Op) (answer : op.Answer)
    (given : Singles record op answer) :
    Offers (.single record) (· ≠ record.recordId.1) op answer := by
  cases op with
  | sendRequest arguments => exact given.2
  | _ => trivial

omit [Libm] in
theorem find_single {record other : SdrRecord} {identifier : UInt8 × UInt8}
    (found : (SdrRepository.single record).find identifier = some other) :
    record.recordId = identifier ∧ other = record := by
  have member := List.mem_of_find?_eq_some found
  have same : other = record := List.mem_singleton.mp member
  have matched := List.find?_some found
  rw [same] at matched
  exact ⟨eq_of_beq matched, same⟩

/-- The loop attaches the one record that is answered when it reaches it. -/
theorem rely_readSdrs_single {record : SdrRecord} (complete : record.Complete)
    (resId : UInt8 × UInt8) (indices : List UInt8)
    (distinct : indices.Nodup) (retryCount : Int) (few : retryCount + indices.length ≤ 2)
    (device : Vita4611Device) :
    (Vita4611Device.readSdrs resId indices retryCount).rely (Singles record)
      (.returns fun _ after => after.attachments =
        if record.recordId.1 ∈ indices then record.attach device.attachments
        else device.attachments) device := by
  induction indices generalizing retryCount device with
  | nil => exact (if_neg List.not_mem_nil).symm
  | cons index rest ih =>
      obtain ⟨fresh, distinct⟩ := List.nodup_cons.mp distinct
      rw [List.length_cons] at few
      simp only [Vita4611Device.readSdrs, rely_bind, rely_tryCatch, rely_pure]
      apply rely_mono (rely_readSdr singles_offers resId index device)
      · rintro _ after ⟨other, found, _, attached, _⟩
        obtain ⟨identifier, rfl⟩ := find_single found
        have own : other.recordId.1 = index := congrArg Prod.fst identifier
        apply rely_mono (ih distinct retryCount (by omega) after)
        · intro _ last kept
          rw [if_neg (own ▸ fresh), attached] at kept
          rw [if_pos (own ▸ List.mem_cons_self)]
          exact kept
        · exact fun _ _ never => never
        · exact fun _ _ never => never
      · rintro _ after ⟨other, rfl⟩
        have running : ¬ retryCount ≥ 3 := by omega
        simp only [if_true, if_neg running]
        apply rely_mono (ih distinct (retryCount + 1) (by omega) after)
        · intro _ last kept
          change last.attachments = _
          rw [kept]
          congr 1
          rw [List.mem_cons, eq_iff_iff]
          exact ⟨.inr, fun found => found.resolve_left (Ne.symm other)⟩
        · exact fun _ _ never => never
        · exact fun _ _ never => never
      · rintro _ _ ⟨other, found, _, incomplete⟩
        obtain ⟨_, rfl⟩ := find_single found
        exact incomplete complete

/-- The reservation succeeds, so the loop runs over all identifiers. -/
theorem rely_getAllSdrs_single {record : SdrRecord} (complete : record.Complete)
    (device : Vita4611Device) (low : record.recordId.1 < device.deviceRecordTotal) :
    Vita4611Device.getAllSdrs.rely (Singles record)
      (.returns fun _ after => after.attachments = record.attach device.attachments) device := by
  have member := mem_indices low
  have few : ((List.range device.deviceRecordTotal.toNat).map UInt8.ofNat).length ≤ 255 := by
    rw [List.length_map, List.length_range]
    exact Nat.le_of_lt_succ device.deviceRecordTotal.toNat_lt
  simp only [Vita4611Device.getAllSdrs, Vita4611Device.reserveSdrRepo, rely_bind, rely_read]
  intro answer given
  obtain ⟨result, reply, data⟩ := readReply_pays (given.1 rfl)
  change Program.rely _ (optionalValue (readReply answer).1) _ _
  rw [reply]
  change Program.rely _ (payloadByte result.data 0) _ _
  rw [data]
  intro junk retries
  change junk.retryCount = -256 at retries
  have distinct := (indices_sorted device.deviceRecordTotal).imp fun less => UInt8.ne_of_lt less
  apply rely_mono (rely_readSdrs_single complete (1, 0) _ distinct junk.retryCount (by omega) device)
  · intro _ after attached
    rw [if_pos member] at attached
    exact attached
  · exact fun _ _ never => never
  · exact fun _ _ never => never

/-- A device that answers for one record only, while the retry counter starts far below. -/
def singleEnvironment (record : SdrRecord) : Environment interface := fun _ op =>
  match op with
  | .sendRequest arguments => (SdrRepository.single record).serve [] arguments
  | .indeterminate => { (default : Indeterminate) with retryCount := -256 }
  | op => (default : op.Answer)

omit [Libm] in
theorem serve_single (record : SdrRecord) {arguments : Ipmb.SendRequest}
    {first second index offset count : UInt8} (asks : arguments.cmd = ipmitoolCmdGetSdr)
    (data : arguments.dataReceived = [first, second, index, 0, offset, count]) :
    record.recordId = (index, 0) ∧
        Pays ((SdrRepository.single record).serve [] arguments) (record.read offset count) ∨
      record.recordId ≠ (index, 0) ∧
        Fails ((SdrRepository.single record).serve [] arguments) := by
  rcases @serve_getSdr (.single record) [] arguments asks with
    ⟨bytes, found, pays⟩ | ⟨absent, fails⟩
  · rw [data] at found
    obtain ⟨other, present, rfl⟩ := Option.map_eq_some_iff.mp found
    obtain ⟨identifier, rfl⟩ := find_single present
    exact .inl ⟨identifier, pays⟩
  · rw [data] at absent
    refine .inr ⟨?_, fails⟩
    intro identifier
    have found := List.find?_eq_none.mp (Option.map_eq_none_iff.mp absent) record
      List.mem_cons_self
    exact found (beq_iff_eq.mpr identifier)

omit [Libm] in
theorem singleEnvironment_singles {record : SdrRecord} (high : record.recordId.2 = 0)
    (position : Nat) (op : Op) : Singles record op (singleEnvironment record position op) := by
  cases op with
  | sendRequest arguments =>
      constructor
      · intro reserve
        have info : arguments.cmd ≠ ipmitoolCmdGetSdrInfo := by
          rw [reserve]
          decide
        exact ⟨_, (if_neg info).trans (if_pos reserve), rfl, rfl⟩
      · intro asks first second index offset count data
        rcases serve_single record asks data with
          ⟨identifier, pays⟩ | ⟨different, fails⟩
        · refine .inl ⟨record, ?_, pays⟩
          exact List.find?_cons_of_pos (beq_iff_eq.mpr identifier)
        · refine .inr ⟨fails, ?_⟩
          intro own
          exact different (Prod.ext own.symm high)
  | indeterminate => rfl
  | _ => trivial

omit [Libm] in
/-- The single record is offered as any repository with it does, and the other requests fail. -/
theorem singleEnvironment_offers {record : SdrRecord} (member : record ∈ repository.records)
    (position : Nat) (op : Op) :
    Offers repository (fun _ => True) op (singleEnvironment record position op) := by
  cases op with
  | sendRequest arguments =>
      intro asks first second index offset count data
      rcases serve_single record asks data with ⟨identifier, pays⟩ | ⟨_, fails⟩
      · obtain ⟨other, found⟩ : ∃ other, repository.find (index, 0) = some other :=
          Option.isSome_iff_exists.mp
            (List.find?_isSome.mpr ⟨record, member, beq_iff_eq.mpr identifier⟩)
        cases find_eq_some found member identifier
        exact .inl ⟨record, found, pays⟩
      · exact .inr ⟨fails, trivial⟩
  | _ => trivial

/-- A device that keeps what is attached to its sensors does so when the record is the only one. -/
theorem harmless_of_keeps {device : Vita4611Device} {repository : SdrRepository}
    {record : SdrRecord} (keeps : device.KeepsAttachments repository)
    (member : record ∈ repository.records) (reached : record.Reached device.deviceRecordTotal)
    (sensor : record.isSensor) (complete : record.Complete) :
    record.Harmless device.attachments := by
  have ended := rely_sound _ (singleEnvironment record) device 0
    (rely_getAllSdrs_single complete device reached.low)
    (calls_assumed _ (singleEnvironment_singles reached.high) _ _)
  have kept := keeps (singleEnvironment record) (singleEnvironment_offers member)
  dsimp only at kept
  revert ended kept
  rcases Vita4611Device.getAllSdrs.run (singleEnvironment record) device 0 with
    ⟨_ | _ | reason, after, calls⟩
  · intro attached kept
    rw [← attach_eq_self_iff sensor]
    exact attached.symm.trans (kept nofun)
  · exact fun never _ => never.elim
  · exact fun never _ => never.elim

omit [Libm] in
/-- A record that answers for an index of the loop is one that the loop reaches. -/
theorem reached_of_find {device : Vita4611Device} {repository : SdrRepository} {index : UInt8}
    {record : SdrRecord}
    (asked : index ∈ (List.range device.deviceRecordTotal.toNat).map UInt8.ofNat)
    (found : repository.find (index, 0) = some record) :
    record.Reached device.deviceRecordTotal := by
  have matched := List.find?_some found
  have identifier : record.recordId = (index, 0) := eq_of_beq matched
  obtain ⟨count, below, rfl⟩ := List.mem_map.mp asked
  rw [List.mem_range] at below
  constructor
  · rw [identifier]
  · have bound := device.deviceRecordTotal.toNat_lt
    rw [identifier, UInt8.lt_iff_toNat_lt, UInt8.toNat_ofNat_of_lt' (by change _ < 256; omega)]
    exact below

/-- Harmless records leave alone what is attached to the sensors. -/
theorem rely_getAllSdrs_keeps {device : Vita4611Device} {repository : SdrRepository}
    (harmless : ∀ record ∈ repository.records, record.Reached device.deviceRecordTotal →
      record.isSensor → record.Complete → record.Harmless device.attachments) :
    Vita4611Device.getAllSdrs.rely (Offers repository fun _ => True)
      ⟨fun _ after => after.attachments = device.attachments,
        fun _ after => after.attachments = device.attachments, fun _ _ => True⟩ device := by
  simp only [Vita4611Device.getAllSdrs, rely_bind]
  apply rely_reserveSdrRepo
  · intro resId
    apply rely_indeterminate
    intro junk
    apply rely_mono (rely_readSdrs_keeps device.attachments resId _ _ junk.retryCount device rfl)
    · exact fun _ _ kept => kept
    · exact fun _ _ never => never.elim
    · exact fun _ _ _ => trivial
    · intro index asked record found sensor complete
      exact harmless record (List.mem_of_find?_eq_some found) (reached_of_find asked found) sensor
        complete
  · exact fun _ => rfl
  · exact fun _ => trivial

/-- Reading the records again keeps what is attached to the sensors exactly when every complete
sensor record that the loop reaches is harmless. -/
theorem keepsAttachments_iff (device : Vita4611Device) (repository : SdrRepository) :
    device.KeepsAttachments repository ↔
      ∀ record ∈ repository.records, record.Reached device.deviceRecordTotal → record.isSensor →
        record.Complete → record.Harmless device.attachments := by
  constructor
  · intro keeps record member reached sensor complete
    exact harmless_of_keeps keeps member reached sensor complete
  · intro harmless environment offers run running
    have ended := rely_sound _ environment device 0 (rely_getAllSdrs_keeps harmless)
      (calls_assumed _ offers _ _)
    revert ended running
    change (∀ reason, run.outcome ≠ _) → Post.holds _ run.outcome run.state →
      run.state.attachments = _
    rcases run with ⟨_ | _ | reason, after, calls⟩
    · exact fun _ kept => kept
    · exact fun _ kept => kept
    · exact fun running _ => (running reason rfl).elim

end Reread

/-- A full record of a temperature sensor with a name of one byte. -/
def temperatureRecord (recordId sensorNumber : UInt8) : SdrRecord where
  recordId := (recordId, 0)
  nextRecordId := (recordId + 1, 0)
  sdrVersion := 0x51
  recordType := 1
  body := [0x82, 0, sensorNumber] ++ List.replicate 13 0 ++ [1, 0, 0, 1] ++
    List.replicate 12 0 ++ [100] ++ List.replicate 9 0 ++ [0xC1, 0x54]
  short := by simp

def temperatureRepository : SdrRepository := ⟨[temperatureRecord 0 5], by decide⟩

/-- One module is present at address `0x41` and serves a repository with one temperature sensor. -/
def temperatureModule : Environment interface := fun _ op =>
  match op with
  | .sendRequest arguments =>
      let pay (data : List UInt8) : DBusReply :=
        .reply ⟨0, arguments.netfn, 0, arguments.cmd, 0, data⟩
      if arguments.cmd = ipmitoolCmdGetSdr then temperatureRepository.serve [] arguments
      else if arguments.netfn = netfnApp then pay []
      else if arguments.netfn = netfnVita4611 then
        if arguments.cmd = vita4611GetVsoCapsCmd then pay [3, 0, 0, 0, 0, 0, 0] else .methodError
      else if arguments.netfn = netfnStorage then pay [0, 1]
      else if arguments.cmd = ipmiGetSensorReadingCmd then pay [25]
      else temperatureRepository.serve [] arguments
  | .openBus => true
  | .selectAddress _ => true
  | .probe addr => addr == (0x41 : UInt8)
  | .createSensorObject _ => true
  | op => (default : op.Answer)

def temperatureManager : ChassisManager :=
  (@ChassisManager.construct silentLibm |>.run temperatureModule .blank 0).state

theorem temperatureModule_offers (position : Nat) (op : Op) :
    Offers temperatureRepository (fun _ => True) op (temperatureModule position op) := by
  cases op with
  | sendRequest arguments =>
      intro asks first second index offset count data
      have served : temperatureModule position (.sendRequest arguments) =
          temperatureRepository.serve [] arguments := if_pos asks
      rw [served]
      rcases @serve_getSdr temperatureRepository [] arguments asks with
        ⟨bytes, found, pays⟩ | ⟨_, fails⟩
      · rw [data] at found
        obtain ⟨record, present, rfl⟩ := Option.map_eq_some_iff.mp found
        exact .inl ⟨record, present, pays⟩
      · exact .inr ⟨fails, trivial⟩
  | _ => trivial

/-- The module is found under the first key. -/
def temperatureDevice : Vita4611Device := ((temperatureManager.deviceMap 1).getD none).getD default

/-- The object that was published for the temperature sensor is lost when its record is read
again. -/
theorem keepsAttachments_fails :
    ¬ ∀ (repository : SdrRepository) (environment : Environment interface),
      (∀ position op, Offers repository (fun _ => True) op (environment position op)) →
      let run := (@ChassisManager.construct silentLibm).run environment .blank 0
      run.outcome = .value () → ∀ key device, run.state.deviceMap key = some (some device) →
        @Vita4611Device.KeepsAttachments silentLibm device repository := by
  let _ := silentLibm
  intro claim
  have present : temperatureManager.deviceMap 1 = some (some temperatureDevice) := by
    decide +kernel
  unfold temperatureManager at present
  have keeps := claim temperatureRepository temperatureModule temperatureModule_offers
    (by decide +kernel) 1 temperatureDevice present
  have kept := keeps temperatureModule temperatureModule_offers
  dsimp only at kept
  have returned : (Vita4611Device.getAllSdrs.run temperatureModule temperatureDevice 0).outcome =
      .value () := by decide +kernel
  have lost :
      (Vita4611Device.getAllSdrs.run temperatureModule temperatureDevice 0).state.attachments ≠
        temperatureDevice.attachments := by decide +kernel
  rw [returned] at kept
  exact lost (kept nofun)

end Chassis.Vita4611
