import Chassis.Proof.Manager.Outline
import Chassis.Effect.Exact
import Mathlib.Data.List.Nodup

namespace Chassis.Vita4611
open Effect Program

def Vita4611Device.sensorNumbers (device : Vita4611Device) : List UInt8 :=
  device.fruinfo.sensors.map SensorRecord.sensorNumber

/-- No two sensors of the device share a number. -/
def Vita4611Device.Distinct (device : Vita4611Device) : Prop := device.sensorNumbers.Nodup

/-- An answer of the standard names at most six mandatory sensors. -/
def mandatoryNumbers (reply : DBusReply) : List UInt8 :=
  match (readReply reply).1 with
  | some response =>
      if response.data[0]? = some vita4611VsoIdentifier then (response.data.drop 1).take 6 else []
  | none => []

/-- The numbers that a call has brought as an answer to Get Mandatory Sensor Numbers. -/
def answeredNumbers (call : Call interface Vita4611Device) : List UInt8 :=
  match call with
  | ⟨_, .sendRequest arguments, reply⟩ =>
      if arguments.netfn = netfnVita4611 ∧ arguments.cmd = vita4611GetMandatorySensorNumbersCmd then
        mandatoryNumbers reply
      else []
  | _ => []

/-- The answered numbers are distinct, and the device has no sensor with one of them yet. -/
def Fresh (call : Call interface Vita4611Device) : Prop :=
  (answeredNumbers call).Nodup ∧ ∀ number ∈ answeredNumbers call, number ∉ call.state.sensorNumbers

instance (call : Call interface Vita4611Device) : Decidable (Fresh call) :=
  @instDecidableAnd _ _ inferInstance (List.decidableBAll _ _)

/-- A call that brings no numbers is fresh. -/
theorem fresh_of_none {call : Call interface Vita4611Device} (none : answeredNumbers call = []) :
    Fresh call := by
  simp [Fresh, none]

theorem distinct_append_iff (device : Vita4611Device) (reply : DBusReply) {addr : UInt8}
    {payload : List UInt8} :
    (device.sensorNumbers ++ mandatoryNumbers reply).Nodup ↔ device.Distinct ∧
      Fresh ⟨device, .sendRequest ⟨0, addr, netfnVita4611, 0,
        vita4611GetMandatorySensorNumbersCmd, payload⟩, reply⟩ := by
  rw [List.nodup_append', Vita4611Device.Distinct, Fresh, List.disjoint_right]
  rfl

section Update

variable {device : Vita4611Device} {number : UInt8}

/-- An update that keeps the number of the first record with it keeps all numbers. -/
theorem sensorNumbers_updateSensor {update : SensorRecord → SensorRecord}
    (kept : ∀ known, known.sensorNumber = number → (update known).sensorNumber = number) :
    (device.updateSensor number update).sensorNumbers = device.sensorNumbers := by
  apply List.ext_getElem?
  intro index
  change ((device.fruinfo.sensors.modify _ update).map SensorRecord.sensorNumber)[index]? =
    (device.fruinfo.sensors.map SensorRecord.sensorNumber)[index]?
  rw [List.getElem?_map, List.getElem?_map, List.getElem?_modify]
  rcases stored : device.fruinfo.sensors[index]? with _ | known
  · rfl
  · change some (if _ = index then update known else known).sensorNumber = some known.sensorNumber
    split
    · rename_i here
      obtain ⟨inside, same⟩ := List.getElem?_eq_some_iff.mp stored
      subst here
      have matched := eq_of_beq (List.findIdx_getElem (w := inside))
      rw [same] at matched
      rw [kept known matched, matched]
    · rfl

/-- A stored record neither makes nor removes a shared number. -/
theorem distinct_store {update : SensorRecord → SensorRecord} {sensor : SensorRecord}
    (kept : ∀ known, known.sensorNumber = number → (update known).sensorNumber = number)
    (added : sensor.sensorNumber = number) :
    (if device.isSensorDiscovered number then device.updateSensor number update
      else device.pushSensor sensor).Distinct ↔ device.Distinct := by
  split
  · rw [Vita4611Device.Distinct, sensorNumbers_updateSensor kept, Vita4611Device.Distinct]
  · rename_i missing
    have absent : number ∉ device.sensorNumbers := by
      intro member
      obtain ⟨known, stored, same⟩ := List.mem_map.mp member
      exact missing (List.any_eq_true.mpr ⟨known, stored, by simpa using same⟩)
    have pushed : (device.pushSensor sensor).sensorNumbers = device.sensorNumbers ++ [number] := by
      rw [← added]
      exact List.map_append
    rw [Vita4611Device.Distinct, pushed, Vita4611Device.Distinct, ← List.concat_eq_append,
      List.nodup_concat]
    exact and_iff_right absent

end Update

section Records

variable {good : Call interface Vita4611Device → Prop}

/-- The calls that read records, and the indeterminate locals, are good. -/
structure Harmless (good : Call interface Vita4611Device → Prop) : Prop where
  sensorEvent : ∀ device arguments reply, arguments.netfn = netfnSE →
    good ⟨device, .sendRequest arguments, reply⟩
  indeterminate : ∀ device junk, good ⟨device, .indeterminate, junk⟩

theorem fresh_harmless : Harmless Fresh where
  sensorEvent device arguments reply netfn := by
    apply fresh_of_none
    rw [answeredNumbers, if_neg]
    rintro ⟨own, _⟩
    exact absurd (netfn.symm.trans own) (by decide)
  indeterminate _ _ := fresh_of_none rfl

theorem payloadByte_exact {data : List UInt8} {index : Nat} :
    Exact good Vita4611Device.Distinct (payloadByte data index) := by
  unfold payloadByte
  split
  · exact exact_pure _
  · exact decides_fault fun _ => Iff.rfl

theorem payloadRange_exact {data : List UInt8} {first last : Nat} :
    Exact good Vita4611Device.Distinct (payloadRange data first last) :=
  exact_ite (fun _ => exact_pure _) fun _ => decides_fault fun _ => Iff.rfl

theorem optionalValue_exact {Value : Type} {value : Option Value} :
    Exact good Vita4611Device.Distinct (optionalValue value) := by
  cases value with
  | none => exact exact_throw _
  | some value => exact exact_pure _

variable (harmless : Harmless good)
include harmless

theorem indeterminate_exact : Exact good Vita4611Device.Distinct indeterminate :=
  decides_ask (fun _ => exact_pure _) fun state junk =>
    (and_iff_left (harmless.indeterminate state junk)).symm

theorem sensorRequest_exact {channel addr lun cmd : UInt8} {data : List UInt8} :
    Exact good Vita4611Device.Distinct (sendIpmbRequest channel addr netfnSE lun cmd data) :=
  decides_ask (fun _ => exact_pure _) fun state reply =>
    (and_iff_left (harmless.sensorEvent state _ reply rfl)).symm

theorem reserveSdrRepo_exact :
    Exact good Vita4611Device.Distinct Vita4611Device.reserveSdrRepo := by
  apply exact_read
  intro device
  apply decides_bind (sensorRequest_exact harmless)
  intro _
  apply decides_bind optionalValue_exact
  intro response
  exact decides_bind payloadByte_exact fun _ => decides_bind payloadByte_exact fun _ => exact_pure _

theorem getSdrHeader_exact (resId : UInt8 × UInt8) (sensorNumber : UInt8) :
    Exact good Vita4611Device.Distinct (Vita4611Device.getSdrHeader resId sensorNumber) := by
  apply exact_read
  intro device
  apply decides_bind (sensorRequest_exact harmless)
  intro _
  exact decides_bind optionalValue_exact fun _ => exact_pure _

theorem getSdrSections_exact (resId : UInt8 × UInt8) (sensorNumber : UInt8) (length fuel : Nat)
    (section' total sectionTotal : UInt8) (responseCumulative : List UInt8) :
    Exact good Vita4611Device.Distinct
      (Vita4611Device.getSdrSections resId sensorNumber length fuel section' total sectionTotal
        responseCumulative) := by
  induction fuel generalizing section' total sectionTotal responseCumulative with
  | zero => exact exact_pure _
  | succ fuel ih =>
      apply exact_read
      intro device
      apply decides_bind (sensorRequest_exact harmless)
      intro _
      apply decides_bind optionalValue_exact
      intro response
      exact exact_ite (fun _ => ih _ _ _ _) fun _ => exact_pure _

theorem handleFullSdr_exact [Libm] (sdrheader sdrvals : List UInt8) :
    Exact good Vita4611Device.Distinct (Vita4611Device.handleFullSdr sdrheader sdrvals) := by
  apply decides_bind payloadByte_exact
  intro _
  apply decides_bind payloadRange_exact
  intro _
  apply decides_bind (indeterminate_exact harmless)
  intro junk
  exact exact_modify fun device => distinct_store (fun _ _ => rfl) rfl

theorem handleCompactSdr_exact (sdrheader sdrvals : List UInt8) :
    Exact good Vita4611Device.Distinct (Vita4611Device.handleCompactSdr sdrheader sdrvals) := by
  apply decides_bind payloadByte_exact
  intro _
  apply decides_bind payloadRange_exact
  intro _
  apply decides_bind (indeterminate_exact harmless)
  intro junk
  exact exact_modify fun device => distinct_store (fun _ same => same) rfl

theorem readSdr_exact [Libm] (resId : UInt8 × UInt8) (index : UInt8) :
    Exact good Vita4611Device.Distinct (Vita4611Device.readSdr resId index) := by
  apply decides_bind (getSdrHeader_exact harmless resId index)
  intro sdrheader
  apply exact_ite (fun _ => exact_pure _)
  intro _
  apply decides_bind (getSdrSections_exact harmless _ _ _ _ _ _ _ _)
  intro sdrvals
  apply exact_tryCatch
  · apply exact_ite (fun _ => handleFullSdr_exact harmless _ _)
    intro _
    exact exact_ite (fun _ => handleCompactSdr_exact harmless _ _) fun _ => exact_pure _
  · exact fun _ => exact_pure _

theorem readSdrs_exact [Libm] (resId : UInt8 × UInt8) (indices : List UInt8) (retryCount : Int) :
    Exact good Vita4611Device.Distinct (Vita4611Device.readSdrs resId indices retryCount) := by
  induction indices generalizing retryCount with
  | nil => exact exact_pure _
  | cons index rest ih =>
      apply decides_bind (exact_tryCatch (decides_bind (readSdr_exact harmless resId index) fun _ =>
        exact_pure _) fun _ => exact_pure _)
      intro failed
      apply exact_ite
      · intro _
        exact exact_ite (fun _ => exact_pure _) fun _ => ih (retryCount + 1)
      · exact fun _ => ih retryCount

theorem getAllSdrs_exact [Libm] :
    Exact good Vita4611Device.Distinct Vita4611Device.getAllSdrs :=
  decides_bind (reserveSdrRepo_exact harmless) fun _ => decides_bind (indeterminate_exact harmless)
    fun _ => exact_read fun _ => readSdrs_exact harmless _ _ _

end Records

section Discovery

open Vita4611Device

/-- The sensors named from an index on are added one by one, as far as the payload goes. -/
theorem addMandatorySensors_decides (junk : SensorRecord) (payload : List UInt8)
    (roles : List (Nat × Vita4611FruSensorType)) {start : Nat}
    (ordered : roles.map Prod.fst = List.range' start roles.length) :
    Decides Fresh (fun device => (device.sensorNumbers ++
        (payload.drop start).take roles.length).Nodup) Distinct
      (forEach (addMandatorySensor junk payload) roles) := by
  induction roles generalizing start with
  | nil =>
      refine decides_pure fun device => ?_
      simp [Distinct]
  | cons role rest ih =>
      rw [List.map_cons, List.length_cons, List.range'_succ, List.cons_eq_cons] at ordered
      obtain ⟨index, later⟩ := ordered
      rcases read : payload[start]? with _ | number
      · have short : payload.drop start = [] := List.drop_eq_nil_of_le (List.getElem?_eq_none_iff.mp read)
        simp only [forEach, addMandatorySensor, payloadByte, index, read]
        refine decides_fault fun device => ?_
        simp [short, Distinct]
      · have named : payload.drop start = number :: payload.drop (start + 1) :=
          (List.drop_eq_getElem?_toList_append).trans (by simp [read])
        simp only [forEach, addMandatorySensor, payloadByte, index, read]
        refine decides_modify (ih later) fun device => ?_
        rw [named, List.length_cons, List.take_succ_cons]
        simp [sensorNumbers, pushSensor, setSensors]

/-- An answer of another defining body brings no sensors. -/
theorem mandatory_decides (fru : UInt8) (reply : DBusReply) :
    Decides Fresh (fun device => (device.sensorNumbers ++ mandatoryNumbers reply).Nodup) Distinct
      (addMandatorySensors fru (readReply reply).1) := by
  unfold mandatoryNumbers addMandatorySensors
  rcases (readReply reply).1 with _ | response
  · refine decides_pure fun device => ?_
    simp [Distinct]
  · dsimp only
    rcases read : response.data[0]? with _ | identifier
    · simp only [payloadByte, read]
      refine decides_fault fun device => ?_
      simp [Distinct]
    · simp only [payloadByte, read]
      change Decides _ _ _ (if identifier ≠ vita4611VsoIdentifier then Pure.pure false else _)
      by_cases own : identifier = vita4611VsoIdentifier
      · rw [if_neg (not_not_intro own), if_pos (congrArg some own)]
        refine decides_ask (fun junk => decides_modify (decides_bind
          (addMandatorySensors_decides _ _ mandatoryRoles rfl) fun _ => exact_pure _)
          fun device => Iff.rfl) fun device junk => ?_
        exact (and_iff_left (fresh_harmless.indeterminate device junk)).symm
      · rw [if_pos own, if_neg (by simpa using own)]
        refine decides_pure fun device => ?_
        simp [Distinct]

theorem decides_request {channel addr netfn lun cmd : UInt8} {data : List UInt8}
    {before : Vita4611Device → Prop} {middle : DBusReply → Vita4611Device → Prop} {Value : Type}
    {rest : Option Ipmb.SendRequestReply × Option UInt8 → Program interface Vita4611Device Value}
    (second : ∀ reply, Decides Fresh (middle reply) Distinct (rest (readReply reply)))
    (divided : ∀ device reply, middle reply device ↔ before device ∧
      Fresh ⟨device, .sendRequest ⟨channel, addr, netfn, lun, cmd, data⟩, reply⟩) :
    Decides Fresh before Distinct (sendIpmbRequest channel addr netfn lun cmd data >>= rest) :=
  decides_ask second divided

theorem updateFromInfo_exact (info : Option Ipmb.SendRequestReply)
    {update : UInt8 → Vita4611Device → Vita4611Device}
    (same : ∀ byte device, (update byte device).sensorNumbers = device.sensorNumbers) :
    Exact Fresh Distinct (updateFromInfo info update) := by
  cases info with
  | none => exact exact_pure _
  | some info =>
      refine decides_bind payloadByte_exact fun byte => exact_modify fun device => ?_
      rw [Distinct, same, Distinct]

/-- One FRU keeps the numbers distinct exactly when its answer is fresh. -/
theorem enumerateFruSensors_exact [Libm] (fru addr : UInt8) :
    Exact Fresh Distinct (enumerateFruSensors fru addr) := by
  have quiet (device : Vita4611Device) (netfn : UInt8) (reply : DBusReply)
      (other : netfn ≠ netfnVita4611) :
      Fresh ⟨device, .sendRequest ⟨0, addr, netfn, 0, ipmitoolCmdGetSdrInfo, []⟩, reply⟩ :=
    fresh_of_none (if_neg fun asked => other asked.1)
  refine decides_request (fun reply => ?_) fun device reply => distinct_append_iff device reply
  refine decides_request (fun sdrInfo => ?_) fun device sdrInfo =>
    (and_iff_left (quiet device _ sdrInfo (by decide))).symm
  refine decides_request (fun sdrRepoInfo => ?_) fun device sdrRepoInfo =>
    (and_iff_left (quiet device _ sdrRepoInfo (by decide))).symm
  refine decides_bind (mandatory_decides fru reply) fun own => ?_
  apply exact_ite
  · intro _
    refine decides_bind (updateFromInfo_exact _ fun _ _ => rfl) fun _ => ?_
    refine decides_bind (updateFromInfo_exact _ fun _ _ => rfl) fun _ => ?_
    exact getAllSdrs_exact fresh_harmless
  · exact fun _ => exact_pure _

theorem discoverFrus_exact [Libm] : Exact Fresh Distinct discoverFrus := by
  apply exact_read
  intro device
  rcases device.vsocaps with _ | vsocaps
  · exact decides_fault fun _ => Iff.rfl
  · apply exact_ite (fun _ => enumerateFruSensors_exact _ _)
    intro _
    exact exact_forEach fun fru => enumerateFruSensors_exact _ _

/-- The records are read again and again. -/
def reread [Libm] (device : Vita4611Device) (reads : List (Environment interface)) :
    Vita4611Device :=
  reads.foldl (fun device environment => (getAllSdrs.run environment device 0).state) device

/-- Reading records again neither makes nor removes a shared number. -/
theorem distinct_reread [Libm] (device : Vita4611Device) (reads : List (Environment interface)) :
    (reread device reads).Distinct ↔ device.Distinct := by
  induction reads generalizing device with
  | nil => exact Iff.rfl
  | cons environment rest ih =>
      have harmless : Harmless fun _ => True := ⟨fun _ _ _ _ => trivial, fun _ _ => trivial⟩
      have once := getAllSdrs_exact harmless environment device 0
      exact (ih _).trans (once.trans (and_iff_left fun _ _ => trivial))

/-- The numbers of a discovered device stay distinct through all later readings exactly when each
answer to Get Mandatory Sensor Numbers was fresh when it came. -/
theorem sensorNumbers_distinct_iff [Libm] {device : Vita4611Device}
    (empty : device.fruinfo.sensors = []) (environment : Environment interface) :
    (∀ reads, (reread (discoverFrus.run environment device 0).state reads).Distinct) ↔
      ∀ call ∈ (discoverFrus.run environment device 0).calls, Fresh call := by
  have initial : device.Distinct := by
    rw [Distinct, sensorNumbers, empty]
    exact List.nodup_nil
  have discovered := discoverFrus_exact environment device 0
  rw [and_iff_right initial] at discovered
  constructor
  · intro always
    exact discovered.mp (always [])
  · intro fresh reads
    exact (distinct_reread _ reads).mpr (discovered.mpr fresh)

end Discovery

section OneFru

/-- A device with a single FRU, without sensors and without records. -/
def oneFru : Vita4611Device :=
  { (default : Vita4611Device) with
    fruinfo := ⟨0, .unknown, "", []⟩
    vsocaps := some ⟨3, 0, 0, 0, 0, 0, 0⟩
    deviceRecordTotal := 0
    ipmiAddress := 0x82 }

/-- The FRU names these mandatory sensors, and every other request is answered with two zeros. -/
def namesSensors (numbers : List UInt8) : Environment interface := fun _ op =>
  match op with
  | .sendRequest arguments => DBusReply.reply ⟨0, 0, 0, 0, 0,
      if arguments.cmd = vita4611GetMandatorySensorNumbersCmd then 0x03 :: numbers else [0, 0]⟩
  | op => (default : op.Answer)

/-- Six different numbers stay distinct when the records are read again. -/
theorem sensorNumbers_oneFru : (@reread silentLibm (@Vita4611Device.discoverFrus silentLibm
    |>.run (namesSensors [1, 2, 3, 4, 5, 6]) oneFru 0).state
    [namesSensors [1, 2, 3, 4, 5, 6]]).Distinct := by
  have fresh : ∀ call ∈ (@Vita4611Device.discoverFrus silentLibm
      |>.run (namesSensors [1, 2, 3, 4, 5, 6]) oneFru 0).calls, Fresh call := by
    decide +kernel
  exact (@sensorNumbers_distinct_iff silentLibm oneFru rfl _).mpr fresh _

/-- A FRU that names two unused sensors by `0xFF` gets two sensors with one number. -/
theorem sensorNumbers_shared :
    ((@Vita4611Device.discoverFrus silentLibm).run (namesSensors [1, 2, 0xFF, 0xFF, 5, 6]) oneFru
      0).outcome = .value () ∧
    ¬∀ reads, (@reread silentLibm (@Vita4611Device.discoverFrus silentLibm
      |>.run (namesSensors [1, 2, 0xFF, 0xFF, 5, 6]) oneFru 0).state reads).Distinct := by
  refine ⟨by decide +kernel, fun always => absurd (always []) ?_⟩
  unfold Vita4611Device.Distinct
  decide +kernel

end OneFru

end Chassis.Vita4611
