import Chassis.Proof.Manager.SdrPass

namespace Chassis.Vita4611
open Effect Program

/-- The request that reserves the repository of a device. -/
abbrev reserveOp (device : Vita4611Device) : Op :=
  .sendRequest ⟨device.channel, device.ipmiAddress, netfnSE, 0, ipmitoolCmdReserveSdrRepo, []⟩

/-- The reservation is answered with an identifier of two bytes. -/
def Reserves (answer : DBusReply) : Prop := ∃ low high rest, Pays answer (low :: high :: rest)

/-- The retry counter of a pass starts from an uninitialised local. -/
def initialRetries (environment : Environment interface) (position : Nat) : Int :=
  (show Indeterminate from environment (position + 1) .indeterminate).retryCount

section Enumeration

variable {repository : SdrRepository} {rule : PartRule}
  {environment : Environment interface} {device : Vita4611Device} {position : Nat}

/-- After the reservation the records are passed over from the first one on. -/
theorem run_getAllSdrsWith
    (handle : UInt8 → List UInt8 → List UInt8 → Program interface Vita4611Device Unit)
    (reserves : Reserves (environment position (reserveOp device))) :
    ∃ (resId : UInt8 × UInt8) (first second : Call interface Vita4611Device),
      readOf first = none ∧ readOf second = none ∧
      let pass := (readSdrsWith handle resId
        ((List.range' 0 device.deviceRecordTotal.toNat).map UInt8.ofNat)
          (initialRetries environment position)).run environment device (position + 2)
      (getAllSdrsWith handle).run environment device position =
        ⟨pass.outcome, pass.state, first :: second :: pass.calls⟩ := by
  obtain ⟨low, high, rest, pays⟩ := reserves
  obtain ⟨response, reply, data⟩ := readReply_pays pays
  refine ⟨(low, high), ⟨device, reserveOp device, environment position (reserveOp device)⟩,
    ⟨device, .indeterminate, environment (position + 1) .indeterminate⟩, rfl, rfl, ?_⟩
  have reserved : Vita4611Device.reserveSdrRepo.run environment device position =
      ⟨.value (low, high), device,
        [⟨device, reserveOp device, environment position (reserveOp device)⟩]⟩ := by
    let later := (optionalValue (readReply (environment position (reserveOp device))).1 >>=
      fun response => do
        let first ← payloadByte response.data 0
        let second ← payloadByte response.data 1
        Pure.pure (first, second) :
          Program interface Vita4611Device (UInt8 × UInt8)).run environment device (position + 1)
    have ran : Vita4611Device.reserveSdrRepo.run environment device position =
      ⟨later.outcome, later.state,
        ⟨device, reserveOp device, environment position (reserveOp device)⟩ :: later.calls⟩ := rfl
    have answered : (readReply (environment position (reserveOp device))).1 = some response :=
      congrArg Prod.fst reply
    rw [ran]
    dsimp only [later]
    rw [answered]
    simp [optionalValue, payloadByte, data]
  unfold getAllSdrsWith
  simp only [run_bind, reserved, andThen_value, indeterminate, List.length_singleton,
    List.range_eq_range']
  rfl

/-- The run of `getAllSdrs` whose handlers note what they are passed, from an empty table. -/
def notingRun (environment : Environment interface) (device : Vita4611Device) (position : Nat) :
    Run interface Vita4611Device Unit :=
  (getAllSdrsWith noteSdr).run environment (device.setSensors []) position

/-- The whole run is a pass over the reported number of records. -/
theorem pass_notingRun (serves : ServesParts repository rule environment)
    (reserves : Reserves (environment position (reserveOp device))) :
    Pass repository rule 0 device.deviceRecordTotal.toNat (initialRetries environment position)
      (device.setSensors []) (notingRun environment device position) := by
  obtain ⟨resId, first, second, silent, silent', ran⟩ :=
    @run_getAllSdrsWith environment (device.setSensors []) position noteSdr reserves
  have bound := device.deviceRecordTotal.toNat_lt
  have pass := @pass_noteSdr repository rule environment (device.setSensors []) resId 0
    device.deviceRecordTotal.toNat (initialRetries environment position) serves (by omega)
    (position + 2)
  have same : reads (notingRun environment device position) = reads _ :=
    (congrArg reads ran).trans
      ((List.filterMap_cons_none silent).trans (List.filterMap_cons_none silent'))
  have state : (notingRun environment device position).state = _ := congrArg Run.state ran
  refine ⟨?_, ?_, ?_⟩
  · exact (congrArg Run.outcome ran).trans pass.returned
  · rw [same]
    exact pass.range
  · rw [same, state]
    exact pass.noted

/-- A record is passed on once exactly when its identifier is below the reported count, no request for
it stays unanswered, and the losses before it leave the retries in reach. -/
theorem noted_iff (serves : ServesParts repository rule environment)
    (reserves : Reserves (environment position (reserveOp device))) {record : SdrRecord}
    (member : record ∈ repository.records) :
    let run := notingRun environment device position
    run.state.noted.count record.passed = 1 ↔
      record.recordId.2 = 0 ∧ record.recordId.1 < device.deviceRecordTotal ∧
        lostIn (reads run) record.recordId.1.toNat = false ∧
        Reaches (initialRetries environment position)
          (failuresBelow (reads run) 0 record.recordId.1.toNat) := by
  intro run
  obtain ⟨new, noted, known, counted⟩ := (pass_notingRun serves reserves).noted
  have all : run.state.noted = new := noted
  have index : UInt8.ofNat record.recordId.1.toNat = record.recordId.1 := UInt8.ofNat_toNat
  rw [all]
  by_cases low : record.recordId.2 = 0
  · have found : repository.find (UInt8.ofNat record.recordId.1.toNat, 0) = some record := by
      rw [index, ← low]
      exact find_self member
    rw [counted _ record record.recordId.1.toNat_lt found]
    simp only [low, true_and, Nat.zero_le, Nat.zero_add, UInt8.lt_iff_toNat_lt]
    split_ifs with holds
    · exact iff_of_true rfl holds
    · exact iff_of_false not_false holds
  · have never : record.passed ∉ new := by
      intro passed
      obtain ⟨index, other, found, same, _⟩ := known _ passed
      have ids := passed_injective same
      rw [find_recordId found] at ids
      exact low (congrArg Prod.snd ids).symm
    simp [List.count_eq_zero_of_not_mem never, low]

/-- Every sensor record is passed on exactly once. -/
def PassesAll (repository : SdrRepository) (run : Run interface Vita4611Device Unit) : Prop :=
  ∀ record ∈ repository.records, record.isSensor → run.state.noted.count record.passed = 1

/-- The enumeration is complete exactly when every sensor record has an identifier below the low byte
of the reported count, gets all its requests answered, and is reached in spite of earlier losses. -/
theorem enumeration_complete_iff (serves : ServesParts repository rule environment)
    (reserves : Reserves (environment position (reserveOp device)))
    (reported : device.deviceRecordTotal = UInt8.ofNat repository.records.length) :
    let run := notingRun environment device position
    PassesAll repository run ↔ ∀ record ∈ repository.records, record.isSensor →
      record.recordId.2 = 0 ∧ record.recordId.1.toNat < repository.records.length % 256 ∧
        lostIn (reads run) record.recordId.1.toNat = false ∧
        Reaches (initialRetries environment position)
          (failuresBelow (reads run) 0 record.recordId.1.toNat) := by
  intro run
  have total : device.deviceRecordTotal.toNat = repository.records.length % 256 := by
    rw [reported]
    exact UInt8.toNat_ofNat'
  apply forall₂_congr
  intro record member
  apply imp_congr_right
  intro _
  have noted := noted_iff serves reserves member
  dsimp only at noted
  rw [UInt8.lt_iff_toNat_lt, total] at noted
  exact noted

end Enumeration

section Chains

/-- The records are linked by their identifiers, and the last one ends the chain. -/
def Linked : UInt8 × UInt8 → List SdrRecord → Prop
  | next, [] => next = (0xFF, 0xFF)
  | next, record :: rest => record.recordId = next ∧ Linked record.nextRecordId rest

/-- A device that answers every request for a part of its records. -/
def servingEnvironment (repository : SdrRepository) : Environment interface := fun _ op =>
  match op with
  | .sendRequest arguments => repository.serve [] arguments
  | op => (default : op.Answer)

theorem servingEnvironment_serves (repository : SdrRepository) :
    ServesParts repository answering (servingEnvironment repository) where
  absent position device resId index offset count missing := by
    rcases @serve_getSdr repository [] (getSdrRequest device resId index offset count) rfl with
      ⟨data, found, _⟩ | ⟨_, fails⟩
    · obtain ⟨record, present, _⟩ := Option.map_eq_some_iff.mp found
      cases missing.symm.trans present
    · exact fails
  present position device resId index offset count record found := by
    rcases @serve_getSdr repository [] (getSdrRequest device resId index offset count) rfl with
      ⟨data, served, pays⟩ | ⟨absent, _⟩
    · obtain ⟨other, present, rfl⟩ := Option.map_eq_some_iff.mp served
      cases found.symm.trans present
      exact .inr ⟨pays, trivial⟩
    · cases found.symm.trans (Option.map_eq_none_iff.mp absent)

theorem servingEnvironment_reserves (repository : SdrRepository) (position : Nat)
    (device : Vita4611Device) :
    Reserves (servingEnvironment repository position (reserveOp device)) :=
  ⟨1, 0, [], _, rfl, rfl, rfl⟩

/-- A chain of two records, the second of which has identifier 5. -/
def gapRepository : SdrRepository where
  records := [{ compactRecord 0 5 with nextRecordId := (5, 0) },
    { compactRecord 5 6 with nextRecordId := (0xFF, 0xFF) }]
  distinct := by decide

def countedTwo : Vita4611Device := { (default : Vita4611Device) with deviceRecordTotal := 2 }

/-- A chain with consecutive identifiers. -/
def denseRepository : SdrRepository where
  records := [compactRecord 0 5, { compactRecord 1 6 with nextRecordId := (0xFF, 0xFF) }]
  distinct := by decide

theorem enumeration_complete_iff_dense :
    let run := notingRun (servingEnvironment denseRepository) countedTwo 0
    PassesAll denseRepository run ↔ ∀ record ∈ denseRepository.records, record.isSensor →
      record.recordId.2 = 0 ∧ record.recordId.1.toNat < denseRepository.records.length % 256 ∧
        lostIn (reads run) record.recordId.1.toNat = false ∧
        Reaches (initialRetries (servingEnvironment denseRepository) 0)
          (failuresBelow (reads run) 0 record.recordId.1.toNat) :=
  enumeration_complete_iff (servingEnvironment_serves denseRepository)
    (servingEnvironment_reserves denseRepository 0 countedTwo) rfl

/-- The record behind the gap is never asked for, although no request fails. -/
theorem enumeration_incomplete : ¬∀ (repository : SdrRepository), Linked (0, 0) repository.records →
    ∀ (environment : Environment interface) (device : Vita4611Device) (position : Nat),
      ServesParts repository answering environment →
      Reserves (environment position (reserveOp device)) →
      device.deviceRecordTotal = UInt8.ofNat repository.records.length →
      PassesAll repository (notingRun environment device position) := by
  intro always
  have complete := always gapRepository ⟨rfl, rfl, rfl⟩ (servingEnvironment gapRepository) countedTwo 0
    (servingEnvironment_serves gapRepository)
    (servingEnvironment_reserves gapRepository 0 countedTwo) rfl
  have behind := complete _ (List.mem_cons_of_mem _ List.mem_cons_self) (.inr rfl)
  exact absurd behind (by decide +kernel)

end Chains

end Chassis.Vita4611
