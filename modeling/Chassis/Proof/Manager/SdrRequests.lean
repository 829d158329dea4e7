import Chassis.Data.List
import Chassis.Proof.Manager.PayloadBounds
import Chassis.Proof.Manager.SdrEnumeration

namespace Chassis.Vita4611
open Effect Program

/-- The reads lie one behind the other from the first offset to the last. -/
def Tiles : Nat → Nat → List SdrRead → Prop
  | start, stop, [] => start = stop
  | start, stop, sdrRead :: rest =>
      sdrRead.offset = start ∧ Tiles (start + sdrRead.count) stop rest

/-- The reads of a record behind its header. -/
def bodyReads (reads : List SdrRead) (recordId : UInt8 × UInt8) : List SdrRead :=
  reads.filter fun read => read.recordId = recordId ∧ 5 ≤ read.offset

/-- Every read asks for one to 22 bytes of a record, and the bodies of the records that are read are
covered once in ascending order. -/
structure WellFormed (repository : SdrRepository) (reads : List SdrRead) : Prop where
  inside : ∀ read ∈ reads, ∃ record, repository.find read.recordId = some record ∧
    1 ≤ read.count ∧ read.count ≤ 22 ∧ read.offset + read.count ≤ 5 + record.body.length
  tiles : ∀ read ∈ reads, ∀ record, repository.find read.recordId = some record →
    Tiles 5 (5 + record.body.length) (bodyReads reads read.recordId)

theorem WellFormed.existing {repository : SdrRepository} {reads : List SdrRead}
    (formed : WellFormed repository reads) :
    ∀ sdrRead ∈ reads, repository.find sdrRead.recordId ≠ none := by
  intro sdrRead member
  obtain ⟨record, found, _⟩ := formed.inside sdrRead member
  rw [found]
  exact Option.some_ne_none record

/-- A device that rejects empty reads and reads past the end of a record. -/
def rejecting : PartRule where
  fails record part := part.2 = 0 ∨ 5 + record.body.length < part.1 + part.2
  answers record part := ¬(part.2 = 0 ∨ 5 + record.body.length < part.1 + part.2)

/-- Every index below the reported count names a record whose body ends with a shorter section that
is not empty. -/
def Uneven (repository : SdrRepository) (total : UInt8) : Prop :=
  ∀ index < total.toNat, ∃ record, repository.find (UInt8.ofNat index, 0) = some record ∧
    ¬22 ∣ record.body.length

/-- Every index below the reported count names a record that is passed on exactly once. -/
def Delivers (repository : SdrRepository) (total : UInt8)
    (run : Run interface Vita4611Device Unit) : Prop :=
  ∀ index < total.toNat, ∃ record, repository.find (UInt8.ofNat index, 0) = some record ∧
    run.state.noted.count record.passed = 1

section Sections

variable {record : SdrRecord}

/-- The sections of a body lie one behind the other. -/
theorem tiles_sections (index : UInt8) (offset whole rest : Nat) :
    Tiles offset (offset + (22 * whole + rest))
      ((sections offset whole rest).map (partRead index true)) := by
  induction whole generalizing offset with
  | zero =>
      refine ⟨rfl, ?_⟩
      change offset + rest = offset + (22 * 0 + rest)
      omega
  | succ whole ih =>
      refine ⟨rfl, ?_⟩
      have later := ih (offset + 22)
      rwa [show offset + 22 + (22 * whole + rest) = offset + (22 * (whole + 1) + rest) by omega]
        at later

theorem tiles_bodySections (index : UInt8) (length : Nat) :
    Tiles 5 (5 + length) ((bodySections length).map (partRead index true)) := by
  have tiled := tiles_sections index 5 (length / 22) (length % 22)
  rwa [Nat.div_add_mod] at tiled

/-- The last section is asked for even when it is empty. -/
theorem last_mem_sections (offset whole rest : Nat) :
    (offset + 22 * whole, rest) ∈ sections offset whole rest := by
  induction whole generalizing offset with
  | zero => exact List.mem_singleton_self _
  | succ whole ih =>
      have later := ih (offset + 22)
      rw [show offset + 22 + 22 * whole = offset + 22 * (whole + 1) by omega] at later
      exact List.mem_cons_of_mem _ later

/-- A body of whole sections is followed by an empty one. -/
theorem empty_mem_parts (even : 22 ∣ record.body.length) : ∃ part ∈ record.parts, part.2 = 0 := by
  have last := last_mem_sections 5 (record.body.length / 22) (record.body.length % 22)
  exact ⟨_, List.mem_cons_of_mem _ last, Nat.mod_eq_zero_of_dvd even⟩

/-- The parts of any other record are not empty and lie inside it. -/
theorem mem_parts_uneven (uneven : ¬22 ∣ record.body.length) {part : Nat × Nat}
    (member : part ∈ record.parts) :
    1 ≤ part.2 ∧ part.2 ≤ 22 ∧ part.1 + part.2 ≤ 5 + record.body.length := by
  have rest : record.body.length % 22 ≠ 0 := fun none => uneven (Nat.dvd_of_mod_eq_zero none)
  have short := record.short
  rcases List.mem_cons.mp member with rfl | body
  · omega
  · have bounds := mem_bodySections short body
    obtain ⟨number, _, _, size⟩ := mem_sections body
    omega

end Sections

section Handlers

/-- The handler of a record sends no request. -/
def Silent (handle : UInt8 → List UInt8 → List UInt8 → Program interface Vita4611Device Unit) :
    Prop :=
  ∀ recordType sdrheader sdrvals, SendsNothing (handle recordType sdrheader sdrvals)

/-- Both handlers only read what they are passed. -/
theorem handleSdr_silent [Libm] : Silent handleSdr := by
  intro recordType sdrheader sdrvals
  apply keeps_ite
  · exact fun _ => handleFullSdr_silent sdrheader sdrvals
  · intro _
    apply keeps_ite
    · exact fun _ => handleCompactSdr_silent sdrheader sdrvals
    · exact fun _ => keeps_pure ()

/-- A silent program reads nothing. -/
theorem reads_silent {program : Program interface Vita4611Device Unit}
    (silent : SendsNothing program)
    (environment : Environment interface) (device : Vita4611Device) (position : Nat) :
    (program.run environment device position).calls.filterMap readOf = [] := by
  rw [List.filterMap_eq_nil_iff]
  rintro ⟨state, op, answer⟩ called
  obtain rfl : op = .indeterminate := (silent.sound environment device position trivial).1 _ called
  rfl

end Handlers

/-- An attempt on a device that answers all reads asks for the whole record, or it loses a record
that does not exist. -/
inductive Asked (repository : SdrRepository) (index : UInt8)
    (run : Run interface Vita4611Device Bool) : Prop where
  | whole (record : SdrRecord) (found : repository.find (index, 0) = some record)
      (outcome : run.outcome = .value false ∨ ∃ reason, run.outcome = .fault reason)
      (reads : reads run = record.parts.map (partRead index true))
  | absent (missing : repository.find (index, 0) = none) (outcome : run.outcome = .value true)
      (reads : reads run = [partRead index false (0, 5)])

section Attempts

variable {repository : SdrRepository} {environment : Environment interface}
  {device : Vita4611Device} {resId : UInt8 × UInt8} {index : UInt8}
  {handle : UInt8 → List UInt8 → List UInt8 → Program interface Vita4611Device Unit}

/-- The handler follows the reading of the body, and its exceptions end there. -/
theorem run_attempt_handled {response : Ipmb.SendRequestReply} {position : Nat}
    {sdrvals : List UInt8}
    (answered : (readReply (environment position (headerOp device resId index))).1 = some response)
    (length : response.data.length = 7)
    (body : ((Vita4611Device.getSdrVals resId index (response.data.getD 6 0)).run environment
      device (position + 1)).outcome = .value sdrvals) :
    let asked := ⟨device, headerOp device resId index,
      environment position (headerOp device resId index)⟩
    let body := (Vita4611Device.getSdrVals resId index (response.data.getD 6 0)).run environment
      device (position + 1)
    ∃ handled : Run interface Vita4611Device Unit, handled =
        (handle (response.data.getD 5 0) response.data sdrvals).run environment body.state
          (position + 1 + body.calls.length) ∧
      ((attemptWith handle resId index).run environment device position).calls =
        asked :: body.calls ++ handled.calls ∧
      (((attemptWith handle resId index).run environment device position).outcome = .value false ∨
        ∃ reason, ((attemptWith handle resId index).run environment device position).outcome =
          .fault reason) := by
  have header := @run_getSdrHeader environment device resId index position
  have whole : ¬response.data.length ≠ 7 := not_not_intro length
  dsimp only at header ⊢
  rw [answered] at header
  refine ⟨_, rfl, ?_⟩
  simp only [attemptWith, readSdrWith, run_tryCatch, run_bind, header, andThen_value, run_ite,
    if_neg whole, List.length_singleton]
  generalize (Vita4611Device.getSdrVals resId index (response.data.getD 6 0)).run environment
    device (position + 1) = read at body ⊢
  obtain ⟨_, after, calls⟩ := read
  dsimp only at body
  rw [body, andThen_value]
  rcases (handle (response.data.getD 5 0) response.data sdrvals).run environment after
    (position + 1 + calls.length) with ⟨value | exception | reason, last, calls'⟩
  · simp [Run.orElse]
  · simp [Run.orElse]
  · simp [Run.orElse, Run.andThen]

/-- The body of a record that is served is read whole. -/
theorem ServesParts.body (serves : ServesParts repository answering environment)
    {record : SdrRecord} (found : repository.find (index, 0) = some record) (position : Nat) :
    let run := (readSections resId index (bodySections record.body.length) []).run environment
      device position
    run.outcome = .value record.body ∧
      reads run = (bodySections record.body.length).map (partRead index true) := by
  intro run
  cases (run_readSections (bodySections record.body.length) (bodySections_small record.short)
    (serves.sections found device resId) [] position).2 with
  | whole outcome all answers =>
      rw [slice_bodySections, List.nil_append] at outcome
      exact ⟨outcome, all⟩
  | broken exception outcome front lost initial fails all => exact fails.elim

theorem attempt_asked (serves : ServesParts repository answering environment)
    (silent : Silent handle) (position : Nat) :
    Asked repository index ((attemptWith handle resId index).run environment device position) := by
  rcases found : repository.find (index, 0) with _ | record
  · have fails := serves.absent position device resId index 0 5 found
    have failed : (readReply (environment position (headerOp device resId index))).1 = none := fails
    rw [run_attempt_headless position fails]
    refine .absent found rfl ((List.filterMap_cons_some (readOf_header device _)).trans ?_)
    rw [failed]
    rfl
  · rcases serves.present position device resId index 0 5 record found with ⟨_, never⟩ | ⟨pays, _⟩
    · exact never.elim
    obtain ⟨response, answered, data, length, size, asked⟩ := served_header pays
    have whole := @ServesParts.body repository environment device resId index serves record found
      (position + 1)
    have values : Vita4611Device.getSdrVals resId index (response.data.getD 6 0) =
        readSections resId index (bodySections record.body.length) [] := by
      rw [size, getSdrVals_body]
    rw [← values] at whole
    obtain ⟨_, rfl, calls, outcome⟩ :=
      @run_attempt_handled environment device resId index handle response position record.body
        answered length whole.1
    refine .whole record found outcome ?_
    unfold reads
    rw [calls, List.cons_append, List.filterMap_cons_some asked, List.filterMap_append,
      reads_silent (silent _ _ _), List.append_nil]
    exact congrArg _ whole.2

/-- The requests for a record all of whose parts are answered. -/
def SdrRepository.wholeReads (repository : SdrRepository) (index : UInt8) : List SdrRead :=
  match repository.find (index, 0) with
  | some record => record.parts.map (partRead index true)
  | none => []

/-- When all records exist the loop asks for whole records in order. It stops only where a handler
reaches undefined behaviour. -/
theorem reads_found (serves : ServesParts repository answering environment) (silent : Silent handle)
    (indices : List UInt8) (found : ∀ index ∈ indices, repository.find (index, 0) ≠ none)
    (retryCount : Int) (device : Vita4611Device) (position : Nat) :
    ∃ front, front <+: indices ∧
      reads ((readSdrsWith handle resId indices retryCount).run environment device position) =
        front.flatMap repository.wholeReads := by
  induction indices generalizing device position with
  | nil => exact ⟨[], List.nil_prefix, rfl⟩
  | cons index rest ih =>
      have asked := @attempt_asked repository environment device resId index handle serves silent
        position
      rw [run_readSdrsWith]
      generalize (attemptWith handle resId index).run environment device position = run at asked ⊢
      cases asked with
      | whole record present outcome all =>
          have own : reads run = repository.wholeReads index := by
            rw [all, SdrRepository.wholeReads, present]
          obtain ⟨_, after, calls⟩ := run
          rcases outcome with rfl | ⟨reason, rfl⟩
          · rw [andThen_value, if_neg Bool.false_ne_true]
            obtain ⟨front, initial, later⟩ := ih
              (fun other member => found other (List.mem_cons_of_mem _ member)) after
              (position + calls.length)
            refine ⟨index :: front, (List.prefix_cons_inj index).mpr initial, ?_⟩
            refine (reads_append _ _ _ _).trans ?_
            rw [List.flatMap_cons, ← own, ← later]
            rfl
          · refine ⟨[index], List.prefix_append [index] rest, ?_⟩
            rw [List.flatMap_singleton, ← own]
            rfl
      | absent missing => exact (found index List.mem_cons_self missing).elim

/-- A loop that ends and reads only existing records asks for all parts of all records. -/
theorem found_of_reads (serves : ServesParts repository answering environment)
    (silent : Silent handle) (indices : List UInt8) (retryCount : Int) (device : Vita4611Device)
    (position : Nat) :
    let run := (readSdrsWith handle resId indices retryCount).run environment device position
    (∀ reason, run.outcome ≠ .fault reason) →
    (∀ sdrRead ∈ reads run, repository.find sdrRead.recordId ≠ none) →
    ∀ index ∈ indices, ∃ record, repository.find (index, 0) = some record ∧
      ∀ part ∈ record.parts, partRead index true part ∈ reads run := by
  induction indices generalizing device position with
  | nil => exact fun _ _ _ member => absurd member List.not_mem_nil
  | cons index rest ih =>
      intro run
      have asked := @attempt_asked repository environment device resId index handle serves silent
        position
      dsimp only [run]
      rw [run_readSdrsWith]
      generalize (attemptWith handle resId index).run environment device position = tried at asked ⊢
      cases asked with
      | whole record present outcome all =>
          obtain ⟨_, after, calls⟩ := tried
          rcases outcome with rfl | ⟨reason, rfl⟩
          · rw [andThen_value, if_neg Bool.false_ne_true]
            intro running existing
            rw [reads_append] at existing ⊢
            have later := ih after (position + calls.length) running
              fun other member => existing other (List.mem_append_right _ member)
            intro other member
            rcases List.mem_cons.mp member with rfl | behind
            · refine ⟨record, present, fun part inside => List.mem_append_left _ ?_⟩
              have own : calls.filterMap readOf = record.parts.map (partRead other true) := all
              rw [own]
              exact List.mem_map_of_mem inside
            · obtain ⟨record, present, parts⟩ := later other behind
              exact ⟨record, present, fun part inside => List.mem_append_right _ (parts part inside)⟩
          · exact fun running => (running reason rfl).elim
      | absent missing outcome all =>
          obtain ⟨_, after, calls⟩ := tried
          dsimp only at outcome
          rw [outcome, andThen_value]
          intro _ existing
          refine (existing (partRead index false (0, 5)) ?_ missing).elim
          rw [reads_append]
          have own : calls.filterMap readOf = [partRead index false (0, 5)] := all
          rw [own]
          exact List.mem_append_left _ (List.mem_singleton_self _)

theorem mem_wholeReads {sdrRead : SdrRead} (member : sdrRead ∈ repository.wholeReads index) :
    ∃ record, repository.find (index, 0) = some record ∧
      ∃ part ∈ record.parts, sdrRead = partRead index true part := by
  unfold SdrRepository.wholeReads at member
  split at member
  next record found =>
    obtain ⟨part, inside, rfl⟩ := List.mem_map.mp member
    exact ⟨record, found, part, inside, rfl⟩
  next => exact absurd member List.not_mem_nil

/-- Only the sections of a record lie behind its header. -/
theorem bodyReads_wholeReads {record : SdrRecord} (found : repository.find (index, 0) = some record) :
    bodyReads (repository.wholeReads index) (index, 0) =
      (bodySections record.body.length).map (partRead index true) := by
  unfold bodyReads SdrRepository.wholeReads
  rw [found]
  refine (List.filter_cons_of_neg (by simp [partRead])).trans ?_
  rw [List.filter_eq_self]
  intro sdrRead member
  obtain ⟨part, inside, rfl⟩ := List.mem_map.mp member
  have bounds := mem_bodySections record.short inside
  simp [partRead, bounds.1]

/-- Reads of whole records are well formed when each body ends with a shorter section. -/
theorem wellFormed_whole {front : List UInt8} (distinct : front.Nodup)
    (uneven : ∀ index ∈ front, ∃ record, repository.find (index, 0) = some record ∧
      ¬22 ∣ record.body.length) :
    WellFormed repository (front.flatMap repository.wholeReads) where
  inside sdrRead member := by
    obtain ⟨index, inside, own⟩ := List.mem_flatMap.mp member
    obtain ⟨record, found, part, inside', rfl⟩ := mem_wholeReads own
    obtain ⟨other, found', rest⟩ := uneven index inside
    cases found.symm.trans found'
    exact ⟨record, found, mem_parts_uneven rest inside'⟩
  tiles sdrRead member record found := by
    obtain ⟨index, inside, own⟩ := List.mem_flatMap.mp member
    obtain ⟨_, _, part, _, rfl⟩ := mem_wholeReads own
    have only : bodyReads (front.flatMap repository.wholeReads) (index, 0) =
        bodyReads (repository.wholeReads index) (index, 0) := by
      unfold bodyReads
      rw [List.filter_flatMap]
      apply Data.flatMap_of_mem distinct inside
      intro other _ different
      rw [List.filter_eq_nil_iff]
      intro read' asked
      obtain ⟨_, _, part', _, rfl⟩ := mem_wholeReads asked
      simp [partRead, different]
    change Tiles 5 _ (bodyReads _ (index, 0))
    rw [only, bodyReads_wholeReads found]
    exact tiles_bodySections index record.body.length

end Attempts

section Requests

variable {repository : SdrRepository} {environment : Environment interface}
  {device : Vita4611Device} {position : Nat}

/-- The reads of the run are those of its loop. -/
theorem reads_getAllSdrs [Libm] (reserves : Reserves (environment position (reserveOp device))) :
    ∃ resId, let loop := (readSdrsWith handleSdr resId
        ((List.range device.deviceRecordTotal.toNat).map UInt8.ofNat)
          (initialRetries environment position)).run environment device (position + 2)
      let run := Vita4611Device.getAllSdrs.run environment device position
      reads run = reads loop ∧ run.outcome = loop.outcome := by
  obtain ⟨resId, first, second, silent, silent', ran⟩ :=
    @run_getAllSdrsWith environment device position handleSdr reserves
  refine ⟨resId, ?_⟩
  dsimp only at ran ⊢
  rw [getAllSdrs_eq, ran, List.range_eq_range']
  exact ⟨(List.filterMap_cons_none silent).trans (List.filterMap_cons_none silent'), rfl⟩

theorem mem_range_indices {total index : UInt8}
    (member : index ∈ (List.range total.toNat).map UInt8.ofNat) :
    ∃ count < total.toNat, UInt8.ofNat count = index := by
  obtain ⟨count, below, same⟩ := List.mem_map.mp member
  exact ⟨count, List.mem_range.mp below, same⟩

theorem wellFormed_of_uneven [Libm] (serves : ServesParts repository answering environment)
    (reserves : Reserves (environment position (reserveOp device)))
    (uneven : Uneven repository device.deviceRecordTotal) :
    WellFormed repository (reads (Vita4611Device.getAllSdrs.run environment device position)) := by
  obtain ⟨resId, same, _⟩ := reads_getAllSdrs reserves
  have each : ∀ index ∈ (List.range device.deviceRecordTotal.toNat).map UInt8.ofNat,
      ∃ record, repository.find (index, 0) = some record ∧ ¬22 ∣ record.body.length := by
    intro index member
    obtain ⟨count, below, rfl⟩ := mem_range_indices member
    exact uneven count below
  obtain ⟨front, initial, whole⟩ := reads_found serves handleSdr_silent _
    (fun index member => by
      obtain ⟨record, found, _⟩ := each index member
      rw [found]
      exact Option.some_ne_none record)
    (initialRetries environment position) device (position + 2)
  have distinct := (indices_sorted device.deviceRecordTotal).imp fun less => UInt8.ne_of_lt less
  rw [same, whole]
  exact wellFormed_whole (distinct.sublist initial.sublist) fun index member =>
    each index (initial.subset member)

theorem uneven_of_wellFormed [Libm] (serves : ServesParts repository answering environment)
    (reserves : Reserves (environment position (reserveOp device)))
    (running : ∀ reason,
      (Vita4611Device.getAllSdrs.run environment device position).outcome ≠ .fault reason)
    (formed : WellFormed repository
      (reads (Vita4611Device.getAllSdrs.run environment device position))) :
    Uneven repository device.deviceRecordTotal := by
  obtain ⟨resId, same, outcome⟩ := reads_getAllSdrs reserves
  rw [outcome] at running
  rw [same] at formed
  intro index below
  obtain ⟨record, found, parts⟩ := found_of_reads serves handleSdr_silent _
    (initialRetries environment position) device (position + 2) running formed.existing
    (UInt8.ofNat index) (List.mem_map_of_mem (List.mem_range.mpr below))
  refine ⟨record, found, fun even => ?_⟩
  obtain ⟨part, member, empty⟩ := empty_mem_parts even
  obtain ⟨_, _, least, _⟩ := formed.inside _ (parts part member)
  change 1 ≤ part.2 at least
  omega

/-- On a device that rejects empty reads and reads past the end, no part of an uneven record is
lost. -/
theorem lostIn_uneven (serves : ServesParts repository rejecting environment)
    (reserves : Reserves (environment position (reserveOp device)))
    (uneven : Uneven repository device.deviceRecordTotal) (index : Nat) :
    lostIn (reads (notingRun environment device position)) index = false := by
  rw [lostIn, List.any_eq_false]
  intro sdrRead member
  obtain ⟨number, _, below, _, tried, attempt, own⟩ :=
    (pass_notingRun serves reserves).range sdrRead member
  obtain ⟨record, found, rest⟩ := uneven number (by omega)
  cases attempt with
  | taken other found' outcome noted all answers =>
      rw [all] at own
      simp [(mem_partReads own).2]
  | absent missing => cases found.symm.trans missing
  | lost other found' outcome state front part initial fails all =>
      cases found.symm.trans found'
      have inside : part ∈ record.parts := initial.subset (by simp)
      have bounds := mem_parts_uneven rest inside
      rcases fails with empty | past
      · omega
      · omega

/-- Such a device delivers every record exactly when all records are uneven. -/
theorem delivers_iff (serves : ServesParts repository rejecting environment)
    (reserves : Reserves (environment position (reserveOp device))) :
    Delivers repository device.deviceRecordTotal (notingRun environment device position) ↔
      Uneven repository device.deviceRecordTotal := by
  have bound := device.deviceRecordTotal.toNat_lt
  constructor
  · intro delivers index below
    obtain ⟨record, found, once⟩ := delivers index below
    refine ⟨record, found, fun even => ?_⟩
    obtain ⟨new, noted, known, _⟩ := (pass_notingRun serves reserves).noted
    have passed : record.passed ∈ new := by
      have all : (notingRun environment device position).state.noted = new := noted
      rw [← all]
      exact List.count_pos_iff.mp (by omega)
    obtain ⟨number, other, found', same, answers⟩ := known _ passed
    have identifiers := passed_injective same
    rw [find_recordId found, find_recordId found'] at identifiers
    rw [identifiers, found] at found'
    cases found'
    obtain ⟨part, member, empty⟩ := empty_mem_parts even
    exact answers part member (.inl empty)
  · intro uneven index below
    obtain ⟨record, found, _⟩ := uneven index below
    have low : record.recordId = (UInt8.ofNat index, 0) := find_recordId found
    refine ⟨record, found, ?_⟩
    refine (noted_iff serves reserves (List.mem_of_find?_eq_some found)).mpr ⟨?_, ?_, ?_, ?_⟩
    · rw [low]
    · rw [low, UInt8.lt_iff_toNat_lt, UInt8.toNat_ofNat_of_lt' (by change _ < 256; omega)]
      exact below
    · exact lostIn_uneven serves reserves uneven _
    · refine .inl (List.countP_eq_zero.mpr fun other _ => ?_)
      rw [lostIn_uneven serves reserves uneven other]
      exact Bool.false_ne_true

/-- The requests are well formed, and a device that rejects other requests delivers every record,
exactly when every index names a record whose body is not made of whole sections. A run that reaches
undefined behaviour in a handler asks for fewer records. -/
theorem requests_wellFormed_iff [Libm] {rejecter : Environment interface} {start : Nat}
    (serves : ServesParts repository answering environment)
    (reserves : Reserves (environment position (reserveOp device)))
    (rejects : ServesParts repository rejecting rejecter)
    (reserves' : Reserves (rejecter start (reserveOp device))) :
    let run := Vita4611Device.getAllSdrs.run environment device position
    let uneven := Uneven repository device.deviceRecordTotal
    (uneven → WellFormed repository (reads run)) ∧
      ((∀ reason, run.outcome ≠ .fault reason) → WellFormed repository (reads run) → uneven) ∧
      (Delivers repository device.deviceRecordTotal (notingRun rejecter device start) ↔ uneven) :=
  ⟨wellFormed_of_uneven serves reserves, uneven_of_wellFormed serves reserves,
    delivers_iff rejects reserves'⟩

end Requests

section Rejection

/-- Such a request for an existing record is empty or reaches past its end. -/
def SdrRepository.rejects (repository : SdrRepository) : List UInt8 → Bool
  | [_, _, low, high, offset, count] => (repository.find (low, high)).any fun record =>
      decide (count.toNat = 0 ∨ 5 + record.body.length < offset.toNat + count.toNat)
  | _ => false

/-- Those requests are answered with an error completion code. -/
def SdrRepository.serveInside (repository : SdrRepository) (arguments : Ipmb.SendRequest) :
    DBusReply :=
  if arguments.cmd = ipmitoolCmdGetSdr ∧ repository.rejects arguments.dataReceived then
    .reply ⟨0, arguments.netfn, 0, arguments.cmd, 0xC9, []⟩
  else repository.serve [] arguments

def rejectingEnvironment (repository : SdrRepository) : Environment interface := fun _ op =>
  match op with
  | .sendRequest arguments => repository.serveInside arguments
  | op => (default : op.Answer)

theorem rejectingEnvironment_serves (repository : SdrRepository) :
    ServesParts repository rejecting (rejectingEnvironment repository) where
  absent position device resId index offset count missing := by
    have accepted : ¬((getSdrRequest device resId index offset count).cmd = ipmitoolCmdGetSdr ∧
        repository.rejects (getSdrRequest device resId index offset count).dataReceived) := by
      rintro ⟨_, rejected⟩
      simp [getSdrRequest, SdrRepository.rejects, missing] at rejected
    have fails := (servingEnvironment_serves repository).absent position device resId index offset
      count missing
    have served : repository.serveInside (getSdrRequest device resId index offset count) =
        repository.serve [] (getSdrRequest device resId index offset count) := if_neg accepted
    change Fails (repository.serveInside _)
    rw [served]
    exact fails
  present position device resId index offset count record found := by
    have pays := (servingEnvironment_serves repository).present position device resId index offset
      count record found
    let asked := getSdrRequest device resId index offset count
    dsimp only
    by_cases rejected : asked.cmd = ipmitoolCmdGetSdr ∧ repository.rejects asked.dataReceived
    · have served : rejectingEnvironment repository position (.sendRequest asked) =
          .reply ⟨0, asked.netfn, 0, asked.cmd, 0xC9, []⟩ := if_pos rejected
      rw [served]
      refine .inl ⟨rfl, ?_⟩
      change count.toNat = 0 ∨ 5 + record.body.length < offset.toNat + count.toNat
      simpa [asked, getSdrRequest, SdrRepository.rejects, found] using rejected.2
    · have served : rejectingEnvironment repository position (.sendRequest asked) =
          servingEnvironment repository position (.sendRequest asked) := if_neg rejected
      rw [served]
      rcases pays with ⟨_, never⟩ | ⟨pays, _⟩
      · exact never.elim
      · refine .inr ⟨pays, fun outside => rejected ⟨rfl, ?_⟩⟩
        change count.toNat = 0 ∨ 5 + record.body.length < offset.toNat + count.toNat at outside
        simpa [asked, getSdrRequest, SdrRepository.rejects, found] using outside

theorem rejectingEnvironment_reserves (repository : SdrRepository) (position : Nat)
    (device : Vita4611Device) :
    Reserves (rejectingEnvironment repository position (reserveOp device)) :=
  servingEnvironment_reserves repository position device

/-- Both bodies have 28 bytes. -/
theorem requests_wellFormed_dense :
    WellFormed denseRepository (reads ((@Vita4611Device.getAllSdrs silentLibm).run
        (servingEnvironment denseRepository) countedTwo 0)) ∧
      Delivers denseRepository countedTwo.deviceRecordTotal
        (notingRun (rejectingEnvironment denseRepository) countedTwo 0) := by
  have uneven : Uneven denseRepository countedTwo.deviceRecordTotal := by
    intro index below
    change index < 2 at below
    obtain rfl | rfl : index = 0 ∨ index = 1 := by omega
    · exact ⟨compactRecord 0 5, rfl, by decide⟩
    · exact ⟨{ compactRecord 1 6 with nextRecordId := (0xFF, 0xFF) }, rfl, by decide⟩
  have formed := @requests_wellFormed_iff denseRepository (servingEnvironment denseRepository)
    countedTwo 0 silentLibm (rejectingEnvironment denseRepository) 0
    (servingEnvironment_serves denseRepository)
    (servingEnvironment_reserves denseRepository 0 countedTwo)
    (rejectingEnvironment_serves denseRepository)
    (rejectingEnvironment_reserves denseRepository 0 countedTwo)
  exact ⟨formed.1 uneven, formed.2.2.mpr uneven⟩

/-- A body of 44 bytes is followed by an empty request. -/
theorem requests_empty : ¬∀ (repository : SdrRepository) (environment : Environment interface)
    (device : Vita4611Device) (position : Nat), (∀ record ∈ repository.records, record.body ≠ []) →
      (∀ index < device.deviceRecordTotal.toNat,
        repository.find (UInt8.ofNat index, 0) ≠ none) →
      ServesParts repository answering environment →
      Reserves (environment position (reserveOp device)) →
      WellFormed repository
        (reads ((@Vita4611Device.getAllSdrs silentLibm).run environment device position)) := by
  intro always
  have formed := always temperatureRepository (servingEnvironment temperatureRepository) countedOne 0
    (by decide) (by decide) (servingEnvironment_serves temperatureRepository)
    (servingEnvironment_reserves temperatureRepository 0 countedOne)
  obtain ⟨_, _, least, _⟩ := formed.inside (partRead 0 true (49, 0)) (by decide +kernel)
  exact absurd least (by decide)

end Rejection

end Chassis.Vita4611
