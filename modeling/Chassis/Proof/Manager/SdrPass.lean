import Chassis.Proof.Manager.SdrSections

namespace Chassis.Vita4611
open Effect Program

section Handlers

variable (handle : UInt8 → List UInt8 → List UInt8 → Program interface Vita4611Device Unit)

/-- The reading of one record leaves open what becomes of its type, its header and its body. -/
def readSdrWith (resId : UInt8 × UInt8) (index : UInt8) : Program interface Vita4611Device Unit := do
  let sdrheader ← Vita4611Device.getSdrHeader resId index
  if sdrheader.length ≠ 7 then Pure.pure ()
  else
    let sdrvals ← Vita4611Device.getSdrVals resId index (sdrheader.getD 6 0)
    Program.tryCatch (handle (sdrheader.getD 5 0) sdrheader sdrvals) (fun _ => Pure.pure ())

/-- An attempt says whether its record was lost. -/
def attemptWith (resId : UInt8 × UInt8) (index : UInt8) : Program interface Vita4611Device Bool :=
  Program.tryCatch (do readSdrWith handle resId index; Pure.pure false) (fun _ => Pure.pure true)

def readSdrsWith (resId : UInt8 × UInt8) :
    List UInt8 → Int → Program interface Vita4611Device Unit
  | [], _ => Pure.pure ()
  | index :: rest, retryCount => do
      let failed ← attemptWith handle resId index
      if failed then
        if retryCount ≥ 3 then Pure.pure () else readSdrsWith resId rest (retryCount + 1)
      else readSdrsWith resId rest retryCount

def getAllSdrsWith : Program interface Vita4611Device Unit := do
  let resId ← Vita4611Device.reserveSdrRepo
  let junk ← indeterminate
  let device ← Program.read
  readSdrsWith handle resId ((List.range device.deviceRecordTotal.toNat).map UInt8.ofNat)
    junk.retryCount

end Handlers

/-- The handler of a record depends on its type. -/
def handleSdr [Libm] (recordType : UInt8) (sdrheader sdrvals : List UInt8) :
    Program interface Vita4611Device Unit :=
  if recordType = 1 then Vita4611Device.handleFullSdr sdrheader sdrvals
  else if recordType = 2 then Vita4611Device.handleCompactSdr sdrheader sdrvals
  else Pure.pure ()

theorem readSdrs_eq [Libm] (resId : UInt8 × UInt8) (indices : List UInt8) (retryCount : Int) :
    Vita4611Device.readSdrs resId indices retryCount =
      readSdrsWith handleSdr resId indices retryCount := by
  induction indices generalizing retryCount with
  | nil => rfl
  | cons index rest ih =>
      simp only [Vita4611Device.readSdrs, readSdrsWith, ih]
      rfl

/-- All records are read with the handlers of their types. -/
theorem getAllSdrs_eq [Libm] : Vita4611Device.getAllSdrs = getAllSdrsWith handleSdr := by
  simp only [Vita4611Device.getAllSdrs, getAllSdrsWith, readSdrs_eq]

/-- This handler only notes what it is passed. -/
def noteSdr (_ : UInt8) (sdrheader sdrvals : List UInt8) : Program interface Vita4611Device Unit :=
  Program.modify fun device =>
    device.pushSensor { (default : SensorRecord) with sdrHeaderRaw := sdrheader, sdrInfoRaw := sdrvals }

/-- The headers and bodies that a device has noted. -/
def Vita4611Device.noted (device : Vita4611Device) : List (List UInt8 × List UInt8) :=
  device.fruinfo.sensors.map fun sensor => (sensor.sdrHeaderRaw, sensor.sdrInfoRaw)

/-- What the handler of a record is passed. -/
def SdrRecord.passed (record : SdrRecord) : List UInt8 × List UInt8 := (record.header, record.body)

/-- The parts of a record that are asked for: its header and the sections of its body. -/
def SdrRecord.parts (record : SdrRecord) : List (Nat × Nat) :=
  (0, 5) :: bodySections record.body.length

/-- A device answers requests for parts of its records. Some parts may get no answer, and a request
for a record that does not exist gets none. -/
structure ServesParts (repository : SdrRepository) (rule : PartRule)
    (environment : Environment interface) : Prop where
  absent : ∀ (position : Nat) (device : Vita4611Device) (resId : UInt8 × UInt8)
      (index offset count : UInt8), repository.find (index, 0) = none →
    Fails (environment position (.sendRequest (getSdrRequest device resId index offset count)))
  present : ∀ (position : Nat) (device : Vita4611Device) (resId : UInt8 × UInt8)
      (index offset count : UInt8) (record : SdrRecord),
    repository.find (index, 0) = some record →
    let answer := environment position
      (.sendRequest (getSdrRequest device resId index offset count))
    Fails answer ∧ rule.fails record (offset.toNat, count.toNat) ∨
      Pays answer (record.read offset count) ∧ rule.answers record (offset.toNat, count.toNat)

/-- An attempt passes the whole record on, or it is lost at a part that may get no answer. -/
inductive Attempt (repository : SdrRepository) (rule : PartRule)
    (index : UInt8) (device : Vita4611Device) (run : Run interface Vita4611Device Bool) : Prop where
  | taken (record : SdrRecord) (found : repository.find (index, 0) = some record)
      (outcome : run.outcome = .value false)
      (noted : run.state.noted = device.noted ++ [record.passed])
      (reads : reads run = record.parts.map (partRead index true))
      (answers : ∀ part ∈ record.parts, rule.answers record part)
  | absent (missing : repository.find (index, 0) = none) (outcome : run.outcome = .value true)
      (state : run.state = device) (reads : reads run = [partRead index false (0, 5)])
  | lost (record : SdrRecord) (found : repository.find (index, 0) = some record)
      (outcome : run.outcome = .value true) (state : run.state = device)
      (front : List (Nat × Nat)) (part : Nat × Nat) (initial : front ++ [part] <+: record.parts)
      (fails : rule.fails record part)
      (reads : reads run = front.map (partRead index true) ++ [partRead index false part])

section Attempts

variable {repository : SdrRepository} {rule : PartRule}
  {environment : Environment interface} {device : Vita4611Device} {resId : UInt8 × UInt8}
  {index : UInt8}

/-- The header is the first part of a record. -/
theorem run_getSdrHeader (position : Nat) :
    let op : Op := .sendRequest (getSdrRequest device resId index 0 5)
    (Vita4611Device.getSdrHeader resId index).run environment device position =
      ⟨match (readReply (environment position op)).1 with
        | some response => .value response.data
        | none => .thrown .badOptionalAccess,
        device, [⟨device, op, environment position op⟩]⟩ := by
  intro op
  let later := (optionalValue (readReply (environment position op)).1 >>= fun response =>
    Pure.pure response.data : Program interface Vita4611Device (List UInt8)).run environment device
      (position + 1)
  have ran : (Vita4611Device.getSdrHeader resId index).run environment device position =
    ⟨later.outcome, later.state, ⟨device, op, environment position op⟩ :: later.calls⟩ := rfl
  rw [ran]
  dsimp only [later]
  rcases (readReply (environment position op)).1 with _ | response
  · rfl
  · rfl

section Headers

variable {handle : UInt8 → List UInt8 → List UInt8 → Program interface Vita4611Device Unit}
  (position : Nat)

/-- The request for the header of a record. -/
abbrev headerOp (device : Vita4611Device) (resId : UInt8 × UInt8) (index : UInt8) : Op :=
  .sendRequest (getSdrRequest device resId index 0 5)

/-- Without a header the record is lost. -/
theorem run_attempt_headless
    (fails : Fails (environment position (headerOp device resId index))) :
    (attemptWith handle resId index).run environment device position =
      ⟨.value true, device, [⟨device, headerOp device resId index,
        environment position (headerOp device resId index)⟩]⟩ := by
  have header := @run_getSdrHeader environment device resId index position
  have failed : (readReply (environment position (headerOp device resId index))).1 = none := fails
  dsimp only at header
  rw [failed] at header
  simp only [attemptWith, readSdrWith, run_tryCatch, run_bind, header, Run.andThen, Run.orElse,
    run_pure, List.append_nil]

/-- With a header of seven bytes the sections follow, and a whole body is noted. -/
theorem run_attempt_headed {response : Ipmb.SendRequestReply}
    (answered : (readReply (environment position (headerOp device resId index))).1 = some response)
    (length : response.data.length = 7) :
    let asked := ⟨device, headerOp device resId index,
      environment position (headerOp device resId index)⟩
    let body := (Vita4611Device.getSdrVals resId index (response.data.getD 6 0)).run environment
      device (position + 1)
    (attemptWith noteSdr resId index).run environment device position =
      match body.outcome with
      | .value sdrvals => ⟨.value false, body.state.pushSensor { (default : SensorRecord) with
          sdrHeaderRaw := response.data, sdrInfoRaw := sdrvals }, asked :: body.calls⟩
      | .thrown _ => ⟨.value true, body.state, asked :: body.calls⟩
      | .fault reason => ⟨.fault reason, body.state, asked :: body.calls⟩ := by
  have header := @run_getSdrHeader environment device resId index position
  have whole : ¬response.data.length ≠ 7 := not_not_intro length
  dsimp only at header ⊢
  rw [answered] at header
  simp only [attemptWith, readSdrWith, run_tryCatch, run_bind, header, andThen_value, run_ite,
    if_neg whole, List.length_singleton]
  rcases (Vita4611Device.getSdrVals resId index (response.data.getD 6 0)).run environment
    device (position + 1) with ⟨sdrvals | exception | reason, after, calls⟩
  · simp [Run.orElse, noteSdr]
  · simp [Run.orElse]
  · simp [Run.andThen, Run.orElse]

end Headers

theorem readOf_header (state : Vita4611Device) (answer : DBusReply) :
    readOf ⟨state, headerOp device resId index, answer⟩ =
      some (partRead index (readReply answer).1.isSome (0, 5)) := rfl

/-- The header of a record that is served gives the length of its body. -/
theorem served_header {record : SdrRecord} {position : Nat}
    (pays : Pays (environment position (headerOp device resId index)) (record.read 0 5)) :
    ∃ response, (readReply (environment position (headerOp device resId index))).1 = some response ∧
      response.data = record.header ∧ response.data.length = 7 ∧
      response.data.getD 6 0 = UInt8.ofNat record.body.length ∧
      readOf ⟨device, headerOp device resId index,
        environment position (headerOp device resId index)⟩ = some (partRead index true (0, 5)) := by
  obtain ⟨response, reply, data⟩ := readReply_pays pays
  have answered : (readReply (environment position (headerOp device resId index))).1 =
      some response := congrArg Prod.fst reply
  rw [read_header] at data
  refine ⟨response, answered, data, ?_, ?_, ?_⟩
  · rw [data]
    rfl
  · rw [data]
    rfl
  · refine (readOf_header device _).trans ?_
    rw [answered]
    rfl

/-- The sections of a record that is served are answered with their bytes. -/
theorem ServesParts.sections (serves : ServesParts repository rule environment)
    {record : SdrRecord} (found : repository.find (index, 0) = some record) (device : Vita4611Device)
    (resId : UInt8 × UInt8) : ∀ part ∈ bodySections record.body.length, ∀ position,
      let answer := environment position (.sendRequest (getSdrRequest device resId index
        (UInt8.ofNat part.1) (UInt8.ofNat part.2)))
      Fails answer ∧ rule.fails record part ∨
        Carries record part answer ∧ rule.answers record part := by
  intro part member position
  have small := bodySections_small record.short part member
  have offset : (UInt8.ofNat part.1).toNat = part.1 := UInt8.toNat_ofNat_of_lt' small.1
  have count : (UInt8.ofNat part.2).toNat = part.2 := UInt8.toNat_ofNat_of_lt' small.2
  rcases serves.present position device resId index (UInt8.ofNat part.1) (UInt8.ofNat part.2) record
    found with ⟨fails, may⟩ | ⟨pays, may⟩
  · rw [offset, count] at may
    exact .inl ⟨fails, may⟩
  · unfold SdrRecord.read at pays
    rw [offset, count] at pays may
    exact .inr ⟨⟨record.nextRecordId.1, record.nextRecordId.2, pays⟩, may⟩

/-- Every attempt on a device that serves its records ends in one of three ways. -/
theorem attempt_noteSdr (serves : ServesParts repository rule environment) (position : Nat) :
    Attempt repository rule index device
      ((attemptWith noteSdr resId index).run environment device position) := by
  rcases found : repository.find (index, 0) with _ | record
  · have fails := serves.absent position device resId index 0 5 found
    have failed : (readReply (environment position (headerOp device resId index))).1 = none := fails
    rw [run_attempt_headless position fails]
    refine .absent found rfl rfl ?_
    refine (List.filterMap_cons_some (readOf_header device _)).trans ?_
    rw [failed]
    rfl
  rcases serves.present position device resId index 0 5 record found with
    ⟨fails, may⟩ | ⟨pays, may⟩
  · have failed : (readReply (environment position (headerOp device resId index))).1 = none := fails
    rw [run_attempt_headless position fails]
    refine .lost record found rfl rfl [] (0, 5) (List.prefix_append [(0, 5)] _) may ?_
    refine (List.filterMap_cons_some (readOf_header device _)).trans ?_
    rw [failed]
    rfl
  · obtain ⟨response, answered, data, length, size, asked⟩ := served_header pays
    have ran := run_attempt_headed position answered length
    dsimp only at ran
    rw [size, getSdrVals_body] at ran
    rw [ran]
    obtain ⟨kept, read⟩ := run_readSections (bodySections record.body.length)
      (bodySections_small record.short) (serves.sections found device resId) [] (position + 1)
    cases read with
    | whole outcome all answers =>
        rw [outcome, slice_bodySections, List.nil_append, kept, data]
        refine .taken record found rfl ?_ ?_ (List.forall_mem_cons.mpr ⟨may, answers⟩)
        · simp [Vita4611Device.noted, Vita4611Device.pushSensor, Vita4611Device.setSensors,
            SdrRecord.passed]
        · refine (List.filterMap_cons_some asked).trans ?_
          exact congrArg _ all
    | broken exception outcome front lost initial fails all =>
        rw [outcome, kept]
        refine .lost record found rfl rfl ((0, 5) :: front) lost
          ((List.prefix_cons_inj (0, 5)).mpr initial) fails ?_
        refine (List.filterMap_cons_some asked).trans ?_
        exact congrArg _ all

end Attempts

/-- Some request for a record got no answer. -/
def lostIn (reads : List SdrRead) (index : Nat) : Bool :=
  reads.any fun read => read.recordId == (UInt8.ofNat index, 0) && !read.answered

/-- The loop gets past failures unless one of them finds the retry counter at its limit. -/
def Reaches (retryCount : Int) (failures : Nat) : Prop := failures = 0 ∨ retryCount + failures ≤ 3

instance (retryCount : Int) (failures : Nat) : Decidable (Reaches retryCount failures) :=
  inferInstanceAs (Decidable (_ ∨ _))

/-- The records below the given one that were lost. -/
def failuresBelow (reads : List SdrRead) (first index : Nat) : Nat :=
  (List.range' first (index - first)).countP (lostIn reads)

/-- A pass over the records from the first index on returns, and it notes each record once that was
reached and not lost. -/
structure Pass (repository : SdrRepository) (rule : PartRule)
    (first count : Nat) (retryCount : Int) (device : Vita4611Device)
    (run : Run interface Vita4611Device Unit) : Prop where
  returned : run.outcome = .value ()
  range : ∀ read ∈ reads run, ∃ index, first ≤ index ∧ index < first + count ∧
    ∃ device tried, Attempt repository rule (UInt8.ofNat index) device tried ∧
      read ∈ reads tried
  noted : ∃ new, run.state.noted = device.noted ++ new ∧
    (∀ entry ∈ new, ∃ index record, repository.find (index, 0) = some record ∧
      record.passed = entry ∧ ∀ part ∈ record.parts, rule.answers record part) ∧
    ∀ index record, index < 256 → repository.find (UInt8.ofNat index, 0) = some record →
      new.count record.passed =
        if first ≤ index ∧ index < first + count ∧ lostIn (reads run) index = false ∧
          Reaches retryCount (failuresBelow (reads run) first index) then 1 else 0

section Reads

variable {front back : List SdrRead} {first index : Nat}

theorem ofNat_injective {first second : Nat} (small : first < 256) (small' : second < 256)
    (same : UInt8.ofNat first = UInt8.ofNat second) : first = second := by
  have values := congrArg UInt8.toNat same
  rwa [UInt8.toNat_ofNat_of_lt' small, UInt8.toNat_ofNat_of_lt' small'] at values

/-- Reads of other records lose nothing of this one. -/
theorem lostIn_others (others : ∀ read ∈ front, read.recordId ≠ (UInt8.ofNat index, 0)) :
    lostIn front index = false := by
  rw [lostIn, List.any_eq_false]
  intro read member
  simp [others read member]

theorem lostIn_append : lostIn (front ++ back) index = (lostIn front index || lostIn back index) :=
  List.any_append

/-- Reads of the first record do not count for the later ones. -/
theorem lostIn_later (small : index < 256) (bound : first < 256)
    (own : ∀ read ∈ front, read.recordId = (UInt8.ofNat first, 0)) (later : first ≠ index) :
    lostIn (front ++ back) index = lostIn back index := by
  have others : lostIn front index = false := by
    apply lostIn_others
    intro read member same
    have number := congrArg Prod.fst ((own read member).symm.trans same)
    exact later (ofNat_injective bound small number)
  rw [lostIn_append, others, Bool.false_or]

theorem failuresBelow_first : failuresBelow front first first = 0 := by
  rw [failuresBelow, Nat.sub_self]
  rfl

/-- A later record counts the first one and the ones between. -/
theorem failuresBelow_later (below : first < index) (small : index ≤ 256)
    (own : ∀ read ∈ front, read.recordId = (UInt8.ofNat first, 0)) :
    failuresBelow (front ++ back) first index =
      (if lostIn (front ++ back) first then 1 else 0) + failuresBelow back (first + 1) index := by
  have steps : index - first = (index - (first + 1)) + 1 := by omega
  unfold failuresBelow
  rw [steps, List.range'_succ, List.countP_cons, Nat.add_comm]
  congr 1
  apply List.countP_congr
  intro other member
  have inside := List.mem_range'_1.mp member
  rw [lostIn_later (by omega) (by omega) own (by omega)]

end Reads

section Passes

variable {repository : SdrRepository} {rule : PartRule}
  {environment : Environment interface} {device : Vita4611Device} {resId : UInt8 × UInt8}
  {first count : Nat} {retryCount : Int}

/-- An attempt reads one record and says whether it lost it. -/
structure Tried (repository : SdrRepository) (rule : PartRule) (first : Nat) (device : Vita4611Device)
    (failed : Bool) (run : Run interface Vita4611Device Bool) : Prop where
  outcome : run.outcome = .value failed
  lost : lostIn (reads run) first = failed
  noted : ∃ head, run.state.noted = device.noted ++ head ∧
    (∀ entry ∈ head, ∃ index record, repository.find (index, 0) = some record ∧
      record.passed = entry ∧ ∀ part ∈ record.parts, rule.answers record part) ∧
    ∀ index record, index < 256 → repository.find (UInt8.ofNat index, 0) = some record →
      head.count record.passed = if index = first ∧ failed = false then 1 else 0

theorem find_recordId {recordId : UInt8 × UInt8} {record : SdrRecord}
    (found : repository.find recordId = some record) : record.recordId = recordId := by
  have matched := List.find?_some found
  exact eq_of_beq matched

/-- Every record is found under its own identifier. -/
theorem find_self {record : SdrRecord} (member : record ∈ repository.records) :
    repository.find record.recordId = some record := by
  rcases found : repository.find record.recordId with _ | other
  · exact (List.find?_eq_none.mp found record member (beq_self_eq_true _)).elim
  · have same := List.inj_on_of_nodup_map repository.distinct member
      (List.mem_of_find?_eq_some found) (find_recordId found).symm
    rw [same]

/-- What a handler is passed names the record. -/
theorem passed_injective {record other : SdrRecord} (same : record.passed = other.passed) :
    record.recordId = other.recordId := by
  have headers : record.header = other.header := congrArg Prod.fst same
  simp only [SdrRecord.header, List.cons.injEq] at headers
  exact Prod.ext headers.2.2.1 headers.2.2.2.1

theorem mem_partReads {parts : List (Nat × Nat)} {answered : Bool} {index : UInt8} {read : SdrRead}
    (member : read ∈ parts.map (partRead index answered)) :
    read.recordId = (index, 0) ∧ read.answered = answered := by
  obtain ⟨part, _, rfl⟩ := List.mem_map.mp member
  exact ⟨rfl, rfl⟩

/-- All reads of an attempt name its record. -/
theorem Attempt.own {index : UInt8} {run : Run interface Vita4611Device Bool}
    (attempt : Attempt repository rule index device run) :
    ∀ read ∈ reads run, read.recordId = (index, 0) := by
  intro read member
  cases attempt with
  | taken record found outcome noted all answers =>
      rw [all] at member
      exact (mem_partReads member).1
  | absent missing outcome state all =>
      rw [all] at member
      cases List.mem_singleton.mp member
      rfl
  | lost record found outcome state front part initial fails all =>
      rw [all, List.mem_append, List.mem_singleton] at member
      rcases member with before | rfl
      · exact (mem_partReads before).1
      · rfl

theorem Attempt.tried {run : Run interface Vita4611Device Bool} (bounded : first < 256)
    (attempt : Attempt repository rule (UInt8.ofNat first) device run) :
    ∃ failed, Tried repository rule first device failed run := by
  cases attempt with
  | taken record found outcome noted all answers =>
      refine ⟨false, outcome, ?_, [record.passed], noted, ?_, ?_⟩
      · rw [lostIn, List.any_eq_false, all]
        intro read member
        simp [(mem_partReads member).2]
      · intro entry member
        exact ⟨_, record, found, (List.mem_singleton.mp member).symm, answers⟩
      · intro index other small present
        by_cases same : index = first
        · rw [same, found] at present
          cases present
          simp [same]
        · have distinct : record.passed ≠ other.passed := by
            intro equal
            have ids := passed_injective equal
            rw [find_recordId found, find_recordId present] at ids
            exact same (ofNat_injective small bounded (congrArg Prod.fst ids).symm)
          simp [same, distinct]
  | absent missing outcome state all =>
      refine ⟨true, outcome, ?_, [], ?_, ?_, ?_⟩
      · simp [lostIn, all, partRead]
      · rw [state, List.append_nil]
      · exact List.forall_mem_nil _
      · simp
  | lost record found outcome state front part initial fails all =>
      refine ⟨true, outcome, ?_, [], ?_, ?_, ?_⟩
      · simp [lostIn, all, partRead]
      · rw [state, List.append_nil]
      · exact List.forall_mem_nil _
      · simp

/-- The reads of a pass name records of its range. -/
theorem Pass.recordId {run : Run interface Vita4611Device Unit}
    (pass : Pass repository rule first count retryCount device run) :
    ∀ read ∈ reads run, ∃ index, first ≤ index ∧ index < first + count ∧
      read.recordId = (UInt8.ofNat index, 0) := by
  intro read member
  obtain ⟨index, above, below, _, _, attempt, own⟩ := pass.range read member
  exact ⟨index, above, below, attempt.own read own⟩

/-- The first record is tried, and the pass over the later ones goes on from there. -/
theorem Pass.next {failed : Bool} {tried : Run interface Vita4611Device Bool}
    {after run : Run interface Vita4611Device Unit} {retries : Int}
    (attempt : Attempt repository rule (UInt8.ofNat first) device tried)
    (head : Tried repository rule first device failed tried)
    (rest : Pass repository rule (first + 1) count retries tried.state after)
    (bounded : first + (count + 1) ≤ 256) (outcome : run.outcome = after.outcome)
    (state : run.state = after.state) (asked : reads run = reads tried ++ reads after)
    (retried : ∀ failures, Reaches retries failures ↔
      Reaches retryCount ((if failed = true then 1 else 0) + failures)) :
    Pass repository rule first (count + 1) retryCount device run where
  returned := outcome.trans rest.returned
  range read member := by
    rw [asked, List.mem_append] at member
    rcases member with own | later
    · exact ⟨first, Nat.le_refl _, by omega, device, tried, attempt, own⟩
    · obtain ⟨index, above, below, same⟩ := rest.range read later
      exact ⟨index, by omega, by omega, same⟩
  noted := by
    obtain ⟨front, noted, known, fronted⟩ := head.noted
    obtain ⟨back, noted', known', backed⟩ := rest.noted
    have quiet : lostIn (reads after) first = false := by
      apply lostIn_others
      intro read member same
      obtain ⟨index, above, below, other⟩ := rest.recordId read member
      have number := ofNat_injective (by omega) (by omega)
        (congrArg Prod.fst (other.symm.trans same))
      omega
    have own : lostIn (reads run) first = failed := by
      rw [asked, lostIn_append, quiet, Bool.or_false, head.lost]
    refine ⟨front ++ back, by rw [state, noted', noted, List.append_assoc],
      List.forall_mem_append.mpr ⟨known, known'⟩, ?_⟩
    intro index record small found
    rw [List.count_append, fronted index record small found, backed index record small found]
    rcases Nat.lt_trichotomy index first with less | rfl | more
    · rw [if_neg (by omega), if_neg (by omega), if_neg (by omega)]
    · rw [if_neg (show ¬(index + 1 ≤ index ∧ _) by omega), Nat.add_zero, own]
      have reached : Reaches retryCount (failuresBelow (reads run) index index) := by
        rw [failuresBelow_first]
        exact .inl rfl
      simp [reached]
    · have same : lostIn (reads run) index = lostIn (reads after) index := by
        rw [asked, lostIn_later small (by omega) attempt.own (by omega)]
      have failures : failuresBelow (reads run) first index =
          (if failed = true then 1 else 0) + failuresBelow (reads after) (first + 1) index := by
        rw [← own, asked, failuresBelow_later more (by omega) attempt.own]
      rw [if_neg (by omega), Nat.zero_add, same, failures]
      apply if_congr _ rfl rfl
      constructor
      · rintro ⟨above, below, kept, reached⟩
        exact ⟨by omega, by omega, kept, (retried _).mp reached⟩
      · rintro ⟨above, below, kept, reached⟩
        exact ⟨by omega, by omega, kept, (retried _).mpr reached⟩

/-- A lost record ends the pass when the retries are used up, and no later record is reached. -/
theorem Pass.stop {tried : Run interface Vita4611Device Bool}
    {run : Run interface Vita4611Device Unit}
    (attempt : Attempt repository rule (UInt8.ofNat first) device tried)
    (head : Tried repository rule first device true tried) (limit : retryCount ≥ 3) (outcome : run.outcome = .value ())
    (state : run.state = tried.state) (asked : reads run = reads tried) :
    Pass repository rule first (count + 1) retryCount device run where
  returned := outcome
  range read member := by
    rw [asked] at member
    exact ⟨first, Nat.le_refl _, by omega, device, tried, attempt, member⟩
  noted := by
    obtain ⟨front, noted, known, fronted⟩ := head.noted
    refine ⟨front, by rw [state, noted], known, ?_⟩
    intro index record small found
    rw [fronted index record small found, if_neg (by simp), if_neg]
    rintro ⟨above, below, kept, reached⟩
    rcases Nat.eq_or_lt_of_le above with rfl | more
    · rw [asked, head.lost] at kept
      cases kept
    · have failures := @failuresBelow_later (reads tried) [] first index more (by omega)
        attempt.own
      rw [List.append_nil, head.lost, if_pos rfl] at failures
      rw [asked, failures] at reached
      rcases reached with none' | within
      · omega
      · omega

theorem run_readSdrsWith (indices : List UInt8) (index : UInt8)
    {handle : UInt8 → List UInt8 → List UInt8 → Program interface Vita4611Device Unit}
    (position : Nat) :
    (readSdrsWith handle resId (index :: indices) retryCount).run environment device position =
      ((attemptWith handle resId index).run environment device position).andThen fun failed next =>
        (if failed = true then
          if retryCount ≥ 3 then Pure.pure () else readSdrsWith handle resId indices (retryCount + 1)
        else readSdrsWith handle resId indices retryCount).run environment next
          (position +
            ((attemptWith handle resId index).run environment device position).calls.length) :=
  run_bind environment device position _ _

theorem reads_append {Value : Type} (outcome : Outcome interface Value) (state : Vita4611Device)
    (front back : List (Call interface Vita4611Device)) :
    reads ⟨outcome, state, front ++ back⟩ = front.filterMap readOf ++ back.filterMap readOf :=
  List.filterMap_append

/-- The first record is tried. A loss ends the pass when the retries are used up, and otherwise the
pass goes on with the later records. -/
theorem run_pass (serves : ServesParts repository rule environment) (bounded : first < 256)
    (position : Nat) :
    let rest (retries : Int) (state : Vita4611Device) (position : Nat) :=
      (readSdrsWith noteSdr resId ((List.range' (first + 1) count).map UInt8.ofNat) retries).run
        environment state position
    let run := (readSdrsWith noteSdr resId ((List.range' first (count + 1)).map UInt8.ofNat)
      retryCount).run environment device position
    ∃ failed tried, Attempt repository rule (UInt8.ofNat first) device tried ∧
      Tried repository rule first device failed tried ∧
      ((failed = true ∧ retryCount ≥ 3 ∧ run.outcome = .value () ∧ run.state = tried.state ∧
          reads run = reads tried) ∨
        ∃ retries position,
          (∀ failures, Reaches retries failures ↔
            Reaches retryCount ((if failed = true then 1 else 0) + failures)) ∧
          run.outcome = (rest retries tried.state position).outcome ∧
          run.state = (rest retries tried.state position).state ∧
          reads run = reads tried ++ reads (rest retries tried.state position)) := by
  intro rest run
  have attempt := @attempt_noteSdr repository rule environment device resId
    (UInt8.ofNat first) serves position
  obtain ⟨failed, tried⟩ := attempt.tried bounded
  refine ⟨failed, _, attempt, tried, ?_⟩
  dsimp only [run]
  rw [List.range'_succ, List.map_cons, run_readSdrsWith]
  generalize (attemptWith noteSdr resId (UInt8.ofNat first)).run environment device position =
    first' at attempt tried
  obtain ⟨outcome, state, calls⟩ := first'
  obtain rfl : outcome = .value failed := tried.outcome
  rw [andThen_value]
  cases failed with
  | false =>
      refine .inr ⟨retryCount, position + calls.length, ?_, rfl, rfl, reads_append _ _ _ _⟩
      simp
  | true =>
      by_cases limit : retryCount ≥ 3
      · refine .inl ⟨rfl, limit, ?_⟩
        rw [if_pos rfl, if_pos limit]
        exact ⟨rfl, rfl, congrArg (List.filterMap readOf) (List.append_nil calls)⟩
      · refine .inr ⟨retryCount + 1, position + calls.length, ?_⟩
        rw [if_pos rfl, if_neg limit]
        refine ⟨?_, rfl, rfl, reads_append _ _ _ _⟩
        intro failures
        unfold Reaches
        omega

/-- A device that serves its records is passed over in order until the retries are used up. -/
theorem pass_noteSdr (serves : ServesParts repository rule environment)
    (bounded : first + count ≤ 256) (position : Nat) :
    Pass repository rule first count retryCount device
      ((readSdrsWith noteSdr resId ((List.range' first count).map UInt8.ofNat) retryCount).run
        environment device position) := by
  induction count generalizing first retryCount device position with
  | zero =>
      refine ⟨rfl, List.forall_mem_nil _, [], (List.append_nil _).symm, List.forall_mem_nil _, ?_⟩
      intro index record _ _
      rw [if_neg (by omega)]
      rfl
  | succ count ih =>
      obtain ⟨failed, tried, attempt, head, stopped | continued⟩ :=
        @run_pass repository rule environment device resId first count retryCount serves (by omega)
          position
      · obtain ⟨rfl, limit, outcome, state, asked⟩ := stopped
        exact Pass.stop attempt head limit outcome state asked
      · obtain ⟨retries, later, retried, outcome, state, asked⟩ := continued
        exact Pass.next attempt head (ih (by omega) later) bounded outcome state asked retried

end Passes

end Chassis.Vita4611
