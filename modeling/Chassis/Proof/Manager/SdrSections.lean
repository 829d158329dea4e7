import Chassis.Proof.Manager.SdrReread

namespace Chassis.Vita4611
open Effect Program

/-- The request for a part of a record. -/
def getSdrRequest (device : Vita4611Device) (resId : UInt8 × UInt8) (index offset count : UInt8) :
    Ipmb.SendRequest :=
  ⟨device.channel, device.ipmiAddress, netfnSE, 0, ipmitoolCmdGetSdr,
    [resId.1, resId.2, index, 0, offset, count]⟩

/-- A body is read in whole sections of `0x16` bytes and one shorter section, which may be empty. -/
def sections (offset : Nat) : Nat → Nat → List (Nat × Nat)
  | 0, rest => [(offset, rest)]
  | whole + 1, rest => (offset, 22) :: sections (offset + 22) whole rest

/-- The sections of a body lie behind the header of the record. -/
def bodySections (length : Nat) : List (Nat × Nat) := sections 5 (length / 22) (length % 22)

/-- The sections are asked for in order, and a failed request ends the reading. -/
def readSections (resId : UInt8 × UInt8) (index : UInt8) :
    List (Nat × Nat) → List UInt8 → Program interface Vita4611Device (List UInt8)
  | [], body => Pure.pure body
  | part :: rest, body => do
      let device ← Program.read
      let (response, _) ← sendIpmbRequest device.channel device.ipmiAddress netfnSE 0
        ipmitoolCmdGetSdr [resId.1, resId.2, index, 0, UInt8.ofNat part.1, UInt8.ofNat part.2]
      let response ← optionalValue response
      readSections resId index rest (body ++ response.data.drop 2)

/-- The loop visits the sections. Its exit test on the section just read is right because the last
section is shorter than the others. -/
theorem getSdrSections_eq (resId : UInt8 × UInt8) (index : UInt8) (whole rest fuel done : Nat)
    (body : List UInt8) (shorter : rest < 22) (enough : whole < fuel)
    (bounded : done + 22 * whole + rest ≤ 255) :
    Vita4611Device.getSdrSections resId index (done + 22 * whole + rest) fuel 0x16
        (UInt8.ofNat done) (UInt8.ofNat (done + 5)) body =
      readSections resId index (sections (done + 5) whole rest) body := by
  induction whole generalizing fuel done body with
  | zero =>
      obtain ⟨fuel, rfl⟩ := Nat.exists_eq_add_of_lt enough
      have total : (UInt8.ofNat done).toNat = done :=
        UInt8.toNat_ofNat_of_lt' (by change _ < 256; omega)
      have size : (0x16 : UInt8).toNat = 22 := rfl
      have last : done + 22 > done + 22 * 0 + rest := by omega
      have part : UInt8.ofNat (done + 22 * 0 + rest) - UInt8.ofNat done = UInt8.ofNat rest := by
        rw [← UInt8.ofNat_sub (by omega), show done + 22 * 0 + rest - done = rest by omega]
      have other : UInt8.ofNat rest ≠ 0x16 := by
        intro same
        have value := congrArg UInt8.toNat same
        rw [UInt8.toNat_ofNat_of_lt' (by change _ < 256; omega), size] at value
        omega
      simp only [Nat.zero_add, Vita4611Device.getSdrSections, sections, readSections, total, size,
        if_pos last, part, if_neg other]
  | succ whole ih =>
      obtain ⟨fuel, rfl⟩ := Nat.exists_eq_add_of_lt enough
      have total : (UInt8.ofNat done).toNat = done :=
        UInt8.toNat_ofNat_of_lt' (by change _ < 256; omega)
      have size : (0x16 : UInt8).toNat = 22 := rfl
      have more : ¬done + 22 > done + 22 * (whole + 1) + rest := by omega
      have total' : UInt8.ofNat done + 0x16 = UInt8.ofNat (done + 22) :=
        (UInt8.ofNat_add done 22).symm
      have offset' : UInt8.ofNat (done + 5) + 0x16 = UInt8.ofNat (done + 22 + 5) := by
        rw [show done + 22 + 5 = done + 5 + 22 by omega]
        exact (UInt8.ofNat_add (done + 5) 22).symm
      have length : done + 22 + 22 * whole + rest = done + 22 * (whole + 1) + rest := by omega
      have later := fun body => ih (whole + 1 + fuel) (done + 22) body (by omega) (by omega)
      rw [length, show done + 22 + 5 = done + 5 + 22 by omega] at later
      simp only [Vita4611Device.getSdrSections, sections, readSections, total, size,
        if_neg more, if_true, total', offset']
      rw [show done + 22 + 5 = done + 5 + 22 by omega]
      simp only [later]
      rfl

/-- A body of any length is read in its sections. -/
theorem getSdrVals_eq (resId : UInt8 × UInt8) (index length : UInt8) :
    Vita4611Device.getSdrVals resId index length =
      readSections resId index (bodySections length.toNat) [] := by
  have bound := length.toNat_lt
  have parts := Nat.div_add_mod length.toNat 22
  have shorter := Nat.mod_lt length.toNat (show 0 < 22 by omega)
  have read := getSdrSections_eq resId index (length.toNat / 22) (length.toNat % 22) 256 0 []
    shorter (by omega) (by omega)
  rw [Nat.zero_add, parts] at read
  exact read

/-- A body whose length the header gives is read in the sections of that length. -/
theorem getSdrVals_body (resId : UInt8 × UInt8) (index : UInt8) (record : SdrRecord) :
    Vita4611Device.getSdrVals resId index (UInt8.ofNat record.body.length) =
      readSections resId index (bodySections record.body.length) [] := by
  have short := record.short
  rw [getSdrVals_eq, UInt8.toNat_ofNat_of_lt' (by change _ < 256; omega)]

section Contents

/-- The bytes of a record that a section holds. -/
def SdrRecord.slice (record : SdrRecord) (part : Nat × Nat) : List UInt8 :=
  (record.bytes.drop part.1).take part.2

/-- Consecutive sections hold consecutive bytes. -/
theorem slice_sections (record : SdrRecord) (offset whole rest : Nat) :
    (sections offset whole rest).flatMap record.slice =
      (record.bytes.drop offset).take (22 * whole + rest) := by
  induction whole generalizing offset with
  | zero => simp [sections, SdrRecord.slice]
  | succ whole ih =>
      have parts : (record.bytes.drop offset).take (22 + (22 * whole + rest)) =
          record.slice (offset, 22) ++
            ((record.bytes.drop offset).drop 22).take (22 * whole + rest) := List.take_add
      rw [sections, List.flatMap_cons, ih,
        show 22 * (whole + 1) + rest = 22 + (22 * whole + rest) by omega, parts, List.drop_drop]

theorem slice_bodySections (record : SdrRecord) :
    (bodySections record.body.length).flatMap record.slice = record.body := by
  have header : record.bytes.drop 5 = record.body := rfl
  unfold bodySections
  rw [slice_sections, header, Nat.div_add_mod, List.take_length]

/-- Every section starts at a multiple of `0x16` and only the last one is shorter. -/
theorem mem_sections {offset whole rest : Nat} {part : Nat × Nat}
    (member : part ∈ sections offset whole rest) :
    ∃ number ≤ whole, part.1 = offset + 22 * number ∧
      (number < whole ∧ part.2 = 22 ∨ number = whole ∧ part.2 = rest) := by
  induction whole generalizing offset with
  | zero =>
      cases List.mem_singleton.mp member
      exact ⟨0, Nat.le_refl 0, rfl, .inr ⟨rfl, rfl⟩⟩
  | succ whole ih =>
      rcases List.mem_cons.mp member with rfl | later
      · exact ⟨0, by omega, rfl, .inl ⟨by omega, rfl⟩⟩
      · obtain ⟨number, bound, start, size⟩ := ih later
        exact ⟨number + 1, by omega, by omega, by omega⟩

/-- The sections of a body lie inside its record, and their numbers fit in a byte. -/
theorem mem_bodySections {length : Nat} (short : length ≤ 255) {part : Nat × Nat}
    (member : part ∈ bodySections length) :
    5 ≤ part.1 ∧ part.1 + part.2 ≤ 5 + length ∧ part.1 < 256 ∧ part.2 ≤ 22 := by
  obtain ⟨number, bound, start, size⟩ := mem_sections member
  omega

end Contents

/-- A Get SDR request of a run and whether its sender could use the answer. -/
structure SdrRead where
  recordId : UInt8 × UInt8
  offset : Nat
  count : Nat
  answered : Bool
  deriving DecidableEq

def readOf : Call interface Vita4611Device → Option SdrRead
  | ⟨_, .sendRequest arguments, answer⟩ =>
      if arguments.cmd = ipmitoolCmdGetSdr then
        match arguments.dataReceived with
        | [_, _, low, high, offset, count] =>
            some ⟨(low, high), offset.toNat, count.toNat, (readReply answer).1.isSome⟩
        | _ => none
      else none
  | _ => none

/-- The Get SDR requests of a run in order. -/
def reads {Value : Type} (run : Run interface Vita4611Device Value) : List SdrRead :=
  run.calls.filterMap readOf

/-- The request for a part of a record has this outcome. -/
def partRead (index : UInt8) (answered : Bool) (part : Nat × Nat) : SdrRead :=
  ⟨(index, 0), part.1, part.2, answered⟩

/-- A rule says which parts of a record a device may leave without an answer, and which parts it may
answer. -/
structure PartRule where
  fails : SdrRecord → Nat × Nat → Prop
  answers : SdrRecord → Nat × Nat → Prop

/-- A reading either gets every part of the record, or it ends with an exception at a part that may
get no answer. -/
inductive PartsRead (rule : PartRule) (index : UInt8) (record : SdrRecord)
    (parts : List (Nat × Nat)) (body : List UInt8)
    (run : Run interface Vita4611Device (List UInt8)) : Prop where
  | whole (outcome : run.outcome = .value (body ++ parts.flatMap record.slice))
      (reads : reads run = parts.map (partRead index true))
      (answers : ∀ part ∈ parts, rule.answers record part)
  | broken (exception : Exception) (outcome : run.outcome = .thrown exception)
      (front : List (Nat × Nat)) (lost : Nat × Nat) (initial : front ++ [lost] <+: parts)
      (fails : rule.fails record lost)
      (reads : reads run = front.map (partRead index true) ++ [partRead index false lost])

section Reading

variable {record : SdrRecord} {environment : Environment interface} {device : Vita4611Device}
  {resId : UInt8 × UInt8} {index : UInt8} {rule : PartRule}

/-- The answer to a request for a part carries the bytes of the part behind a record identifier. -/
def Carries (record : SdrRecord) (part : Nat × Nat) (answer : DBusReply) : Prop :=
  ∃ low high, Pays answer (low :: high :: record.slice part)

theorem readOf_getSdr {part : Nat × Nat} (small : part.1 < 256 ∧ part.2 < 256)
    (state : Vita4611Device) (answer : DBusReply) :
    readOf ⟨state, .sendRequest (getSdrRequest device resId index (UInt8.ofNat part.1)
      (UInt8.ofNat part.2)), answer⟩ = some (partRead index (readReply answer).1.isSome part) := by
  unfold readOf getSdrRequest partRead
  simp only [if_true, UInt8.toNat_ofNat_of_lt' small.1, UInt8.toNat_ofNat_of_lt' small.2]

/-- A part that was answered comes before the reading of the other parts. -/
theorem PartsRead.next {part : Nat × Nat} {rest : List (Nat × Nat)} {body : List UInt8}
    {run after : Run interface Vita4611Device (List UInt8)}
    (read : PartsRead rule index record rest (body ++ record.slice part) after)
    (outcome : run.outcome = after.outcome) (answers : rule.answers record part)
    (asked : reads run = partRead index true part :: reads after) :
    PartsRead rule index record (part :: rest) body run := by
  cases read with
  | whole ended all answered =>
      apply PartsRead.whole
      · rw [outcome, ended, List.flatMap_cons, List.append_assoc]
      · rw [asked, all, List.map_cons]
      · exact List.forall_mem_cons.mpr ⟨answers, answered⟩
  | broken exception ended front lost initial fails all =>
      apply PartsRead.broken exception (outcome.trans ended) (part :: front) lost
        ((List.prefix_cons_inj part).mpr initial) fails
      rw [asked, all, List.map_cons, List.cons_append]

/-- One part is one call, and the reading goes on only with an answer. -/
theorem run_readSections_cons (part : Nat × Nat) (rest : List (Nat × Nat)) (body : List UInt8)
    (position : Nat) :
    let op : Op := .sendRequest (getSdrRequest device resId index (UInt8.ofNat part.1)
      (UInt8.ofNat part.2))
    let later := (optionalValue (readReply (environment position op)).1 >>= fun response =>
      readSections resId index rest (body ++ response.data.drop 2)).run environment device
        (position + 1)
    (readSections resId index (part :: rest) body).run environment device position =
      { later with calls := ⟨device, op, environment position op⟩ :: later.calls } := rfl

/-- The parts are read in order up to the first that gets no answer. -/
theorem run_readSections (parts : List (Nat × Nat))
    (small : ∀ part ∈ parts, part.1 < 256 ∧ part.2 < 256)
    (answered : ∀ part ∈ parts, ∀ position,
      let answer := environment position (.sendRequest (getSdrRequest device resId index
        (UInt8.ofNat part.1) (UInt8.ofNat part.2)))
      Fails answer ∧ rule.fails record part ∨
        Carries record part answer ∧ rule.answers record part) (body : List UInt8) (position : Nat) :
    ((readSections resId index parts body).run environment device position).state = device ∧
      PartsRead rule index record parts body
        ((readSections resId index parts body).run environment device position) := by
  induction parts generalizing body position with
  | nil => exact ⟨rfl, .whole (by simp [readSections]) rfl (List.forall_mem_nil _)⟩
  | cons part rest ih =>
      have asked (answer : DBusReply) : readOf ⟨device, .sendRequest (getSdrRequest device resId index
          (UInt8.ofNat part.1) (UInt8.ofNat part.2)), answer⟩ =
            some (partRead index (readReply answer).1.isSome part) :=
        readOf_getSdr (small part List.mem_cons_self) device answer
      rw [run_readSections_cons]
      rcases answered part List.mem_cons_self position with
        ⟨fails, may⟩ | ⟨⟨low, high, pays⟩, may⟩
      · have failed : (readReply (environment position (.sendRequest (getSdrRequest device resId index
            (UInt8.ofNat part.1) (UInt8.ofNat part.2))))).1 = none := fails
        refine ⟨by rw [failed]; rfl, .broken .badOptionalAccess (by rw [failed]; rfl) [] part
          (List.prefix_append [part] rest) may ?_⟩
        refine (List.filterMap_cons_some (asked _)).trans ?_
        rw [failed]
        rfl
      · obtain ⟨result, reply, data⟩ := readReply_pays pays
        obtain ⟨kept, read⟩ := ih (fun other member => small other (List.mem_cons_of_mem _ member))
          (fun other member => answered other (List.mem_cons_of_mem _ member))
          (body ++ result.data.drop 2) (position + 1)
        have drop : result.data.drop 2 = record.slice part := by
          rw [data]
          rfl
        rw [drop] at kept read
        have later : (optionalValue (readReply (environment position (.sendRequest (getSdrRequest
            device resId index (UInt8.ofNat part.1) (UInt8.ofNat part.2))))).1 >>= fun response =>
              readSections resId index rest (body ++ response.data.drop 2)) =
            readSections resId index rest (body ++ record.slice part) := by
          rw [reply, ← drop]
          rfl
        dsimp only
        rw [later]
        refine ⟨kept, read.next rfl may ?_⟩
        refine (List.filterMap_cons_some (asked _)).trans ?_
        rw [reply]
        rfl

/-- Every part is answered. -/
def answering : PartRule := ⟨fun _ _ => False, fun _ _ => True⟩

/-- The device answers each request for a part inside the record with exactly that part. -/
def AnswersParts (environment : Environment interface) (device : Vita4611Device)
    (resId : UInt8 × UInt8) (index : UInt8) (record : SdrRecord) : Prop :=
  ∀ (position : Nat) (offset count : UInt8), offset.toNat + count.toNat ≤ 5 + record.body.length →
    Carries record (offset.toNat, count.toNat)
      (environment position (.sendRequest (getSdrRequest device resId index offset count)))

/-- The numbers of every section of a body fit in a byte. -/
theorem bodySections_small {length : Nat} (short : length ≤ 255) :
    ∀ part ∈ bodySections length, part.1 < 256 ∧ part.2 < 256 := by
  intro part member
  obtain ⟨_, _, first, second⟩ := mem_bodySections short member
  omega

/-- A body of any length up to 255 bytes is returned whole. -/
theorem getSdrVals_whole (answers : AnswersParts environment device resId index record)
    (position : Nat) :
    ((Vita4611Device.getSdrVals resId index (UInt8.ofNat record.body.length)).run environment
      device position).outcome = .value record.body := by
  have short := record.short
  have small := bodySections_small short
  have carried : ∀ part ∈ bodySections record.body.length, ∀ position,
      let answer := environment position (.sendRequest (getSdrRequest device resId index
        (UInt8.ofNat part.1) (UInt8.ofNat part.2)))
      Fails answer ∧ answering.fails record part ∨
        Carries record part answer ∧ answering.answers record part := by
    intro part member position
    have offset : (UInt8.ofNat part.1).toNat = part.1 :=
      UInt8.toNat_ofNat_of_lt' (small part member).1
    have count : (UInt8.ofNat part.2).toNat = part.2 :=
      UInt8.toNat_ofNat_of_lt' (small part member).2
    have inside := (mem_bodySections short member).2.1
    have answer := answers position (UInt8.ofNat part.1) (UInt8.ofNat part.2) (by omega)
    rw [offset, count] at answer
    exact .inr ⟨answer, trivial⟩
  rw [getSdrVals_body]
  cases (run_readSections (bodySections record.body.length) small carried [] position).2 with
  | whole outcome reads answers => rw [outcome, slice_bodySections, List.nil_append]
  | broken exception outcome front lost initial fails reads => exact fails.elim

end Reading

/-- A device that serves one record answers each request for a part of it. -/
theorem singleEnvironment_answers {record : SdrRecord} {index : UInt8}
    (identifier : record.recordId = (index, 0)) (device : Vita4611Device)
    (resId : UInt8 × UInt8) :
    AnswersParts (singleEnvironment record) device resId index record := by
  intro position offset count _
  have asks : (getSdrRequest device resId index offset count).cmd = ipmitoolCmdGetSdr := rfl
  rcases serve_single record asks rfl with ⟨_, pays⟩ | ⟨other, _⟩
  · exact ⟨record.nextRecordId.1, record.nextRecordId.2, pays⟩
  · exact (other identifier).elim

/-- A body of two whole sections takes three requests. -/
theorem getSdrVals_whole_temperature :
    ((Vita4611Device.getSdrVals (1, 0) 0
      (UInt8.ofNat (temperatureRecord 0 5).body.length)).run
        (singleEnvironment (temperatureRecord 0 5)) default 0).outcome =
      .value (temperatureRecord 0 5).body :=
  getSdrVals_whole (singleEnvironment_answers rfl default (1, 0)) 0

end Chassis.Vita4611
