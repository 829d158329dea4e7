import Chassis.Proof.Store.Sheet

namespace Chassis.Store
open Json

section Tidy

variable {Number : Type} {read : List UInt8 → Option Number}

/-- A sheet is tidy when its names increase and so do the keys of each rail. -/
structure IsTidy (members : List (List UInt8 × Value Number)) : Prop where
  sheet : IsSheet members
  names : Ordered members
  keys : ∀ member ∈ members, ∀ entries, member.2 = .object entries → Ordered entries

def Tidy (j : Value Number) : Prop := ∃ members, j = .object members ∧ IsTidy members

/-- Members that are inserted in turn are ordered. -/
theorem foldl_insertMember_ordered {Element : Type} (key : Element → List UInt8)
    (value : Element → Value Number) (elements : List Element)
    {members : List (List UInt8 × Value Number)} (ordered : Ordered members) :
    Ordered (elements.foldl (fun members element => insertMember (key element) (value element) members)
      members) := by
  induction elements generalizing members with
  | nil => exact ordered
  | cons element rest ih => exact ih (insertMember_ordered _ _ ordered)

theorem Document.tidy (document : Document read) : Tidy document.value := by
  refine ⟨_, rfl, document.isSheet, ?_, ?_⟩
  · exact foldl_insertMember_ordered Rail.name Rail.value document.rails List.Pairwise.nil
  · have each (rails : List (Rail read)) {members : List (List UInt8 × Value Number)}
        (old : ∀ member ∈ members, ∀ entries, member.2 = .object entries → Ordered entries) :
        ∀ member ∈ railMembers rails members, ∀ entries, member.2 = .object entries →
          Ordered entries := by
      induction rails generalizing members with
      | nil => exact old
      | cons rail rest ih =>
          refine ih (insertMember_all old ?_)
          rintro entries ⟨⟩
          exact foldl_insertMember_ordered Entry.key Entry.value rail.entries List.Pairwise.nil
    exact each document.rails nofun

/-- An assigned limit is inserted into its rail, which is inserted into the sheet. A missing rail
starts without entries. -/
theorem assignLimit_inserts {members : List (List UInt8 × Value Number)} (sheet : IsSheet members)
    (outer inner : List UInt8) (value : Number) : ∃ entries,
    (members.lookup outer = none ∧ entries = [] ∨ members.lookup outer = some (.object entries)) ∧
      assignLimit outer inner value (.object members) = some (.object
        (insertMember outer (.object (insertMember inner (.number value) entries)) members)) := by
  cases found : members.lookup outer with
  | none =>
      refine ⟨[], .inl ⟨rfl, rfl⟩, ?_⟩
      rw [assignLimit, Value.member, found]
      rfl
  | some present =>
      obtain ⟨front, back, split, _⟩ := List.lookup_eq_some_iff.mp found
      have member : (outer, present) ∈ members := by
        rw [split]
        exact List.mem_append_right front List.mem_cons_self
      obtain ⟨_, entries, object, _⟩ := sheet.rails _ member
      cases object
      refine ⟨entries, .inr rfl, ?_⟩
      rw [assignLimit, Value.member, found]
      rfl

theorem lookup_mem {members : List (List UInt8 × Value Number)} {key : List UInt8}
    {value : Value Number} (found : members.lookup key = some value) : (key, value) ∈ members := by
  obtain ⟨front, back, split, _⟩ := List.lookup_eq_some_iff.mp found
  rw [split]
  exact List.mem_append_right front List.mem_cons_self

/-- A limit can be assigned in a tidy sheet, and it leaves a tidy one. -/
theorem assignLimit_tidy {j : Value Number} (tidy : Tidy j) {outer inner : List UInt8}
    (outerPlain : Plain outer) (innerPlain : Plain inner) (value : Number) :
    ∃ next, assignLimit outer inner value j = some next ∧ Tidy next := by
  obtain ⟨members, rfl, tidy⟩ := tidy
  obtain ⟨entries, present, assigned⟩ := assignLimit_inserts tidy.sheet outer inner value
  have ordered : Ordered entries := by
    rcases present with ⟨_, rfl⟩ | found
    · exact List.Pairwise.nil
    · exact tidy.keys _ (lookup_mem found) entries rfl
  obtain ⟨changed, same, sheet⟩ :=
    assignLimit_isSheet tidy.sheet outerPlain innerPlain value assigned
  cases same
  refine ⟨_, assigned, _, rfl, sheet, insertMember_ordered _ _ tidy.names, ?_⟩
  refine insertMember_all tidy.keys ?_
  rintro _ ⟨⟩
  exact insertMember_ordered _ _ ordered

/-- The number that is kept for a bound of a name. -/
def limitIn (j : Value Number) (name bound : List UInt8) : Option Number :=
  ((j.member name).bind (Value.member bound)).bind Value.toNumber

/-- An assignment changes the limit that it names. -/
theorem limitIn_assignLimit {j next : Value Number} (tidy : Tidy j) {outer inner : List UInt8}
    {value : Number} (assigned : assignLimit outer inner value j = some next)
    (bound : List UInt8) :
    limitIn next outer bound = if bound = inner then some value else limitIn j outer bound := by
  obtain ⟨members, rfl, tidy⟩ := tidy
  obtain ⟨entries, present, inserts⟩ := assignLimit_inserts tidy.sheet outer inner value
  cases assigned.symm.trans inserts
  have changed : (Value.object (insertMember outer
      (.object (insertMember inner (.number value) entries)) members)).member outer =
        some (.object (insertMember inner (.number value) entries)) := by
    rw [Value.member, lookup_insertMember, if_pos rfl]
  have old : limitIn (.object members) outer bound = (entries.lookup bound).bind Value.toNumber := by
    rw [limitIn, Value.member]
    rcases present with ⟨found, rfl⟩ | found
    · rw [found]
      rfl
    · rw [found]
      rfl
  rw [limitIn, changed, Option.bind_some, Value.member, lookup_insertMember, old]
  split
  next => rfl
  next => rfl

end Tidy

section Reading

variable {numbers : Numbers}

/-- Reading back keeps the keys. -/
theorem rereadMembers_ordered {members : List (List UInt8 × Value numbers.Number)}
    (ordered : Ordered members) : Ordered (rereadMembers members) :=
  List.pairwise_map.mpr ordered

/-- Entries whose keys increase make the object of those entries. -/
theorem rail_value {rail : Rail numbers.read} (ordered : Ordered (rail.entries.map Entry.member)) :
    rail.value = rail.member.2 := by
  have folded := @foldl_insertMember_append _ (rail.entries.map Entry.member) [] ordered
  rw [List.foldl_map, List.nil_append] at folded
  exact congrArg Value.object folded

/-- A tidy sheet is read back as it was printed, with a null for each number that has no text. -/
theorem parse_dump {j : Value numbers.Number} (tidy : Tidy j) :
    parse numbers.read (dump numbers.print 4 0 j) = some (j.substitute (reread numbers)) := by
  obtain ⟨members, rfl, tidy⟩ := tidy
  obtain ⟨document, printed, same⟩ := dump_sheet tidy.sheet
  have entered : ∀ rail ∈ document.rails, rail.value = rail.member.2 := by
    intro rail listed
    have reread : rail.member ∈ rereadMembers members := same ▸ List.mem_map_of_mem listed
    obtain ⟨member, original, equal⟩ := List.mem_map.mp reread
    obtain ⟨_, entries, object, _⟩ := tidy.sheet.rails member original
    have ordered := rereadMembers_ordered (tidy.keys member original entries object)
    have read := congrArg Prod.snd equal
    rw [object, substitute_object] at read
    exact rail_value (Value.object.inj read ▸ ordered)
  have folded : railMembers document.rails [] = rereadMembers members := by
    have inserted := @foldl_insertMember_append _ (rereadMembers members) []
      (rereadMembers_ordered tidy.names)
    rw [← same, List.foldl_map, List.nil_append] at inserted
    rw [← same, ← inserted, railMembers]
    exact List.foldl_ext _ _ _ fun members rail listed => by rw [entered rail listed]; rfl
  rw [printed, Document.text, document.parse_rows [], Document.value, folded, substitute_object]
  rfl

/-- A limit is read back unless a null was printed for it. -/
theorem limitIn_reread (j : Value numbers.Number) (name bound : List UInt8) :
    limitIn (j.substitute (reread numbers)) name bound =
      (limitIn j name bound).filter fun number => numbers.print number ≠ ascii "null" := by
  have scalar (key : List UInt8) (number : numbers.Number) :
      (reread numbers number).member key = none := by
    rw [reread]
    split
    next => rfl
    next => rfl
  rw [limitIn, limitIn, member_substitute _ _ _ (scalar name)]
  cases j.member name with
  | none => rfl
  | some entry =>
      rw [Option.map_some, Option.bind_some, Option.bind_some,
        member_substitute _ _ _ (scalar bound)]
      cases entry.member bound with
      | none => rfl
      | some limit =>
          cases limit with
          | number number =>
              rw [Option.map_some, Option.bind_some, Option.bind_some, Value.substitute, reread]
              by_cases null : numbers.print number = ascii "null"
              · simp [Value.toNumber, Option.filter, null]
              · simp [Value.toNumber, Option.filter, null]
          | null | boolean | string | array | object => rfl

end Reading

end Chassis.Store
