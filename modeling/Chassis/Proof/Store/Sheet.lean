import Chassis.Construction.Store.Thresholds
import Chassis.Effect.Precondition
import Chassis.Json.Members
import Chassis.Proof.Store.Document

namespace Chassis.Store
open Effect Program Json Data

section Sheets

variable {Number : Type}

/-- A limit is a number, or a null where no number could be printed. -/
inductive IsLimit : Value Number → Prop where
  | null : IsLimit .null
  | number (value : Number) : IsLimit (.number value)

/-- A rail is an object of limits under plain keys and has at least one of them. -/
structure IsRail (members : List (List UInt8 × Value Number)) : Prop where
  limited : members ≠ []
  limits : ∀ member ∈ members, Plain member.1 ∧ IsLimit member.2

/-- A sheet is an object of rails under plain names and has at least one of them. -/
structure IsSheet (members : List (List UInt8 × Value Number)) : Prop where
  nonempty : members ≠ []
  rails : ∀ member ∈ members, Plain member.1 ∧
    ∃ entries, member.2 = .object entries ∧ IsRail entries

/-- A property of the old members and of the new one is a property of all of them. -/
theorem insertMember_all {holds : List UInt8 × Value Number → Prop} {key : List UInt8}
    {value : Value Number} {members : List (List UInt8 × Value Number)}
    (old : ∀ member ∈ members, holds member) (new : holds (key, value)) :
    ∀ member ∈ insertMember key value members, holds member := by
  induction members with
  | nil =>
      intro member listed
      cases List.mem_singleton.mp listed
      exact new
  | cons present rest ih =>
      rw [List.forall_mem_cons] at old
      rw [insertMember]
      split_ifs
      · exact List.forall_mem_cons.mpr ⟨new, old.2⟩
      · exact List.forall_mem_cons.mpr ⟨new, List.forall_mem_cons.mpr old⟩
      · exact List.forall_mem_cons.mpr ⟨old.1, ih old.2⟩

theorem IsRail.insert {members : List (List UInt8 × Value Number)} {key : List UInt8}
    {value : Value Number}
    (limits : ∀ member ∈ members, Plain member.1 ∧ IsLimit member.2) (plain : Plain key)
    (limit : IsLimit value) : IsRail (insertMember key value members) :=
  ⟨insertMember_ne_nil key value members, insertMember_all limits ⟨plain, limit⟩⟩

theorem IsSheet.insert {members entries : List (List UInt8 × Value Number)} {key : List UInt8}
    (rails : ∀ member ∈ members, Plain member.1 ∧
      ∃ entries, member.2 = .object entries ∧ IsRail entries)
    (plain : Plain key) (rail : IsRail entries) :
    IsSheet (insertMember key (.object entries) members) :=
  ⟨insertMember_ne_nil key _ members, insertMember_all rails ⟨plain, entries, rfl, rail⟩⟩

theorem leaf_isLimit {read : List UInt8 → Option Number} {text : List UInt8} {value : Value Number}
    (leaf : Config.Leaf read text value) : IsLimit value := by
  cases leaf with
  | null => exact .null
  | number => exact .number _

variable {read : List UInt8 → Option Number}

theorem entryMembers_limits (entries : List (Entry read))
    {members : List (List UInt8 × Value Number)}
    (limits : ∀ member ∈ members, Plain member.1 ∧ IsLimit member.2) :
    ∀ member ∈ entryMembers entries members, Plain member.1 ∧ IsLimit member.2 := by
  induction entries generalizing members with
  | nil => exact limits
  | cons entry rest ih => exact ih (insertMember_all limits ⟨entry.plain, leaf_isLimit entry.leaf⟩)

theorem Rail.isRail (rail : Rail read) : IsRail (entryMembers rail.entries []) :=
  ⟨foldl_insertMember_ne_nil Entry.key Entry.value rail.limited [],
    entryMembers_limits rail.entries nofun⟩

theorem railMembers_rails (rails : List (Rail read))
    {members : List (List UInt8 × Value Number)}
    (sheet : ∀ member ∈ members, Plain member.1 ∧
      ∃ entries, member.2 = .object entries ∧ IsRail entries) :
    ∀ member ∈ railMembers rails members, Plain member.1 ∧
      ∃ entries, member.2 = .object entries ∧ IsRail entries := by
  induction rails generalizing members with
  | nil => exact sheet
  | cons rail rest ih => exact ih (insertMember_all sheet ⟨rail.plain, _, rfl, rail.isRail⟩)

/-- A document reads as a sheet. -/
theorem Document.isSheet (document : Document read) :
    IsSheet (railMembers document.rails []) :=
  ⟨railMembers_ne_nil document.nonempty [], railMembers_rails document.rails nofun⟩

/-- A limit assigned in a sheet leaves a sheet. -/
theorem assignLimit_isSheet {members : List (List UInt8 × Value Number)} (sheet : IsSheet members)
    {outer inner : List UInt8} (outerPlain : Plain outer) (innerPlain : Plain inner)
    (value : Number) {j : Value Number}
    (assigned : assignLimit outer inner value (.object members) = some j) :
    ∃ members, j = .object members ∧ IsSheet members := by
  unfold assignLimit at assigned
  cases found : (Value.object members).member outer with
  | none =>
      rw [found] at assigned
      cases assigned
      have rail : IsRail [(inner, Value.number value)] :=
        @IsRail.insert Number [] inner (.number value) nofun innerPlain (.number value)
      exact ⟨_, rfl, IsSheet.insert sheet.rails outerPlain rail⟩
  | some present =>
      obtain ⟨entries, rfl, rail⟩ : ∃ entries, present = .object entries ∧ IsRail entries := by
        obtain ⟨front, back, split, _⟩ := List.lookup_eq_some_iff.mp found
        have member : (outer, present) ∈ members := by
          rw [split]
          exact List.mem_append_right front List.mem_cons_self
        exact (sheet.rails _ member).2
      rw [found] at assigned
      cases assigned
      have rail := IsRail.insert rail.limits innerPlain (.number value)
      exact ⟨_, rfl, IsSheet.insert sheet.rails outerPlain rail⟩

end Sheets

section Printing

variable {numbers : Numbers}

/-- A number is read back unless a null was printed for it. -/
def reread (numbers : Numbers) (number : numbers.Number) : Value numbers.Number :=
  if numbers.print number = ascii "null" then .null else .number number

/-- The key and the value of an entry. -/
def Entry.member {read : List UInt8 → Option numbers.Number} (entry : Entry read) :
    List UInt8 × Value numbers.Number := (entry.key, entry.value)

/-- The name and the entries of a rail. -/
def Rail.member {read : List UInt8 → Option numbers.Number} (rail : Rail read) :
    List UInt8 × Value numbers.Number := (rail.name, .object (rail.entries.map Entry.member))

/-- What is read back from printed members. -/
def rereadMembers (members : List (List UInt8 × Value numbers.Number)) :
    List (List UInt8 × Value numbers.Number) :=
  members.map fun member => (member.1, member.2.substitute (reread numbers))

/-- A printed limit reads as itself, or as a null. -/
theorem dump_leaf {value : Value numbers.Number} (limit : IsLimit value) (step indent : Nat) :
    Config.Leaf numbers.read (dump numbers.print step indent value)
      (value.substitute (reread numbers)) := by
  cases limit with
  | null => exact .null
  | number number =>
      rw [dump, Value.substitute, reread]
      split
      next null =>
        rw [null]
        exact .null
      next valued =>
        obtain ⟨grammatical, valued⟩ := (numbers.printed number).resolve_left valued
        exact .number grammatical valued

/-- The lines of the limits of a rail print as rows. -/
theorem dumpMembers_entries {members : List (List UInt8 × Value numbers.Number)}
    (nonempty : members ≠ []) (limits : ∀ member ∈ members, Plain member.1 ∧ IsLimit member.2) :
    ∃ entries : List (Entry numbers.read), entries.map Entry.member = rereadMembers members ∧
      dumpMembers numbers.print 4 8 members ++ [newline] = unlines (entryRows entries) := by
  induction members with
  | nil => exact absurd rfl nonempty
  | cons member rest ih =>
      rw [List.forall_mem_cons] at limits
      let entry : Entry numbers.read := ⟨member.1, _, _, limits.1.1, dump_leaf limits.1.2 4 8⟩
      cases rest with
      | nil =>
          refine ⟨[entry], rfl, ?_⟩
          simp [dumpMembers, entryRows, Entry.row, comma, entry]
      | cons next rest =>
          obtain ⟨entries, same, printed⟩ := ih (List.cons_ne_nil _ _) limits.2
          refine ⟨entry :: entries, congrArg _ same, ?_⟩
          have more : entries.isEmpty = false := by
            cases entries with
            | nil => cases same
            | cons first entries => rfl
          rw [entryRows, unlines_cons, ← printed, more]
          simp [dumpMembers, Entry.row, comma, entry]

/-- The lines of the rails of a sheet print as the rows of a document. -/
theorem dumpMembers_rails {members : List (List UInt8 × Value numbers.Number)}
    (nonempty : members ≠ []) (sheet : ∀ member ∈ members, Plain member.1 ∧
      ∃ entries, member.2 = .object entries ∧ IsRail entries) :
    ∃ rails : List (Rail numbers.read), rails.map Rail.member = rereadMembers members ∧
      dumpMembers numbers.print 4 4 members ++ [newline] = unlines (bodyRows rails) := by
  induction members with
  | nil => exact absurd rfl nonempty
  | cons member rest ih =>
      rw [List.forall_mem_cons] at sheet
      obtain ⟨⟨plain, limits, object, limited⟩, later⟩ := sheet
      obtain ⟨name, value⟩ := member
      cases object
      obtain ⟨entries, same, printed⟩ := dumpMembers_entries limited.limited limited.limits
      have some : entries ≠ [] := by
        rintro rfl
        exact limited.limited (List.map_eq_nil_iff.mp same.symm)
      let rail : Rail numbers.read := ⟨name, entries, plain, some⟩
      have valued : rail.member = (name, (Value.object limits).substitute (reread numbers)) := by
        rw [substitute_object]
        exact congrArg (fun members => (name, Value.object members)) same
      obtain ⟨limit, others, rfl⟩ := List.exists_cons_of_ne_nil limited.limited
      cases rest with
      | nil =>
          refine ⟨[rail], congrArg (fun member => [member]) valued, ?_⟩
          simp [dumpMembers, dump, bodyRows, Rail.rows, Rail.header, closeRow, comma, rail,
            unlines_append, ← printed]
      | cons next rest =>
          obtain ⟨rails, agree, printedRest⟩ := ih (List.cons_ne_nil _ _) later
          refine ⟨rail :: rails, ?_, ?_⟩
          · rw [List.map_cons, valued, agree]
            rfl
          have others : rails.isEmpty = false := by
            cases rails with
            | nil => cases agree
            | cons first rails => rfl
          rw [bodyRows, unlines_append, ← printedRest, others]
          simp [dumpMembers, dump, Rail.rows, Rail.header, closeRow, comma, rail, unlines_append,
            ← printed]

/-- A sheet prints as a document with the same rails. -/
theorem dump_sheet {members : List (List UInt8 × Value numbers.Number)} (sheet : IsSheet members) :
    ∃ document : Document numbers.read,
      dump numbers.print 4 0 (.object members) = document.text ∧
        document.rails.map Rail.member = rereadMembers members := by
  obtain ⟨rails, same, printed⟩ := dumpMembers_rails sheet.nonempty sheet.rails
  have some : rails ≠ [] := by
    rintro rfl
    exact sheet.nonempty (List.map_eq_nil_iff.mp same.symm)
  obtain ⟨member, rest, rfl⟩ := List.exists_cons_of_ne_nil sheet.nonempty
  refine ⟨⟨rails, some⟩, ?_, same⟩
  rw [Document.text, Document.rows, unlines_cons, ← printed]
  simp [dump, spaces]

end Printing

section Runs

variable {numbers : Numbers}

/-- The file holds the text of a document. -/
def Stored (numbers : Numbers) (file : List UInt8) : Prop :=
  ∃ document : Document numbers.read, file = document.text

theorem isNameByte_plain {byte : UInt8} (named : isNameByte byte = true) : plain byte = true := by
  simp only [isNameByte, plain, Bool.and_eq_true, Bool.or_eq_true, decide_eq_true_eq, bne_iff_ne,
    Bool.not_eq_true', decide_eq_false_iff_not, beq_iff_eq, UInt8.le_iff_toNat_le,
    UInt8.lt_iff_toNat_lt, ne_eq, ← UInt8.toNat_inj, UInt8.reduceToNat] at named ⊢
  omega

/-- The name of a path is a plain key. -/
theorem name_plain (path : ObjectPath) : Plain path.name := by
  intro byte member
  rw [ObjectPath.name] at member
  cases last : path.elements.getLast? with
  | none =>
      rw [List.getLastD_eq_getLast?, last] at member
      cases member
  | some element =>
      rw [List.getLastD_eq_getLast?, last] at member
      exact isNameByte_plain (path.names element (List.mem_of_getLast? last) byte member)

theorem boundOf_plain {highorlow : List UInt8} {property bound : String}
    (known : boundOf highorlow = some (property, bound)) : Plain (ascii bound) := by
  unfold boundOf at known
  split_ifs at known
  · cases known
    decide
  · cases known
    decide

/-- The value is an object of rails. -/
def Sheet (j : Value numbers.Number) : Prop := ∃ members, j = .object members ∧ IsSheet members

/-- The commands return a sheet and leave the file alone until its end. -/
abbrev Prepared (numbers : Numbers) : Post (interface numbers) (List UInt8) (Value numbers.Number) :=
  ⟨fun j file => Sheet j ∧ Stored numbers file, fun _ => Stored numbers, fun _ => Stored numbers⟩

variable {setting : Setting numbers}
  {record : String → Value numbers.Number → Option (Value numbers.Number)}

/-- A way of recording a limit keeps a sheet when it is used under the name of a path. -/
def Records (setting : Setting numbers)
    (record : String → Value numbers.Number → Option (Value numbers.Number)) : Prop :=
  ∀ bound j next, Plain setting.itemname → Plain (ascii bound) → Sheet j →
    record bound j = some next → Sheet next

theorem setItems_prepared (records : Records setting record) {j : Value numbers.Number}
    (sheet : Sheet j) (paths : List ObjectPath) {file : List UInt8} (stored : Stored numbers file) :
    (setItems setting record j paths).pre (fun _ _ => True) (Prepared numbers) file := by
  induction paths generalizing j with
  | nil => exact ⟨sheet, stored⟩
  | cons path rest ih =>
      rw [setItems]
      by_cases named : path.name = setting.itemname
      · rw [if_pos named]
        cases known : boundOf (setting.highorlow.map toLower) with
        | none => exact ih sheet
        | some bounds =>
            obtain ⟨property, bound⟩ := bounds
            rw [pre_bind]
            refine ⟨trivial, ?_⟩
            intro succeeded
            change Bool at succeeded
            cases succeeded with
            | false => exact stored
            | true =>
                dsimp only
                cases recorded : record bound j with
                | none => exact stored
                | some next =>
                    exact ih (records bound j next (named ▸ name_plain path) (boundOf_plain known)
                      sheet recorded)
      · rw [if_neg named]
        exact ih sheet

theorem setStub_prepared (records : Records setting record) (stub : String)
    {j : Value numbers.Number} (sheet : Sheet j) {file : List UInt8}
    (stored : Stored numbers file) :
    (setStub setting stub record j).pre (fun _ _ => True) (Prepared numbers) file := by
  rw [setStub, pre_bind]
  refine ⟨trivial, ?_⟩
  intro paths
  change Option (List ObjectPath) at paths
  cases paths with
  | none => exact stored
  | some paths => exact setItems_prepared records sheet paths stored

theorem updateLimits_prepared (setting : Setting numbers) {j : Value numbers.Number}
    (sheet : Sheet j) {file : List UInt8} (stored : Stored numbers file) :
    (updateLimits setting j).pre (fun _ _ => True) (Prepared numbers) file := by
  unfold updateLimits
  dsimp only
  split_ifs
  · refine setStub_prepared ?_ _ sheet stored
    rintro bound j next _ _ sheet ⟨⟩
    exact sheet
  · refine setStub_prepared ?_ _ sheet stored
    rintro bound j next itemPlain boundPlain ⟨members, rfl, sheet⟩ recorded
    exact assignLimit_isSheet sheet itemPlain boundPlain setting.value recorded
  · refine setStub_prepared ?_ _ sheet stored
    rintro bound j next _ boundPlain ⟨members, rfl, sheet⟩ recorded
    exact assignLimit_isSheet sheet (by decide) boundPlain setting.value recorded
  · exact ⟨sheet, stored⟩

theorem document_sheet (document : Document numbers.read) :
    ∃ j, parse numbers.read document.text = some j ∧ Sheet j :=
  ⟨document.value, document.parse_rows [], _, rfl, document.isSheet⟩

/-- A command leaves the text of a document. -/
theorem afterSetting_stored {file : List UInt8} (stored : Stored numbers file)
    (call : Setting numbers × Environment (interface numbers)) :
    Stored numbers (afterSetting file call) := by
  have met : (setThreshold call.1).pre (fun _ _ => True) ⟨fun _ => Stored numbers,
      fun _ => Stored numbers, fun _ => Stored numbers⟩ file := by
    obtain ⟨document, rfl⟩ := stored
    obtain ⟨j, parsed, sheet⟩ := document_sheet document
    rw [setThreshold, pre_bind, pre_read]
    simp only [parsed]
    rw [pre_bind]
    apply pre_value (updateLimits_prepared call.1 sheet ⟨document, rfl⟩)
    rintro next file ⟨⟨members, rfl, sheet⟩, _⟩
    obtain ⟨printed, same, _⟩ := dump_sheet sheet
    exact ⟨printed, same⟩
  exact pre_state _ _ _ _ met

/-- A short numeral without an exponent is in range. -/
def Short (text : List UInt8) : Prop :=
  numeral text = true ∧ text.length ≤ 300 ∧ ∀ byte ∈ text, Part.isExponent byte = false

instance (text : List UInt8) : Decidable (∀ byte ∈ text, Part.isExponent byte = false) :=
  List.decidableBAll _ text

instance (text : List UInt8) : Decidable (Short text) := inferInstanceAs (Decidable (_ ∧ _ ∧ _))

/-- A limit of the file that the firmware ships. -/
def shippedEntry (numbers : Numbers) (key text : List UInt8) (plain : Plain key)
    (short : Short text) : Entry numbers.read where
  key := key
  text := text
  value := .number ((numbers.read text).get (numbers.inRange text short.1 short.2.1 short.2.2))
  plain := plain
  leaf := .number short.1 (Option.some_get _).symm

def shippedRail (numbers : Numbers) (name low high : String) (plain : Plain (ascii name))
    (lowShort : Short (ascii low)) (highShort : Short (ascii high)) : Rail numbers.read where
  name := ascii name
  entries := [shippedEntry numbers (ascii "min") (ascii low) (by decide) lowShort,
    shippedEntry numbers (ascii "max") (ascii high) (by decide) highShort]
  plain := plain
  limited := List.cons_ne_nil _ _

def shippedDocument (numbers : Numbers) : Document numbers.read where
  rails := [
    shippedRail numbers "TempLimits" "-20.0" "80.0" (by decide) (by decide) (by decide),
    shippedRail numbers "12V_Rail" "11.4" "12.6" (by decide) (by decide) (by decide),
    shippedRail numbers "12nauxV_Rail" "11.4" "12.6" (by decide) (by decide) (by decide),
    shippedRail numbers "12pauxV_Rail" "11.4" "12.6" (by decide) (by decide) (by decide),
    shippedRail numbers "3_3V_Rail" "3.135" "3.465" (by decide) (by decide) (by decide),
    shippedRail numbers "3_3auxV_Rail" "3.135" "3.465" (by decide) (by decide) (by decide),
    shippedRail numbers "5V_Rail" "4.75" "5.25" (by decide) (by decide) (by decide)]
  nonempty := List.cons_ne_nil _ _

theorem shipped_stored (numbers : Numbers) : Stored numbers shipped :=
  ⟨shippedDocument numbers, by rfl⟩

/-- Every file that the commands can leave is the text of a document. -/
theorem thresholdsFile_stored (calls : List (Setting numbers × Environment (interface numbers))) :
    Stored numbers (thresholdsFile calls) := by
  rw [thresholdsFile]
  have kept (file : List UInt8) (stored : Stored numbers file) :
      Stored numbers (calls.foldl afterSetting file) := by
    induction calls generalizing file with
    | nil => exact stored
    | cons call rest ih => exact ih (afterSetting file call) (afterSetting_stored stored call)
  exact kept shipped (shipped_stored numbers)

end Runs

end Chassis.Store
