import Chassis.Json.Feed

namespace Chassis.Store
open Json Config Data

variable {Number : Type} {read : List UInt8 → Option Number}

/-- A limit has a plain key and a text that reads as its value. -/
structure Entry (read : List UInt8 → Option Number) where
  key : List UInt8
  text : List UInt8
  value : Value Number
  plain : Plain key
  leaf : Leaf read text value

/-- A rail has a plain name and at least one limit. -/
structure Rail (read : List UInt8 → Option Number) where
  name : List UInt8
  entries : List (Entry read)
  plain : Plain name
  limited : entries ≠ []

/-- A document has at least one rail. -/
structure Document (read : List UInt8 → Option Number) where
  rails : List (Rail read)
  nonempty : rails ≠ []

/-- A member is followed by a comma unless it is the last one. -/
def comma (last : Bool) : List UInt8 := if last then [] else [0x2C]

def Entry.row (entry : Entry read) (last : Bool) : List UInt8 :=
  spaces 8 ++ ((quote entry.key ++ ascii ": ") ++ (entry.text ++ comma last))

def entryRows : List (Entry read) → List (List UInt8)
  | [] => []
  | entry :: rest => entry.row rest.isEmpty :: entryRows rest

def Rail.header (rail : Rail read) : List UInt8 :=
  spaces 4 ++ ((quote rail.name ++ ascii ": ") ++ [0x7B])

def closeRow (last : Bool) : List UInt8 := spaces 4 ++ 0x7D :: comma last

def Rail.rows (rail : Rail read) (last : Bool) : List (List UInt8) :=
  rail.header :: (entryRows rail.entries ++ [closeRow last])

def bodyRows : List (Rail read) → List (List UInt8)
  | [] => []
  | rail :: rest => rail.rows rest.isEmpty ++ bodyRows rest

namespace Document

/-- All lines of a document but the last one. -/
def rows (document : Document read) : List (List UInt8) := [0x7B] :: bodyRows document.rails

/-- The text of a document has no newline at its end. -/
def text (document : Document read) : List UInt8 := unlines document.rows ++ [0x7D]

end Document

def entryMembers (entries : List (Entry read)) (members : List (List UInt8 × Value Number)) :
    List (List UInt8 × Value Number) :=
  entries.foldl (fun members entry => insertMember entry.key entry.value members) members

def Rail.value (rail : Rail read) : Value Number := .object (entryMembers rail.entries [])

def railMembers (rails : List (Rail read)) (members : List (List UInt8 × Value Number)) :
    List (List UInt8 × Value Number) :=
  rails.foldl (fun members rail => insertMember rail.name rail.value members) members

def Document.value (document : Document read) : Value Number :=
  .object (railMembers document.rails [])

section Rows

variable {stack : List (Frame Number)} {members : List (List UInt8 × Value Number)}

/-- Behind a member the parser expects the end of the object or another key. -/
def behindMember (members : List (List UInt8 × Value Number)) (last : Bool) : Mode Number :=
  if last then .separator (.object members) else .key members false

theorem feed_row (entry : Entry read) (first last : Bool) :
    feed read (.reading stack (.key members first)) (entry.row last ++ [newline]) =
      .reading stack (behindMember (insertMember entry.key entry.value members) last) := by
  have ignored : step read (.reading stack (.key members first)) 0x20 =
      .reading stack (.key members first) := rfl
  rw [Entry.row, List.append_assoc, feed_append, feed_spaces ignored, List.append_assoc, feed_append,
    feed_key entry.plain, List.append_assoc]
  cases last with
  | true =>
      have ends : ∀ part : Part, part.next newline = none := by
        intro part
        cases part <;> rfl
      rw [comma, if_pos rfl, List.nil_append, feed_leaf entry.leaf ends]
      rfl
  | false =>
      have ends : ∀ part : Part, part.next 0x2C = none := by
        intro part
        cases part <;> rfl
      rw [comma, if_neg Bool.false_ne_true, ← List.append_assoc, feed_append,
        feed_leaf entry.leaf ends]
      rfl

theorem feed_header (rail : Rail read) (first : Bool) :
    feed read (.reading stack (.key members first)) (rail.header ++ [newline]) =
      .reading (.member members rail.name :: stack) (.key [] true) := by
  have ignored : step read (.reading stack (.key members first)) 0x20 =
      .reading stack (.key members first) := rfl
  rw [Rail.header, List.append_assoc, feed_append, feed_spaces ignored, List.append_assoc,
    feed_append, feed_key rail.plain]
  rfl

theorem feed_closeRow (name : List UInt8) (entries : List (List UInt8 × Value Number))
    (last : Bool) :
    feed read (.reading (.member members name :: stack) (.separator (.object entries)))
        (closeRow last ++ [newline]) =
      .reading stack (behindMember (insertMember name (.object entries) members) last) := by
  have ignored : step read (.reading (.member members name :: stack)
      (.separator (.object entries))) 0x20 =
        .reading (.member members name :: stack) (.separator (.object entries)) := rfl
  rw [closeRow, List.append_assoc, feed_append, feed_spaces ignored]
  cases last with
  | true => rfl
  | false => rfl

/-- The lines of the limits lead from the opening to the end of a rail. -/
theorem feed_entryRows {entries : List (Entry read)} (limited : entries ≠ []) (first : Bool) :
    feed read (.reading stack (.key members first)) (unlines (entryRows entries)) =
      .reading stack (.separator (.object (entryMembers entries members))) := by
  induction entries generalizing members first with
  | nil => exact absurd rfl limited
  | cons entry rest ih =>
      rw [entryRows, unlines_cons, ← List.singleton_append, ← List.append_assoc, feed_append, feed_row]
      cases rest with
      | nil => rfl
      | cons next rest => exact ih (List.cons_ne_nil next rest) false

/-- Between two lines of an object the parser is in front of a key or behind a member. -/
inductive Boundary : Mode Number → Prop where
  | key (members : List (List UInt8 × Value Number)) (first : Bool) :
      Boundary (.key members first)
  | separator (members : List (List UInt8 × Value Number)) :
      Boundary (.separator (.object members))

/-- Any number of lines of the limits leaves the parser inside the rail. -/
theorem feed_entryRows_take (entries : List (Entry read)) (count : Nat) (first : Bool) :
    ∃ mode, Boundary mode ∧ feed read (.reading stack (.key members first))
      (unlines ((entryRows entries).take count)) = .reading stack mode := by
  induction entries generalizing members first count with
  | nil => exact ⟨_, .key members first, by rw [entryRows, List.take_nil]; rfl⟩
  | cons entry rest ih =>
      cases count with
      | zero => exact ⟨_, .key members first, rfl⟩
      | succ count =>
          rw [entryRows, List.take_succ_cons, unlines_cons, ← List.singleton_append,
            ← List.append_assoc, feed_append, feed_row]
          cases rest with
          | nil =>
              exact ⟨_, .separator _, by rw [entryRows, List.take_nil]; rfl⟩
          | cons next rest => exact ih count false

theorem feed_rail (rail : Rail read) (first last : Bool) :
    feed read (.reading stack (.key members first)) (unlines (rail.rows last)) =
      .reading stack (behindMember (insertMember rail.name rail.value members) last) := by
  rw [Rail.rows, unlines_cons, ← List.singleton_append, ← List.append_assoc, feed_append,
    feed_header, unlines_append, feed_append, feed_entryRows rail.limited]
  rw [unlines_cons, unlines_nil]
  exact feed_closeRow rail.name (entryMembers rail.entries []) last

/-- A part of the lines of a rail leaves the parser inside it. -/
theorem feed_rail_take (rail : Rail read) (first last : Bool) {count : Nat} (some : 0 < count)
    (part : count < (rail.rows last).length) :
    ∃ mode, Boundary mode ∧ feed read (.reading stack (.key members first))
      (unlines ((rail.rows last).take count)) =
        .reading (.member members rail.name :: stack) mode := by
  obtain ⟨count, rfl⟩ := Nat.exists_eq_add_one_of_ne_zero (Nat.ne_of_gt some)
  have inside : count ≤ (entryRows rail.entries).length := by
    rw [Rail.rows, List.length_cons, List.length_append, List.length_singleton] at part
    omega
  rw [Rail.rows, List.take_succ_cons, unlines_cons, ← List.singleton_append, ← List.append_assoc,
    feed_append, feed_header, List.take_append_of_le_length inside]
  exact feed_entryRows_take rail.entries count true

/-- The lines of the rails lead from the opening to the end of the document. -/
theorem feed_bodyRows {rails : List (Rail read)} (nonempty : rails ≠ []) (first : Bool) :
    feed read (.reading stack (.key members first)) (unlines (bodyRows rails)) =
      .reading stack (.separator (.object (railMembers rails members))) := by
  induction rails generalizing members first with
  | nil => exact absurd rfl nonempty
  | cons rail rest ih =>
      rw [bodyRows, unlines_append, feed_append, feed_rail]
      cases rest with
      | nil => rfl
      | cons next rest => exact ih (List.cons_ne_nil next rest) false

end Rows

/-- What the reader of the flash writes behind the lines that it has copied. -/
def closing : List UInt8 := [0x7D, newline]

theorem result_separator (stack : List (Frame Number)) (container : Container Number) :
    (.reading stack (.separator container) : Config Number).result read = none := by
  cases stack with
  | nil => rfl
  | cons frame stack => rfl

/-- One closing brace does not complete an object inside another one. -/
theorem closing_inside {mode : Mode Number} (boundary : Boundary mode) (frame : Frame Number)
    (stack : List (Frame Number)) :
    (feed read (.reading (frame :: stack) mode) closing).result read = none := by
  have closed (members : List (List UInt8 × Value Number)) :
      (feed read (complete (.object members) (frame :: stack)) [newline]).result read = none := by
    cases frame with
    | element elements => exact result_separator stack _
    | member outer key => exact result_separator stack _
  cases boundary with
  | key members first =>
      cases first with
      | false => rfl
      | true => exact closed members
  | separator members => exact closed members

/-- A document cut between two of its rails or inside one of them is not a value. -/
theorem closing_bodyRows_take (rails : List (Rail read)) {count : Nat}
    (part : count < (bodyRows rails).length) {first : Bool} (some : 0 < count ∨ first = false)
    (members : List (List UInt8 × Value Number)) :
    (feed read (.reading [] (.key members first))
      (unlines ((bodyRows rails).take count) ++ closing)).result read = none := by
  induction rails generalizing count first members with
  | nil => exact absurd part (Nat.not_lt_zero count)
  | cons rail rest ih =>
      rw [bodyRows] at part ⊢
      rw [feed_append]
      rcases Nat.eq_zero_or_pos count with rfl | positive
      · have later : first = false := some.resolve_left (Nat.lt_irrefl 0)
        subst later
        rfl
      by_cases inside : count < (rail.rows rest.isEmpty).length
      · obtain ⟨mode, boundary, fed⟩ :=
          @feed_rail_take _ read [] members rail first rest.isEmpty count positive inside
        rw [List.take_append_of_le_length (Nat.le_of_lt inside), fed]
        exact closing_inside boundary _ _
      · have beyond : (rail.rows rest.isEmpty).length ≤ count := Nat.le_of_not_lt inside
        rw [List.take_append, List.take_of_length_le beyond, unlines_append, feed_append, feed_rail,
          ← feed_append]
        have left : count - (rail.rows rest.isEmpty).length < (bodyRows rest).length := by
          rw [List.length_append] at part
          omega
        cases rest with
        | nil => exact absurd left (Nat.not_lt_zero _)
        | cons next rest => exact ih left (Or.inr rfl) _

theorem insertMember_ne_nil (key : List UInt8) (value : Value Number)
    (members : List (List UInt8 × Value Number)) : insertMember key value members ≠ [] := by
  cases members with
  | nil => exact List.cons_ne_nil _ _
  | cons member rest =>
      rw [insertMember]
      split_ifs
      · exact List.cons_ne_nil _ _
      · exact List.cons_ne_nil _ _
      · exact List.cons_ne_nil _ _

/-- Members inserted in a row leave an object with members. -/
theorem foldl_insertMember_ne_nil {Element : Type} (key : Element → List UInt8)
    (value : Element → Value Number) {elements : List Element} (nonempty : elements ≠ [])
    (members : List (List UInt8 × Value Number)) :
    elements.foldl (fun members element => insertMember (key element) (value element) members)
      members ≠ [] := by
  induction elements generalizing members with
  | nil => exact absurd rfl nonempty
  | cons element rest ih =>
      cases rest with
      | nil => exact insertMember_ne_nil _ _ _
      | cons next rest => exact ih (List.cons_ne_nil next rest) _

theorem railMembers_ne_nil {rails : List (Rail read)} (nonempty : rails ≠ [])
    (members : List (List UInt8 × Value Number)) : railMembers rails members ≠ [] :=
  foldl_insertMember_ne_nil Rail.name Rail.value nonempty members

namespace Document

variable (document : Document read)

/-- A document reads as its value, whatever lies behind it. -/
theorem parse_rows (rest : List UInt8) :
    parse read (unlines document.rows ++ 0x7D :: rest) = some document.value := by
  have opened : feed read (.reading [] .value) (unlines document.rows) =
      .reading [] (.separator (.object (railMembers document.rails []))) := by
    rw [rows, unlines_cons]
    exact feed_bodyRows document.nonempty true
  rw [parse, feed_append, opened, feed_cons]
  change (feed read (.done document.value) rest).result read = _
  rw [feed_done]
  rfl

/-- Any smaller number of lines in front of the closing brace does not read as the document. -/
theorem parse_rows_take {count : Nat} (part : count < document.rows.length) :
    parse read (unlines (document.rows.take count) ++ closing) ≠ some document.value := by
  cases count with
  | zero =>
      intro parsed
      cases parsed
  | succ count =>
      have inside : count < (bodyRows document.rails).length := Nat.lt_of_succ_lt_succ part
      have opened (body : List (List UInt8)) : parse read (unlines ([0x7B] :: body) ++ closing) =
          (feed read (.reading [] (.key [] true)) (unlines body ++ closing)).result read := by
        rw [unlines_cons]
        rfl
      rw [rows, List.take_succ_cons, opened]
      rcases Nat.eq_zero_or_pos count with rfl | positive
      · intro parsed
        have empty : document.value = .object [] := (Option.some.inj parsed).symm
        exact railMembers_ne_nil document.nonempty [] (Value.object.inj empty)
      · rw [closing_bodyRows_take document.rails inside (Or.inl positive) []]
        exact nofun

end Document

end Chassis.Store
