import Chassis.Json.Print

namespace Chassis.Json
open Data

variable {Number : Type}

/-- A plain byte stands for itself in a string. -/
def plain (byte : UInt8) : Bool :=
  byte != 0x22 && byte != 0x5C && !decide (byte < 0x20) && decide (byte < 0x80)

def Plain (text : List UInt8) : Prop := ∀ byte ∈ text, plain byte = true

instance (text : List UInt8) : Decidable (Plain text) := List.decidableBAll _ text

theorem escapeByte_plain {byte : UInt8} (ordinary : plain byte = true) :
    escapeByte byte = [byte] := by
  simp only [plain, Bool.and_eq_true, bne_iff_ne, Bool.not_eq_true', decide_eq_false_iff_not] at ordinary
  have differs (control : UInt8) (small : control < 0x20) : byte ≠ control := by
    rintro rfl
    exact ordinary.1.2 small
  simp [escapeByte, ordinary.1.1.1, ordinary.1.1.2, ordinary.1.2, differs]

/-- A plain text needs no escapes. -/
theorem quote_plain {text : List UInt8} (ordinary : Plain text) :
    quote text = 0x22 :: text ++ [0x22] := by
  have same : text.flatMap escapeByte = text := by
    induction text with
    | nil => rfl
    | cons byte rest ih =>
        rw [List.flatMap_cons, escapeByte_plain (ordinary byte List.mem_cons_self),
          ih fun other member => ordinary other (List.mem_cons_of_mem byte member)]
        rfl
  rw [quote, same]

namespace Config

variable (read : List UInt8 → Option Number)

@[simp] theorem feed_nil (config : Config Number) : feed read config [] = config := rfl

theorem feed_cons (config : Config Number) (byte : UInt8) (rest : List UInt8) :
    feed read config (byte :: rest) = feed read (step read config byte) rest := rfl

theorem feed_append (config : Config Number) (first second : List UInt8) :
    feed read config (first ++ second) = feed read (feed read config first) second :=
  List.foldl_append

theorem feed_done (value : Value Number) (text : List UInt8) :
    feed read (.done value) text = .done value := by
  induction text with
  | nil => rfl
  | cons byte rest ih => exact ih

variable {read} {stack : List (Frame Number)} {members : List (List UInt8 × Value Number)}

/-- Bytes that a configuration ignores leave it as it is. -/
theorem feed_spaces {config : Config Number} (ignored : step read config 0x20 = config)
    (count : Nat) : feed read config (spaces count) = config := by
  induction count with
  | zero => rfl
  | succ count ih =>
      rw [spaces, List.replicate_succ, feed_cons, ignored]
      exact ih

/-- The bytes of a plain text become part of the string. -/
theorem feed_plain {role : Role Number} {text : List UInt8} (ordinary : Plain text)
    (read : List UInt8 → Option Number) (stack : List (Frame Number)) (before : List UInt8) :
    feed read (.reading stack (.string role before .plain)) text =
      .reading stack (.string role (before ++ text) .plain) := by
  induction text generalizing before with
  | nil => rw [List.append_nil, feed_nil]
  | cons byte rest ih =>
      have kept := ordinary byte List.mem_cons_self
      simp only [plain, Bool.and_eq_true, bne_iff_ne, Bool.not_eq_true', decide_eq_false_iff_not,
        decide_eq_true_eq] at kept
      have stepped : step read (.reading stack (.string role before .plain)) byte =
          .reading stack (.string role (before ++ [byte]) .plain) := by
        rw [step, stepString, if_neg kept.1.1.1, if_neg kept.1.1.2, if_neg kept.1.2, if_pos kept.2]
      rw [feed_cons, stepped, ih fun other member => ordinary other (List.mem_cons_of_mem byte member),
        List.append_assoc, List.singleton_append]

/-- A quoted plain text and a colon are the key of a member. -/
theorem feed_key {key : List UInt8} (ordinary : Plain key) (first : Bool) :
    feed read (.reading stack (.key members first)) (quote key ++ ascii ": ") =
      .reading (.member members key :: stack) .value := by
  rw [quote_plain ordinary, List.cons_append, List.cons_append, feed_cons, List.append_assoc,
    feed_append]
  have opened : step read (.reading stack (.key members first)) 0x22 =
      .reading stack (.string (.key members) [] .plain) := rfl
  rw [opened, feed_plain ordinary]
  rfl

theorem beginValue_number {byte : UInt8} {part : Part} (started : Part.start byte = some part)
    (stack : List (Frame Number)) :
    beginValue stack byte = .reading stack (.number part [byte]) := by
  by_cases minus : byte = 0x2D
  · subst minus
    cases started
    rfl
  by_cases zero : byte = 0x30
  · subst zero
    cases started
    rfl
  have digit : Part.isDigit byte = true := by
    rw [Part.start, if_neg minus, if_neg zero] at started
    split_ifs at started with digit
    exact digit
  have differs (other : UInt8) (outside : Part.isDigit other = false) : byte ≠ other := by
    rintro rfl
    rw [digit] at outside
    cases outside
  have solid : isSpace byte = false := by
    simp [isSpace, differs 0x20 (by decide), differs 0x09 (by decide), differs 0x0A (by decide),
      differs 0x0D (by decide)]
  rw [beginValue, solid, if_neg Bool.false_ne_true, if_neg (differs 0x7B (by decide)),
    if_neg (differs 0x5B (by decide)), if_neg (differs 0x22 (by decide)),
    if_neg (differs 0x6E (by decide)), if_neg (differs 0x74 (by decide)),
    if_neg (differs 0x66 (by decide)), started]

theorem foldl_next_none (text : List UInt8) :
    text.foldl (fun part byte => part.bind fun part => part.next byte) (none : Option Part) =
      none := by
  induction text with
  | nil => rfl
  | cons byte rest ih => exact ih

/-- The bytes of a numeral are collected as long as they continue it. -/
theorem feed_number {part last : Part} {rest : List UInt8}
    (scanned : rest.foldl (fun part byte => part.bind fun part => part.next byte) (some part) =
      some last) (stack : List (Frame Number)) (text : List UInt8) :
    feed read (.reading stack (.number part text)) rest =
      .reading stack (.number last (text ++ rest)) := by
  induction rest generalizing part text with
  | nil =>
      cases scanned
      rw [List.append_nil, feed_nil]
  | cons byte rest ih =>
      rw [List.foldl_cons, Option.bind_some] at scanned
      cases continued : part.next byte with
      | none =>
          rw [continued, foldl_next_none] at scanned
          cases scanned
      | some next =>
          rw [continued] at scanned
          have stepped : step read (.reading stack (.number part text)) byte =
              .reading stack (.number next (text ++ [byte])) := by
            simp only [step, continued]
          rw [feed_cons, stepped, ih scanned, List.append_assoc, List.singleton_append]

/-- A byte that no numeral contains completes the number in front of it. -/
theorem feed_numeral {text : List UInt8} {number : Number} (grammatical : numeral text = true)
    (valued : read text = some number) {byte : UInt8} (ends : ∀ part : Part, part.next byte = none)
    (stack : List (Frame Number)) :
    feed read (.reading stack .value) (text ++ [byte]) =
      follow (complete (.number number) stack) byte := by
  obtain ⟨last, scanned, finished⟩ := (Option.any_eq_true _ _).mp grammatical
  cases text with
  | nil => cases scanned
  | cons first rest =>
      cases started : Part.start first with
      | none =>
          rw [scan, started, foldl_next_none] at scanned
          cases scanned
      | some part =>
          rw [scan, started] at scanned
          have opened : step read (.reading stack .value) first =
              .reading stack (.number part [first]) := beginValue_number started stack
          rw [List.cons_append, feed_cons, opened, feed_append, feed_number scanned,
            List.singleton_append, feed_cons, feed_nil]
          simp only [step, ends, finished, valued, if_true]

/-- The text of a null or of a number in range. -/
inductive Leaf (read : List UInt8 → Option Number) : List UInt8 → Value Number → Prop where
  | null : Leaf read (ascii "null") .null
  | number {text : List UInt8} {number : Number} (grammatical : numeral text = true)
      (valued : read text = some number) : Leaf read text (.number number)

/-- A leaf behind its key becomes a member, and the byte behind it is read as a separator. -/
theorem feed_leaf {key text : List UInt8} {value : Value Number} (leaf : Leaf read text value)
    {byte : UInt8} (ends : ∀ part : Part, part.next byte = none) :
    feed read (.reading (.member members key :: stack) .value) (text ++ [byte]) =
      separate stack (.object (insertMember key value members)) byte := by
  cases leaf with
  | null => rfl
  | number grammatical valued => exact feed_numeral grammatical valued ends _

end Config

end Chassis.Json
