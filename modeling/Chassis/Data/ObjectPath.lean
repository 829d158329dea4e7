import Mathlib.Data.List.Infix

namespace Chassis.Data

def slash : UInt8 := 0x2F

def isElementByte (byte : UInt8) : Bool :=
  (0x41 ≤ byte && byte ≤ 0x5A) || (0x61 ≤ byte && byte ≤ 0x7A) ||
    (0x30 ≤ byte && byte ≤ 0x39) || byte == 0x5F

/-- An element of an object path has letters, digits and underscores. -/
structure ValidElement (element : List UInt8) : Prop where
  nonempty : element ≠ []
  bytes : ∀ byte ∈ element, isElementByte byte = true

/-- An object path is a single slash or a sequence of elements with a slash before each. -/
def ValidPath (path : List UInt8) : Prop :=
  path = [slash] ∨ ∃ elements : List (List UInt8), elements ≠ [] ∧
    (∀ element ∈ elements, ValidElement element) ∧ path = elements.flatMap (slash :: ·)

/-- The scanner knows whether it stands at the start of an element. -/
def advance (start : Bool) (byte : UInt8) : Option Bool :=
  if byte = slash then if start then none else some true
  else if isElementByte byte then some false
  else none

def scanPath (start : Bool) (bytes : List UInt8) : Option Bool := bytes.foldlM advance start

@[simp] theorem scanPath_nil (start : Bool) : scanPath start [] = some start := rfl

theorem scanPath_cons (start : Bool) (byte : UInt8) (rest : List UInt8) :
    scanPath start (byte :: rest) = (advance start byte).bind fun next => scanPath next rest := by
  rw [scanPath, List.foldlM_cons]
  rfl

theorem scanPath_append (start : Bool) (first second : List UInt8) :
    scanPath start (first ++ second) =
      (scanPath start first).bind fun next => scanPath next second := by
  rw [scanPath, List.foldlM_append]
  rfl

theorem advance_element (start : Bool) {byte : UInt8} (good : isElementByte byte = true) :
    advance start byte = some false := by
  have other : byte ≠ slash := by
    rintro rfl
    exact absurd good (by decide)
  rw [advance, if_neg other, if_pos good]

/-- The bytes of an element can follow anything. -/
theorem scanPath_element (start : Bool) {element : List UInt8} (valid : ValidElement element) :
    scanPath start element = some false := by
  obtain ⟨nonempty, bytes⟩ := valid
  induction element generalizing start with
  | nil => exact absurd rfl nonempty
  | cons byte rest ih =>
      rw [scanPath_cons, advance_element start (bytes byte List.mem_cons_self), Option.bind_some]
      rcases rest with _ | ⟨next, rest⟩
      · rfl
      · exact ih false (List.cons_ne_nil _ _) fun other member =>
          bytes other (List.mem_cons_of_mem _ member)

/-- Between elements the scanner accepts further elements. -/
theorem scanPath_elements {elements : List (List UInt8)}
    (valid : ∀ element ∈ elements, ValidElement element) :
    scanPath false (elements.flatMap (slash :: ·)) = some false := by
  induction elements with
  | nil => rfl
  | cons element rest ih =>
      have first := scanPath_element true (valid element List.mem_cons_self)
      rw [List.flatMap_cons, List.cons_append, scanPath_cons]
      change scanPath true (element ++ _) = _
      rw [scanPath_append, first]
      exact ih fun other member => valid other (List.mem_cons_of_mem _ member)

/-- Whatever the scanner accepts are the rest of an element and further elements. -/
theorem elements_of_scanPath {bytes : List UInt8} {start : Bool}
    (accepted : scanPath start bytes = some false) :
    ∃ (first : List UInt8) (elements : List (List UInt8)),
      bytes = first ++ elements.flatMap (slash :: ·) ∧
      (∀ byte ∈ first, isElementByte byte = true) ∧ (start = true → first ≠ []) ∧
      ∀ element ∈ elements, ValidElement element := by
  induction bytes generalizing start with
  | nil =>
      obtain rfl : start = false := by simpa using accepted
      exact ⟨[], [], rfl, nofun, nofun, nofun⟩
  | cons byte rest ih =>
      rw [scanPath_cons, advance] at accepted
      split_ifs at accepted with separator atStart good
      · cases accepted
      · obtain ⟨first, elements, rfl, bytes, nonempty, valid⟩ := ih accepted
        refine ⟨[], first :: elements, ?_, nofun, fun impossible => absurd impossible atStart, ?_⟩
        · rw [separator]
          rfl
        · exact List.forall_mem_cons.mpr ⟨⟨nonempty rfl, bytes⟩, valid⟩
      · obtain ⟨first, elements, rfl, bytes, -, valid⟩ := ih accepted
        exact ⟨byte :: first, elements, rfl, List.forall_mem_cons.mpr ⟨good, bytes⟩,
          fun _ => List.cons_ne_nil _ _, valid⟩
      · cases accepted

/-- The scanner decides whether a path behind its first slash is valid. -/
theorem validPath_cons_iff {rest : List UInt8} (nonempty : rest ≠ []) :
    ValidPath (slash :: rest) ↔ scanPath true rest = some false := by
  constructor
  · rintro (single | ⟨elements, some', valid, whole⟩)
    · exact absurd (List.cons_eq_cons.mp single).2 nonempty
    · rcases elements with _ | ⟨element, elements⟩
      · exact absurd rfl some'
      · rw [List.flatMap_cons, List.cons_append, List.cons_eq_cons] at whole
        rw [whole.2, scanPath_append, scanPath_element true (valid element List.mem_cons_self)]
        exact scanPath_elements fun other member => valid other (List.mem_cons_of_mem _ member)
  · intro accepted
    obtain ⟨first, elements, rfl, bytes, filled, valid⟩ := elements_of_scanPath accepted
    exact .inr ⟨first :: elements, List.cons_ne_nil _ _,
      List.forall_mem_cons.mpr ⟨⟨filled rfl, bytes⟩, valid⟩, rfl⟩

/-- A name can stand inside a path behind a slash: it begins with no slash, has no two slashes in a
row, and otherwise only element bytes. -/
structure PathName (name : List UInt8) : Prop where
  bytes : ∀ byte ∈ name, isElementByte byte = true ∨ byte = slash
  head : name.head? ≠ some slash
  single : ¬ [slash, slash] <:+: name

theorem two_infix_cons_iff (byte : UInt8) (rest : List UInt8) :
    [slash, slash] <:+: byte :: rest ↔
      (byte = slash ∧ rest.head? = some slash) ∨ [slash, slash] <:+: rest := by
  rw [List.infix_cons_iff, List.cons_prefix_cons]
  rcases rest with _ | ⟨next, rest⟩
  · simp
  · simp [List.cons_prefix_cons, eq_comm]

/-- The scanner gets through a part of a path exactly when its bytes and its slashes allow it. -/
theorem scanPath_isSome_iff (start : Bool) (name : List UInt8) :
    (scanPath start name).isSome ↔ (∀ byte ∈ name, isElementByte byte = true ∨ byte = slash) ∧
      (start = true → name.head? ≠ some slash) ∧ ¬ [slash, slash] <:+: name := by
  induction name generalizing start with
  | nil => simp
  | cons byte rest ih =>
      rw [scanPath_cons, advance, two_infix_cons_iff, List.forall_mem_cons, List.head?_cons]
      split_ifs with separator atStart good
      · simp [separator, atStart]
      · rw [Option.bind_some, ih]
        simp [separator, atStart]
      · rw [Option.bind_some, ih]
        simp [separator, good]
      · simp [separator, good]

theorem scanPath_name_iff (name : List UInt8) : (scanPath true name).isSome ↔ PathName name := by
  rw [scanPath_isSome_iff]
  exact ⟨fun holds => ⟨holds.1, holds.2.1 rfl, holds.2.2⟩,
    fun holds => ⟨holds.bytes, fun _ => holds.head, holds.single⟩⟩

/-- A path that goes on with a name and ends with an element is valid exactly when the name fits. -/
theorem validPath_append_iff {front name last : List UInt8}
    (opened : scanPath true front = some true) (closed : ValidElement last) :
    ValidPath (slash :: (front ++ name ++ last)) ↔ PathName name := by
  have nonempty : front ++ name ++ last ≠ [] := by
    simp [closed.nonempty]
  rw [validPath_cons_iff nonempty, scanPath_append, scanPath_append, opened, Option.bind_some,
    ← scanPath_name_iff]
  rcases scanPath true name with _ | state
  · simp
  · simp [scanPath_element state closed]

end Chassis.Data
