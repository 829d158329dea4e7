import Mathlib.Data.List.Basic
import Mathlib.Tactic.Ring

namespace Chassis.Data

def newline : UInt8 := 0x0A

/-- The lines that repeated calls of getline take from a text. A last line may lack its newline, and
there is no line behind the last newline. -/
def lines : List UInt8 → List (List UInt8)
  | [] => []
  | byte :: rest =>
      if byte = newline then [] :: lines rest
      else match lines rest with
        | [] => [[byte]]
        | line :: others => (byte :: line) :: others

/-- Each line gets a newline behind it. -/
def unlines (rows : List (List UInt8)) : List UInt8 := rows.flatMap (· ++ [newline])

@[simp] theorem lines_nil : lines [] = [] := rfl

@[simp] theorem lines_newline (rest : List UInt8) : lines (newline :: rest) = [] :: lines rest := rfl

@[simp] theorem unlines_nil : unlines [] = [] := rfl

@[simp] theorem unlines_cons (row : List UInt8) (rows : List (List UInt8)) :
    unlines (row :: rows) = row ++ newline :: unlines rows := by
  simp [unlines]

theorem unlines_append (first second : List (List UInt8)) :
    unlines (first ++ second) = unlines first ++ unlines second :=
  List.flatMap_append

theorem length_unlines_replicate (count : Nat) (row : List UInt8) :
    (unlines (List.replicate count row)).length = count * (row.length + 1) := by
  induction count with
  | zero => simp
  | succ count ih =>
      rw [List.replicate_succ, unlines_cons, List.length_append, List.length_cons, ih]
      ring

/-- Bytes without a newline extend the first line. -/
theorem lines_append_of_notMem {row rest : List UInt8} (complete : newline ∉ row) :
    lines (row ++ newline :: rest) = row :: lines rest := by
  induction row with
  | nil => rfl
  | cons byte row ih =>
      rw [List.mem_cons, not_or] at complete
      rw [List.cons_append, lines, if_neg (Ne.symm complete.1), ih complete.2]

/-- The lines of a text of complete lines come before the lines of the rest. -/
theorem lines_unlines_append {rows : List (List UInt8)} (complete : ∀ row ∈ rows, newline ∉ row)
    (rest : List UInt8) : lines (unlines rows ++ rest) = rows ++ lines rest := by
  induction rows with
  | nil => rfl
  | cons row rows ih =>
      rw [unlines_cons, List.append_assoc, List.cons_append,
        lines_append_of_notMem (complete row List.mem_cons_self),
        ih fun other member => complete other (List.mem_cons_of_mem _ member), List.cons_append]

/-- The first line holds the bytes in front of the first newline. -/
theorem lines_head {text line : List UInt8} {others : List (List UInt8)}
    (split : lines text = line :: others) : line = text.takeWhile (· ≠ newline) := by
  induction text generalizing line others with
  | nil => cases split
  | cons byte rest ih =>
      rw [lines] at split
      rw [List.takeWhile_cons]
      split_ifs at split with ended
      · cases split
        simp [ended]
      · cases found : lines rest with
        | nil =>
            rw [found] at split
            cases split
            cases rest with
            | nil => simp [ended]
            | cons next rest =>
                rw [lines] at found
                split_ifs at found
                revert found
                cases lines rest with
                | nil => intro found; cases found
                | cons _ _ => intro found; cases found
        | cons first more =>
            rw [found] at split
            cases split
            rw [ih found]
            simp [ended]

theorem lines_eq_nil {text : List UInt8} : lines text = [] ↔ text = [] := by
  cases text with
  | nil => simp
  | cons byte rest =>
      rw [lines]
      split_ifs
      · simp
      · cases lines rest <;> simp

/-- Nothing is behind the last newline of the text. -/
def Complete (text : List UInt8) : Prop := text = [] ∨ ∃ front, text = front ++ [newline]

/-- The rest of a text from the start of one of its lines on, or from its end. -/
def LineSuffix (text rest : List UInt8) : Prop :=
  rest = [] ∨ ∃ front, text = front ++ rest ∧ Complete front

/-- What follows the start of a line in a complete text is complete. -/
theorem LineSuffix.complete {text rest : List UInt8} (start : LineSuffix text rest)
    (complete : Complete text) : Complete rest := by
  rcases start with rfl | ⟨front, rfl, -⟩
  · exact Or.inl rfl
  · rcases List.eq_nil_or_concat rest with rfl | ⟨inner, last, rfl⟩
    · exact Or.inl rfl
    · rcases complete with empty | ⟨other, same⟩
      · simp at empty
      · rw [List.concat_eq_append, ← List.append_assoc] at same
        obtain ⟨-, last⟩ := List.append_inj' same rfl
        rw [List.concat_eq_append, last]
        exact Or.inr ⟨inner, rfl⟩

/-- Of two suffixes the shorter one ends the longer one. -/
theorem LineSuffix.suffix {text rest other : List UInt8} (first : LineSuffix text rest)
    (second : LineSuffix text other) (shorter : rest.length ≤ other.length) : rest <:+ other := by
  rcases first with rfl | ⟨front, split, -⟩
  · exact List.nil_suffix
  · rcases second with rfl | ⟨before, split', -⟩
    · rw [List.length_nil, Nat.le_zero, List.length_eq_zero_iff] at shorter
      subst shorter
      exact List.nil_suffix
    · exact List.suffix_of_suffix_length_le ⟨front, split.symm⟩ ⟨before, split'.symm⟩ shorter

/-- A prefix of some length has a property throughout when so many bytes are there and have it. -/
theorem le_length_takeWhile {Element : Type} (holds : Element → Bool) (count : Nat)
    (list : List Element) : count ≤ (list.takeWhile holds).length ↔
      count ≤ list.length ∧ ∀ element ∈ list.take count, holds element = true := by
  induction list generalizing count with
  | nil =>
      cases count with
      | zero => simp
      | succ count => simp
  | cons element rest ih =>
      cases count with
      | zero => simp
      | succ count =>
          rw [List.takeWhile_cons, List.take_succ_cons, List.forall_mem_cons, List.length_cons,
            Nat.succ_le_succ_iff]
          cases holds element with
          | false => simp
          | true => simp [ih]

end Chassis.Data
