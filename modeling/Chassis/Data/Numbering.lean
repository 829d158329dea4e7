import Mathlib.Data.List.Basic
import Mathlib.Data.List.Nodup

namespace Chassis.Data

variable {Element : Type} [DecidableEq Element]

/-- A numbering reserves 0 for one special element and counts the others from 1 in order. -/
def numbered (special : Element) (elements : List Element) : Nat → Option Element
  | 0 => if special ∈ elements then some special else none
  | index + 1 => (elements.filter (· ≠ special))[index]?

/-- The last number in use belongs to the last of these elements. -/
def others (special : Element) (elements : List Element) : Nat :=
  (elements.filter (· ≠ special)).length

variable {special element : Element} {elements : List Element}

@[simp] theorem numbered_nil (index : Nat) : numbered special [] index = none := by
  cases index <;> rfl

theorem others_append_special : others special (elements ++ [special]) = others special elements := by
  simp [others]

theorem others_append_other (other : element ≠ special) :
    others special (elements ++ [element]) = others special elements + 1 := by
  simp [others, other]

theorem others_le : others special elements ≤ elements.length := List.length_filter_le ..

theorem numbered_append_special (index : Nat) :
    numbered special (elements ++ [special]) index =
      if index = 0 then some special else numbered special elements index := by
  cases index with
  | zero => simp [numbered]
  | succ index => simp [numbered]

/-- A new element gets the next number. -/
theorem numbered_append_other (other : element ≠ special) (index : Nat) :
    numbered special (elements ++ [element]) index =
      if index = others special elements + 1 then some element
      else numbered special elements index := by
  cases index with
  | zero => simp [numbered, other.symm]
  | succ index =>
      simp only [numbered, others, List.filter_append, List.filter_singleton, other, ne_eq,
        not_false_eq_true, decide_true, List.getElem?_append, Nat.add_right_cancel_iff]
      generalize elements.filter (· ≠ special) = rest
      by_cases inside : index < rest.length
      · rw [if_pos inside, if_neg (by omega)]
      · rw [if_neg inside, List.getElem?_eq_none (l := rest) (by omega)]
        by_cases next : index = rest.length
        · simp [next]
        · rw [if_neg next, List.getElem?_eq_none]
          simp
          omega

theorem mem_of_numbered {index : Nat} (present : numbered special elements index = some element) :
    element ∈ elements := by
  cases index with
  | zero =>
      obtain ⟨member, rfl⟩ := by simpa [numbered] using present
      exact member
  | succ index => exact List.mem_of_mem_filter (List.mem_of_getElem? present)

theorem exists_numbered (special : Element) (member : element ∈ elements) :
    ∃ index, index ≤ others special elements ∧ numbered special elements index = some element := by
  by_cases same : element = special
  · subst same
    exact ⟨0, Nat.zero_le _, if_pos member⟩
  · have kept : element ∈ elements.filter (· ≠ special) := by simp [member, same]
    obtain ⟨index, inside, rfl⟩ := List.mem_iff_getElem.mp kept
    exact ⟨index + 1, inside, List.getElem?_eq_getElem inside⟩

/-- The numbers in use are 0, if the special element is present, and those of the others. -/
theorem numbered_isSome_iff (special : Element) (elements : List Element) (index : Nat) :
    (numbered special elements index).isSome ↔
      index = 0 ∧ special ∈ elements ∨ 1 ≤ index ∧ index ≤ others special elements := by
  cases index with
  | zero => simp [numbered, apply_ite Option.isSome]
  | succ index =>
      have inside : (numbered special elements (index + 1)).isSome ↔
          index < others special elements := by
        simp [numbered, others]
      rw [inside]
      constructor
      · exact fun bound => .inr ⟨Nat.succ_pos _, bound⟩
      · rintro (⟨zero, -⟩ | ⟨-, bound⟩)
        · cases zero
        · exact bound

/-- No element has two numbers. -/
theorem numbered_injective (distinct : elements.Nodup) {first second : Nat}
    (present : numbered special elements first = some element)
    (again : numbered special elements second = some element) : first = second := by
  have different {index : Nat} (other : (elements.filter (· ≠ special))[index]? = some special) :
      False := by
    have member := List.mem_of_getElem? other
    simp at member
  cases first with
  | zero =>
      obtain ⟨_, rfl⟩ := by simpa [numbered] using present
      cases second with
      | zero => rfl
      | succ second => exact (different again).elim
  | succ first =>
      cases second with
      | zero =>
          obtain ⟨_, rfl⟩ := by simpa [numbered] using again
          exact (different present).elim
      | succ second =>
          have inside := (List.getElem?_eq_some_iff.mp present).1
          have same := (List.getElem?_inj inside (distinct.filter _)).mp (present.trans again.symm)
          rw [same]

end Chassis.Data
