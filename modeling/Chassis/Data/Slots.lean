import Mathlib.Data.List.GetD
import Mathlib.Data.List.Perm.Subperm

namespace Chassis.Data

variable {Key : Type} {free : Key} {slots : List Key} {keys : Key → Prop}

/-- A table of slots holds every one of its keys in a single slot, and nothing in the first one. -/
structure Holds (free : Key) (slots : List Key) (keys : Key → Prop) : Prop where
  reserved : slots.getD 0 free = free
  distinct : ∀ {first second : Nat}, slots.getD first free = slots.getD second free →
    slots.getD first free ≠ free → first = second
  held : ∀ {key : Key}, key ≠ free → ((∃ index, slots.getD index free = key) ↔ keys key)

theorem getD_set (slots : List Key) (index other : Nat) (key free : Key) :
    (slots.set index key).getD other free =
      if other = index ∧ index < slots.length then key else slots.getD other free := by
  simp only [List.getD_eq_getElem?_getD, List.getElem?_set]
  by_cases same : index = other
  · subst same
    by_cases inside : index < slots.length
    · simp [inside]
    · simp [inside]
  · simp [same, Ne.symm same]

/-- An empty table holds no key. -/
theorem holds_replicate (free : Key) (count : Nat) :
    Holds free (List.replicate count free) fun _ => False := by
  have empty : ∀ index, (List.replicate count free).getD index free = free := by
    intro index
    rw [List.getD_eq_getElem?_getD, List.getElem?_replicate]
    split <;> rfl
  constructor
  · exact empty 0
  · intro first _ _ taken
    exact absurd (empty first) taken
  · intro key taken
    constructor
    · rintro ⟨index, same⟩
      exact taken (same ▸ empty index)
    · exact False.elim

theorem Holds.congr (holds : Holds free slots keys) {others : Key → Prop}
    (same : ∀ key, key ≠ free → (keys key ↔ others key)) : Holds free slots others where
  reserved := holds.reserved
  distinct := holds.distinct
  held taken := (holds.held taken).trans (same _ taken)

/-- A free slot takes a new key. -/
theorem Holds.claim (holds : Holds free slots keys) {index : Nat} {key : Key}
    (positive : 0 < index) (inside : index < slots.length) (empty : slots.getD index free = free)
    (taken : key ≠ free) (new : ¬ keys key) :
    Holds free (slots.set index key) fun other => other = key ∨ keys other := by
  have absent : ∀ other, slots.getD other free ≠ key := by
    intro other same
    exact new ((holds.held taken).mp ⟨other, same⟩)
  constructor
  · rw [getD_set, if_neg (by omega)]
    exact holds.reserved
  · intro first second same stands
    rw [getD_set, getD_set] at same
    rw [getD_set] at stands
    by_cases atFirst : first = index <;> by_cases atSecond : second = index
    · omega
    · simp only [atFirst, atSecond, inside, and_true, if_true, if_false] at same
      exact absurd same.symm (absent second)
    · simp only [atFirst, atSecond, inside, and_true, if_true, if_false] at same
      exact absurd same (absent first)
    · simp only [atFirst, atSecond, false_and, if_false] at same stands
      exact holds.distinct same stands
  · intro other taken
    constructor
    · rintro ⟨position, found⟩
      rw [getD_set] at found
      by_cases hit : position = index
      · simp only [hit, inside, and_true, if_true] at found
        exact Or.inl found.symm
      · simp only [hit, false_and, if_false] at found
        exact Or.inr ((holds.held taken).mp ⟨position, found⟩)
    · rintro (rfl | old)
      · exact ⟨index, by rw [getD_set, if_pos ⟨rfl, inside⟩]⟩
      · obtain ⟨position, found⟩ := (holds.held taken).mpr old
        have apart : position ≠ index := by
          intro same
          rw [same, empty] at found
          exact taken found.symm
        exact ⟨position, by rw [getD_set, if_neg (by tauto), found]⟩

/-- A slot that is freed gives up its key. -/
theorem Holds.release (holds : Holds free slots keys) (index : Nat) :
    Holds free (slots.set index free) fun key => key ≠ slots.getD index free ∧ keys key := by
  have at_index : ∀ other, (slots.set index free).getD other free =
      if other = index then free else slots.getD other free := by
    intro other
    rw [getD_set]
    by_cases same : other = index
    · subst same
      by_cases inside : other < slots.length
      · simp [inside]
      · simp [inside]
    · simp [same]
  constructor
  · rw [at_index]
    split
    · rfl
    · exact holds.reserved
  · intro first second same stands
    rw [at_index, at_index] at same
    rw [at_index] at stands
    by_cases atFirst : first = index <;> by_cases atSecond : second = index
    · omega
    · simp [atFirst] at stands
    · simp only [atFirst, atSecond, if_true, if_false] at same stands
      exact absurd same stands
    · simp only [atFirst, atSecond, if_false] at same stands
      exact holds.distinct same stands
  · intro key taken
    constructor
    · rintro ⟨position, found⟩
      rw [at_index] at found
      by_cases hit : position = index
      · rw [if_pos hit] at found
        exact absurd found.symm taken
      · rw [if_neg hit] at found
        constructor
        · intro same
          have stands : slots.getD position free ≠ free := by rw [found]; exact taken
          exact hit (holds.distinct (found.trans same) stands)
        · exact (holds.held taken).mp ⟨position, found⟩
    · rintro ⟨other, old⟩
      obtain ⟨position, found⟩ := (holds.held taken).mpr old
      have apart : position ≠ index := by
        intro same
        exact other (by rw [← found, same])
      exact ⟨position, by rw [at_index, if_neg apart, found]⟩

/-- There are fewer keys than slots. -/
theorem Holds.length_lt (holds : Holds free slots keys) {listed : List Key}
    (distinct : listed.Nodup) (own : ∀ key ∈ listed, key ≠ free ∧ keys key)
    (some : 0 < slots.length) : listed.length < slots.length := by
  have inside : listed ⊆ slots.tail := by
    intro key member
    obtain ⟨taken, stands⟩ := own key member
    obtain ⟨index, found⟩ := (holds.held taken).mpr stands
    cases index with
    | zero =>
        rw [holds.reserved] at found
        exact absurd found.symm taken
    | succ index =>
        have bound : index + 1 < slots.length := by
          by_contra outside
          rw [List.getD_eq_default _ _ (Nat.le_of_not_lt outside)] at found
          exact taken found.symm
        rw [List.getD_eq_getElem _ _ bound] at found
        rw [List.mem_iff_getElem]
        exact ⟨index, by rw [List.length_tail]; omega, by rw [List.getElem_tail, found]⟩
  have bound := (distinct.subperm inside).length_le
  rw [List.length_tail] at bound
  omega

end Chassis.Data
