import Mathlib.Data.List.Basic
import Mathlib.Data.List.Nodup

namespace Chassis.Data

variable {Key Value : Type} [DecidableEq Key]

theorem lookup_cons_key (own key : Key) (value : Value) (rest : List (Key × Value)) :
    ((own, value) :: rest).lookup key = if key = own then some value else rest.lookup key := by
  rw [List.lookup_cons]
  by_cases same : key = own
  · subst same
    simp
  · have unequal : (key == own) = false := by simp [same]
    simp [unequal, same]

/-- A change under one key is seen under that key alone. -/
theorem lookup_map_key (entries : List (Key × Value)) (key other : Key) (change : Value → Value) :
    (entries.map fun entry => if entry.1 = key then (entry.1, change entry.2) else entry).lookup other =
      if other = key then (entries.lookup other).map change else entries.lookup other := by
  induction entries with
  | nil => simp
  | cons entry rest ih =>
      obtain ⟨own, value⟩ := entry
      rw [List.map_cons, lookup_cons_key]
      by_cases hit : own = key
      · subst hit
        rw [if_pos rfl, lookup_cons_key, ih]
        split <;> rfl
      · rw [if_neg hit, lookup_cons_key, ih]
        split <;> simp_all

/-- A key that is taken out is not found any more. -/
theorem lookup_filter_key (entries : List (Key × Value)) (key other : Key) :
    (entries.filter fun entry => entry.1 ≠ key).lookup other =
      if other = key then none else entries.lookup other := by
  induction entries with
  | nil => simp
  | cons entry rest ih =>
      obtain ⟨own, value⟩ := entry
      rw [List.filter_cons, lookup_cons_key]
      by_cases hit : own = key
      · rw [if_neg (by simp [hit]), ih]
        split <;> simp_all
      · rw [if_pos (by simp [hit]), lookup_cons_key, ih]
        split <;> simp_all

theorem map_fst_map_key (entries : List (Key × Value)) (key : Key) (change : Value → Value) :
    (entries.map fun entry => if entry.1 = key then (entry.1, change entry.2) else entry).map Prod.fst =
      entries.map Prod.fst := by
  rw [List.map_map]
  congr 1
  funext entry
  by_cases hit : entry.1 = key <;> simp [hit]

theorem map_fst_filter_key (entries : List (Key × Value)) (key : Key) :
    (entries.filter fun entry => entry.1 ≠ key).map Prod.fst =
      (entries.map Prod.fst).filter fun own => own ≠ key := by
  simp [List.filter_map, Function.comp_def]

theorem mem_of_lookup {entries : List (Key × Value)} {key : Key} {value : Value}
    (found : entries.lookup key = some value) : (key, value) ∈ entries := by
  obtain ⟨before, after, split, _⟩ := List.lookup_eq_some_iff.mp found
  simp [split]

/-- Where no key stands twice, every entry is found under its key. -/
theorem lookup_of_mem {entries : List (Key × Value)} (distinct : (entries.map Prod.fst).Nodup)
    {entry : Key × Value} (listed : entry ∈ entries) : entries.lookup entry.1 = some entry.2 := by
  induction entries with
  | nil => simp at listed
  | cons first rest ih =>
      rw [List.map_cons, List.nodup_cons] at distinct
      rcases List.mem_cons.mp listed with rfl | later
      · exact List.lookup_cons_self
      · have other : entry.1 ≠ first.1 := by
          intro same
          exact distinct.1 (same ▸ List.mem_map_of_mem later)
        have unequal : (entry.1 == first.1) = false := by simp [other]
        rw [List.lookup_cons, unequal]
        exact ih distinct.2 later

end Chassis.Data
