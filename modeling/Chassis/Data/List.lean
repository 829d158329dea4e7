import Mathlib.Data.List.Destutter
import Mathlib.Data.List.Forall2

namespace Chassis.Data

/-- An image that sees the change of an element changes with it. -/
theorem map_modify {Source Target : Type} (image : Source → Target) {update : Source → Source}
    {change : Target → Target} (agrees : ∀ element, image (update element) = change (image element))
    (index : Nat) (elements : List Source) :
    (elements.modify index update).map image = (elements.map image).modify index change := by
  induction elements generalizing index with
  | nil => simp
  | cons element rest ih =>
      cases index with
      | zero => simp [agrees]
      | succ index => simp [ih]

/-- Updates at the first positions in turn change exactly the elements there. -/
theorem getElem?_foldl_modify {Element : Type} (update : Element → Element) (list : List Element)
    (count index : Nat) :
    ((List.range count).foldl (fun list position => list.modify position update) list)[index]? =
      if index < count then list[index]?.map update else list[index]? := by
  induction count with
  | zero => rfl
  | succ count ih =>
      rw [List.range_succ, List.foldl_append, List.foldl_cons, List.foldl_nil, List.getElem?_modify,
        ih]
      rcases Nat.lt_trichotomy index count with before | rfl | after
      · simp [before, Nat.lt_succ_of_lt before, Nat.ne_of_gt before]
      · simp
      · simp [Nat.not_lt_of_gt after, Nat.ne_of_lt after, show ¬ index < count + 1 by omega]

/-- An update at every position in turn maps the list. -/
theorem foldl_modify_range {Element : Type} (update : Element → Element) (list : List Element) :
    (List.range list.length).foldl (fun list position => list.modify position update) list =
      list.map update := by
  apply List.ext_getElem?
  intro index
  rw [getElem?_foldl_modify, List.getElem?_map]
  split
  next => rfl
  next outside => rw [List.getElem?_eq_none (Nat.le_of_not_lt outside), Option.map_none]

/-- A change that keeps the property of its element changes at most what is found. -/
theorem find?_modify {Element : Type} {property : Element → Bool} {update : Element → Element}
    (list : List Element) (index : Nat)
    (same : ∀ element, list[index]? = some element → property (update element) = property element) :
    (list.modify index update).find? property =
      if list.findIdx property = index then (list.find? property).map update
      else list.find? property := by
  induction list generalizing index with
  | nil => simp only [List.modify_nil, List.find?_nil, Option.map_none, ite_self]
  | cons element rest ih =>
      cases index with
      | zero =>
          have kept := same element rfl
          cases holds : property element with
          | true => simp [List.findIdx_cons, kept, holds]
          | false => simp [List.findIdx_cons, kept, holds]
      | succ index =>
          have later := ih index same
          cases holds : property element with
          | true => simp [List.findIdx_cons, holds]
          | false => simp [List.findIdx_cons, holds, later]

/-- Setting an element to its own image is a change. -/
theorem set_eq_modify {Element : Type} {update : Element → Element} {list : List Element}
    {index : Nat} {element : Element} (present : list[index]? = some element) :
    list.set index (update element) = list.modify index update := by
  apply List.ext_getElem?
  intro other
  rw [List.getElem?_set, List.getElem?_modify]
  by_cases here : index = other
  · subst here
    obtain ⟨inside, rfl⟩ := List.getElem?_eq_some_iff.mp present
    simp [inside]
  · simp [here]

/-- Among distinct elements only the one that contributes matters. -/
theorem flatMap_of_mem {Element Target : Type} {image : Element → List Target}
    {list : List Element} {element : Element} (distinct : list.Nodup) (member : element ∈ list)
    (others : ∀ other ∈ list, other ≠ element → image other = []) :
    list.flatMap image = image element := by
  induction list with
  | nil => exact absurd member List.not_mem_nil
  | cons first rest ih =>
      obtain ⟨fresh, distinct⟩ := List.nodup_cons.mp distinct
      rw [List.flatMap_cons]
      rcases List.mem_cons.mp member with rfl | later
      · have none : rest.flatMap image = [] := by
          rw [List.flatMap_eq_nil_iff]
          intro other inside
          exact others other (List.mem_cons_of_mem _ inside) fun same => fresh (same ▸ inside)
        rw [none, List.append_nil]
      · have own : image first = [] :=
          others first List.mem_cons_self fun same => fresh (same ▸ later)
        rw [own, List.nil_append]
        exact ih distinct later fun other inside => others other (List.mem_cons_of_mem _ inside)

/-- The last separator of a list divides it in one way. -/
theorem append_cons_inj_last {Element : Type} {separator : Element}
    {first second last other : List Element} (none : separator ∉ last) (none' : separator ∉ other)
    (same : first ++ separator :: last = second ++ separator :: other) :
    first = second ∧ last = other := by
  rcases List.append_eq_append_iff.mp same with ⟨middle, longer, rest⟩ | ⟨middle, longer, rest⟩
  · rcases middle with _ | ⟨byte, middle⟩
    · exact ⟨by simpa using longer.symm, (List.cons_eq_cons.mp rest).2⟩
    · obtain ⟨rfl, rfl⟩ := List.cons_eq_cons.mp rest
      exact absurd (List.mem_append_right _ List.mem_cons_self) none
  · rcases middle with _ | ⟨byte, middle⟩
    · exact ⟨by simpa using longer, (List.cons_eq_cons.mp rest).2.symm⟩
    · obtain ⟨rfl, rfl⟩ := List.cons_eq_cons.mp rest
      exact absurd (List.mem_append_right _ List.mem_cons_self) none'

/-- The next element of a list without duplicates is not among those before it. -/
theorem notMem_of_prefix {Element : Type} {done elements : List Element} {element : Element}
    (distinct : elements.Nodup) (ahead : done ++ [element] <+: elements) : element ∉ done := by
  have apart := List.nodup_append.mp (distinct.sublist ahead.sublist)
  exact fun member => apart.2.2 element member element List.mem_cons_self rfl

section Destutter

variable {Element : Type} {changes : Element → Element → Prop} [DecidableRel changes]

theorem destutter'_headed (last : Element) (list : List Element) :
    list.destutter' changes last = last :: (list.destutter' changes last).tail := by
  induction list with
  | nil => rfl
  | cons element rest ih =>
      by_cases changed : changes last element
      · rw [List.destutter'_cons_pos _ changed, List.tail_cons]
      · rw [List.destutter'_cons_neg _ changed]
        exact ih

/-- Only an element that is a change from the one kept last is kept. -/
theorem tail_destutter'_cons (last element : Element) (rest : List Element) :
    ((element :: rest).destutter' changes last).tail =
      if changes last element then element :: (rest.destutter' changes element).tail
      else (rest.destutter' changes last).tail := by
  by_cases changed : changes last element
  · rw [List.destutter'_cons_pos _ changed, if_pos changed, List.tail_cons]
    exact destutter'_headed element rest
  · rw [List.destutter'_cons_neg _ changed, if_neg changed]

end Destutter

section Related

variable {Source Target Image : Type} {related : Source → Target → Prop} {sources : List Source}
  {targets : List Target}

/-- Related elements with one image give the lists one image. -/
theorem map_eq_of_forall₂ {first : Source → Image} {second : Target → Image}
    (pairs : List.Forall₂ related sources targets)
    (same : ∀ source target, related source target → first source = second target) :
    sources.map first = targets.map second := by
  induction pairs with
  | nil => rfl
  | cons pair _ ih => rw [List.map_cons, List.map_cons, same _ _ pair, ih]

/-- At each index both lists have related elements or none. -/
theorem getElem?_of_forall₂ (pairs : List.Forall₂ related sources targets) (index : Nat) :
    Option.Rel related sources[index]? targets[index]? := by
  induction pairs generalizing index with
  | nil => exact .none
  | cons pair _ ih =>
      cases index with
      | zero => exact .some pair
      | succ index => exact ih index

/-- Changes of related elements that stay related keep the lists related. -/
theorem forall₂_modify {update : Source → Source} {change : Target → Target}
    (pairs : List.Forall₂ related sources targets)
    (kept : ∀ source target, related source target → related (update source) (change target))
    (index : Nat) :
    List.Forall₂ related (sources.modify index update) (targets.modify index change) := by
  induction pairs generalizing index with
  | nil => simp
  | cons pair rest ih =>
      cases index with
      | zero => exact .cons (kept _ _ pair) rest
      | succ index => exact .cons pair (ih index)

theorem isSome_rel {source : Option Source} {target : Option Target}
    (pair : Option.Rel related source target) : source.isSome = target.isSome := by
  cases pair <;> rfl

/-- Both searches find related values or nothing. -/
theorem findSome?_rel {Element : Type} {first : Element → Option Source}
    {second : Element → Option Target} (list : List Element)
    (each : ∀ element, Option.Rel related (first element) (second element)) :
    Option.Rel related (list.findSome? first) (list.findSome? second) := by
  induction list with
  | nil => exact .none
  | cons element rest ih =>
      have pair := each element
      rw [List.findSome?_cons, List.findSome?_cons]
      generalize first element = found at pair ⊢
      generalize second element = found' at pair ⊢
      cases pair with
      | none => exact ih
      | some pair => exact .some pair

end Related

end Chassis.Data
