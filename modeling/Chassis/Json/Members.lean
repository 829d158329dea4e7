import Chassis.Json.Parse
import Mathlib.Data.List.Basic

namespace Chassis.Json

variable {Number Other : Type}

/-- The keys of the members increase, so they are distinct. -/
def Ordered (members : List (List UInt8 × Value Number)) : Prop :=
  members.Pairwise fun first second => first.1 < second.1

/-- A key that is not less than a different one is greater. -/
theorem key_lt {key other : List UInt8} (different : key ≠ other) (least : ¬ key < other) :
    other < key :=
  Std.lt_of_le_of_ne least different.symm

/-- The first member under a key is found. -/
theorem lookup_member (key other : List UInt8) (value : Value Number)
    (members : List (List UInt8 × Value Number)) :
    ((key, value) :: members).lookup other =
      if other = key then some value else members.lookup other := by
  rw [List.lookup_cons]
  by_cases asked : other = key
  · rw [if_pos asked, beq_iff_eq.mpr asked]
  · rw [if_neg asked, beq_eq_false_iff_ne.mpr asked]

/-- An insertion changes what is found under its own key. -/
theorem lookup_insertMember (key other : List UInt8) (value : Value Number)
    (members : List (List UInt8 × Value Number)) :
    (insertMember key value members).lookup other =
      if other = key then some value else members.lookup other := by
  induction members with
  | nil => exact lookup_member key other value []
  | cons member rest ih =>
      obtain ⟨present, old⟩ := member
      rw [insertMember]
      by_cases same : key = present
      · subst same
        rw [if_pos rfl, lookup_member, lookup_member]
        split
        next => rfl
        next => rfl
      · rw [if_neg same]
        by_cases before : key < present
        · rw [if_pos before, lookup_member]
        · rw [if_neg before, lookup_member, lookup_member, ih]
          by_cases asked : other = present
          · have different : other ≠ key := fun equal => same (equal.symm.trans asked)
            rw [if_pos asked, if_neg different, if_pos asked]
          · rw [if_neg asked, if_neg asked]

theorem mem_insertMember {key : List UInt8} {value : Value Number}
    {members : List (List UInt8 × Value Number)} {member : List UInt8 × Value Number}
    (listed : member ∈ insertMember key value members) :
    member = (key, value) ∨ member ∈ members := by
  induction members with
  | nil => exact .inl (List.mem_singleton.mp listed)
  | cons head rest ih =>
      rw [insertMember] at listed
      split_ifs at listed
      · exact (List.mem_cons.mp listed).imp_right (List.mem_cons_of_mem _)
      · exact List.mem_cons.mp listed
      · rcases List.mem_cons.mp listed with first | later
        · exact .inr (first ▸ List.mem_cons_self)
        · exact (ih later).imp_right (List.mem_cons_of_mem _)

theorem insertMember_ordered (key : List UInt8) (value : Value Number)
    {members : List (List UInt8 × Value Number)} (ordered : Ordered members) :
    Ordered (insertMember key value members) := by
  induction members with
  | nil => exact List.pairwise_singleton _ _
  | cons member rest ih =>
      obtain ⟨present, old⟩ := member
      obtain ⟨above, later⟩ := List.pairwise_cons.mp ordered
      rw [insertMember]
      split_ifs with same before
      · subst same
        exact List.pairwise_cons.mpr ⟨above, later⟩
      · refine List.pairwise_cons.mpr ⟨?_, ordered⟩
        intro other listed
        rcases List.mem_cons.mp listed with rfl | listed
        · exact before
        · exact List.lt_trans before (above other listed)
      · refine List.pairwise_cons.mpr ⟨?_, ih later⟩
        intro other listed
        rcases mem_insertMember listed with rfl | listed
        · exact key_lt same before
        · exact above other listed

/-- A member behind all others is inserted at the end. -/
theorem insertMember_last {key : List UInt8} (value : Value Number)
    {members : List (List UInt8 × Value Number)} (above : ∀ member ∈ members, member.1 < key) :
    insertMember key value members = members ++ [(key, value)] := by
  induction members with
  | nil => rfl
  | cons member rest ih =>
      obtain ⟨first, later⟩ := List.forall_mem_cons.mp above
      have different : key ≠ member.1 := by
        rintro rfl
        exact List.lt_irrefl _ first
      have after : ¬ key < member.1 := fun before => List.lt_irrefl _ (List.lt_trans first before)
      rw [insertMember, if_neg different, if_neg after, ih later]
      rfl

/-- Ordered members that are inserted in turn behind others are appended to them. -/
theorem foldl_insertMember_append {members others : List (List UInt8 × Value Number)}
    (ordered : Ordered (others ++ members)) :
    members.foldl (fun members member => insertMember member.1 member.2 members) others =
      others ++ members := by
  induction members generalizing others with
  | nil => exact (List.append_nil others).symm
  | cons member rest ih =>
      have above : ∀ other ∈ others, other.1 < member.1 := fun other listed =>
        (List.pairwise_append.mp ordered).2.2 other listed member List.mem_cons_self
      have moved : others ++ member :: rest = (others ++ [member]) ++ rest := by simp
      rw [List.foldl_cons, insertMember_last member.2 above, moved]
      exact ih (moved ▸ ordered)

mutual

/-- Every number of a value is replaced by a value. -/
def Value.substitute (replace : Number → Value Other) : Value Number → Value Other
  | .null => .null
  | .boolean value => .boolean value
  | .number value => replace value
  | .string text => .string text
  | .array elements => .array (substituteElements replace elements)
  | .object members => .object (substituteMembers replace members)

def substituteElements (replace : Number → Value Other) : List (Value Number) → List (Value Other)
  | [] => []
  | element :: rest => element.substitute replace :: substituteElements replace rest

def substituteMembers (replace : Number → Value Other) :
    List (List UInt8 × Value Number) → List (List UInt8 × Value Other)
  | [] => []
  | (key, value) :: rest => (key, value.substitute replace) :: substituteMembers replace rest

end

variable (replace : Number → Value Other)

theorem substituteMembers_eq_map (members : List (List UInt8 × Value Number)) :
    substituteMembers replace members =
      members.map fun member => (member.1, member.2.substitute replace) := by
  induction members with
  | nil => rfl
  | cons member rest ih => exact congrArg _ ih

theorem substitute_object (members : List (List UInt8 × Value Number)) :
    (Value.object members).substitute replace =
      .object (members.map fun member => (member.1, member.2.substitute replace)) := by
  rw [Value.substitute, substituteMembers_eq_map]

/-- A replacement keeps the members under their keys. -/
theorem member_substitute (key : List UInt8) (value : Value Number)
    (scalar : ∀ number, (replace number).member key = none) :
    (value.substitute replace).member key =
      (value.member key).map fun entry => entry.substitute replace := by
  cases value with
  | object members =>
      rw [substitute_object, Value.member, Value.member]
      induction members with
      | nil => rfl
      | cons member rest ih =>
          rw [List.map_cons, List.lookup_cons, List.lookup_cons]
          cases key == member.1 with
          | false => exact ih
          | true => rfl
  | number number => exact scalar number
  | null | boolean | string | array => rfl

end Chassis.Json
