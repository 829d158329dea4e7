import Mathlib.Data.List.GetD
import Mathlib.Data.List.OfFn
import Mathlib.Logic.Equiv.Defs

namespace Chassis.Data

section Chain

variable {Block : Type} (combine : Block → Block → Block) (permutation : Equiv.Perm Block)

/-- Each block is combined with the image before it and then permuted. -/
def chain : Block → List Block → List Block
  | _, [] => []
  | previous, block :: rest =>
      permutation (combine block previous) :: chain (permutation (combine block previous)) rest

def unchain : Block → List Block → List Block
  | _, [] => []
  | previous, image :: rest => combine (permutation.symm image) previous :: unchain image rest

@[simp] theorem length_chain (previous : Block) (blocks : List Block) :
    (chain combine permutation previous blocks).length = blocks.length := by
  induction blocks generalizing previous with
  | nil => rfl
  | cons block rest ih => simp [chain, ih]

@[simp] theorem length_unchain (previous : Block) (blocks : List Block) :
    (unchain combine permutation previous blocks).length = blocks.length := by
  induction blocks generalizing previous with
  | nil => rfl
  | cons block rest ih => simp [unchain, ih]

variable {combine}

/-- A combination that cancels is undone block by block. -/
theorem unchain_chain (cancels : ∀ block previous, combine (combine block previous) previous = block)
    (previous : Block) (blocks : List Block) :
    unchain combine permutation previous (chain combine permutation previous blocks) = blocks := by
  induction blocks generalizing previous with
  | nil => rfl
  | cons block rest ih => simp [chain, unchain, cancels, ih]

end Chain

section Cut

variable {Element : Type}

/-- The first blocks of a list. -/
def blocks [Inhabited Element] (size : Nat) : Nat → List Element → List (Fin size → Element)
  | 0, _ => []
  | count + 1, list => (fun index => list.getD index default) :: blocks size count (list.drop size)

/-- The blocks in one list. -/
def joined {size : Nat} (parts : List (Fin size → Element)) : List Element :=
  parts.flatMap List.ofFn

@[simp] theorem length_blocks [Inhabited Element] (size count : Nat) (list : List Element) :
    (blocks size count list).length = count := by
  induction count generalizing list with
  | zero => rfl
  | succ count ih => simp [blocks, ih]

@[simp] theorem length_joined {size : Nat} (parts : List (Fin size → Element)) :
    (joined parts).length = size * parts.length := by
  induction parts with
  | nil => rfl
  | cons part rest ih =>
      rw [joined, List.flatMap_cons, List.length_append, List.length_ofFn, ← joined, ih,
        List.length_cons, Nat.mul_add, Nat.mul_one, Nat.add_comm]

theorem ofFn_getD [Inhabited Element] {size : Nat} {list : List Element} (enough : size ≤ list.length) :
    (List.ofFn fun index : Fin size => list.getD index default) = list.take size := by
  apply List.ext_getElem
  · simp [enough]
  · intro index inside _
    have within : index < list.length := by
      simp at inside
      omega
    simp [within]

/-- Cutting whole blocks loses nothing. -/
theorem joined_blocks [Inhabited Element] {size count : Nat} {list : List Element} (whole : list.length = size * count) :
    joined (blocks size count list) = list := by
  induction count generalizing list with
  | zero =>
      rw [Nat.mul_zero, List.length_eq_zero_iff] at whole
      simp [whole, blocks, joined]
  | succ count ih =>
      rw [Nat.mul_add, Nat.mul_one] at whole
      have rest : (list.drop size).length = size * count := by
        rw [List.length_drop]
        omega
      rw [blocks, joined, List.flatMap_cons, ofFn_getD (by omega), ← joined, ih rest,
        List.take_append_drop]

/-- What follows the blocks is not read. -/
theorem blocks_joined [Inhabited Element] {size : Nat}
    (parts : List (Fin size → Element)) (rest : List Element) :
    blocks size parts.length (joined parts ++ rest) = parts := by
  induction parts with
  | nil => rfl
  | cons part parts ih =>
      rw [List.length_cons, blocks, joined, List.flatMap_cons, ← joined, List.append_assoc]
      congr 1
      · funext index
        have inside : (index : Nat) < (List.ofFn part).length := by simp
        rw [List.getD_append _ _ _ _ inside, List.getD_eq_getElem _ _ inside]
        simp
      · rw [List.drop_append_of_le_length (by simp), List.drop_of_length_le (by simp),
          List.nil_append, ih]

end Cut

end Chassis.Data
