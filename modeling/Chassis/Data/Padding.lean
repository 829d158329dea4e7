import Mathlib.Data.List.Basic
import Mathlib.Data.UInt

namespace Chassis.Data

/-- The bytes of a pad count up from one. -/
def countedPad (count : Nat) : List UInt8 :=
  (List.range count).map fun index => UInt8.ofNat (index + 1)

/-- A pad and a byte for its length follow the data. -/
def padded (data : List UInt8) (count : Nat) : List UInt8 :=
  data ++ (countedPad count ++ [UInt8.ofNat count])

@[simp] theorem length_countedPad (count : Nat) : (countedPad count).length = count := by
  simp [countedPad]

theorem take_countedPad {count bound : Nat} (within : count ≤ bound) :
    (countedPad bound).take count = countedPad count := by
  rw [countedPad, ← List.map_take, List.take_range, Nat.min_eq_left within, countedPad]

@[simp] theorem length_padded (data : List UInt8) (count : Nat) :
    (padded data count).length = data.length + count + 1 := by
  simp [padded]
  omega

@[simp] theorem getLast?_padded (data : List UInt8) (count : Nat) :
    (padded data count).getLast? = some (UInt8.ofNat count) := by
  simp [padded, ← List.append_assoc]

/-- The data stand before the pad. -/
theorem take_padded (data : List UInt8) (count : Nat) :
    (padded data count).take data.length = data := by
  simp [padded]

theorem drop_padded (data : List UInt8) (count : Nat) :
    ((padded data count).drop data.length).take count = countedPad count := by
  simp [padded]

end Chassis.Data
