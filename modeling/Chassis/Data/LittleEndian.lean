import Mathlib.Data.List.Basic
import Mathlib.Data.UInt

namespace Chassis.Data.LittleEndian

/-- A number takes a fixed count of bytes, of which the first one counts least. -/
def encode : Nat → Nat → List UInt8
  | 0, _ => []
  | count + 1, value => UInt8.ofNat value :: encode count (value / 256)

def decode : List UInt8 → Nat
  | [] => 0
  | byte :: rest => byte.toNat + 256 * decode rest

@[simp] theorem length_encode (count value : Nat) : (encode count value).length = count := by
  induction count generalizing value with
  | zero => rfl
  | succ count ih => simp [encode, ih]

theorem decode_encode (count value : Nat) : decode (encode count value) = value % 256 ^ count := by
  induction count generalizing value with
  | zero => simp [encode, decode, Nat.mod_one]
  | succ count ih =>
      rw [encode, decode, ih, UInt8.toNat_ofNat', show 2 ^ 8 = 256 from rfl, pow_succ', Nat.mod_mul]

/-- A number that fits is read back. -/
theorem decode_encode_of_lt {count value : Nat} (fits : value < 256 ^ count) :
    decode (encode count value) = value := by
  rw [decode_encode, Nat.mod_eq_of_lt fits]

/-- Words of 32 bits take four bytes. -/
def word (value : UInt32) : List UInt8 := encode 4 value.toNat

def readWord (bytes : List UInt8) : UInt32 := UInt32.ofNat (decode bytes)

@[simp] theorem length_word (value : UInt32) : (word value).length = 4 := length_encode 4 _

@[simp] theorem readWord_word (value : UInt32) : readWord (word value) = value := by
  have small : value.toNat < 256 ^ 4 := value.toNat_lt
  rw [readWord, word, decode_encode_of_lt small, UInt32.ofNat_toNat]

end Chassis.Data.LittleEndian
