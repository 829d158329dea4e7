import Mathlib.Data.List.Basic
import Mathlib.Logic.Function.Basic

namespace Chassis.Data

/-- A property of all bytes is checked byte by byte. -/
theorem forall_byte (property : UInt8 → Bool)
    (all : ((List.range 256).all fun byte => property (UInt8.ofNat byte)) = true) (byte : UInt8) :
    property byte = true := by
  have checked := List.all_eq_true.mp all byte.toNat (List.mem_range.mpr byte.toNat_lt)
  rwa [UInt8.ofNat_toNat] at checked

def decimalText (byte : UInt8) : List UInt8 := (toString byte.toNat).toUTF8.toList

/-- The value of digits, of which the first one counts most. -/
def decimalValue (digits : List UInt8) : Nat :=
  digits.foldl (fun value digit => 10 * value + (digit.toNat - 0x30)) 0

theorem decimalText_digits (byte : UInt8) :
    ∀ digit ∈ decimalText byte, 0x30 ≤ digit ∧ digit ≤ 0x39 := by
  have checked := forall_byte (fun byte =>
    (decimalText byte).all fun digit => 0x30 ≤ digit && digit ≤ 0x39) (by decide +kernel) byte
  simpa using checked

theorem decimalValue_decimalText (byte : UInt8) : decimalValue (decimalText byte) = byte.toNat := by
  have checked := forall_byte (fun byte => decimalValue (decimalText byte) == byte.toNat)
    (by decide +kernel) byte
  exact beq_iff_eq.mp checked

theorem decimalText_injective : Function.Injective decimalText := by
  intro first second same
  apply UInt8.toNat_inj.mp
  rw [← decimalValue_decimalText, same, decimalValue_decimalText]

end Chassis.Data
