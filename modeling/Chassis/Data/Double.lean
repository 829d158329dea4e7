import Mathlib.Data.Int.Log
import Mathlib.Data.Rat.Floor
import Mathlib.Tactic.Linarith
import Mathlib.Tactic.Ring

namespace Chassis.Data

/-- The nearest integer, or the even one of the two nearest. -/
def roundEven (value : ℚ) : Int :=
  if value - ⌊value⌋ < 1 / 2 then ⌊value⌋
  else if 1 / 2 < value - ⌊value⌋ then ⌊value⌋ + 1
  else ⌊value⌋ + ⌊value⌋ % 2

/-- The exponent of the last place of a double next to a value. -/
def lastPlace (value : ℚ) : Int := max (Int.log 2 |value| - 52) (-1074)

/-- The double that stands for a value: it has 53 significant bits, or fewer next to zero. Values
beyond the largest double are left to the caller. -/
def roundDouble (value : ℚ) : ℚ := roundEven (value / 2 ^ lastPlace value) * 2 ^ lastPlace value

example : roundDouble (33 / 10) = 7430939385161318 / 2251799813685248 := by decide +kernel

theorem floor_le_roundEven (value : ℚ) : ⌊value⌋ ≤ roundEven value := by
  unfold roundEven
  split_ifs <;> omega

theorem roundEven_le_floor_succ (value : ℚ) : roundEven value ≤ ⌊value⌋ + 1 := by
  unfold roundEven
  split_ifs <;> omega

theorem roundEven_intCast (value : Int) : roundEven value = value := by
  simp [roundEven]

theorem roundEven_mono {first second : ℚ} (le : first ≤ second) :
    roundEven first ≤ roundEven second := by
  rcases (Int.floor_le_floor le).lt_or_eq with below | same
  · calc roundEven first ≤ ⌊first⌋ + 1 := roundEven_le_floor_succ first
      _ ≤ ⌊second⌋ := below
      _ ≤ roundEven second := floor_le_roundEven second
  · unfold roundEven
    rw [same]
    split_ifs <;> first | omega | linarith

theorem roundEven_neg (value : ℚ) : roundEven (-value) = -roundEven value := by
  by_cases whole : Int.fract value = 0
  · obtain ⟨integer, rfl⟩ := Int.fract_eq_zero_iff.mp whole
    rw [roundEven_intCast, ← Int.cast_neg, roundEven_intCast]
  · have floor : ⌊-value⌋ = -⌊value⌋ - 1 := by
      have ceiling := Int.ceil_eq_floor_add_one_iff_notMem value |>.mpr
        fun listed => whole (Int.fract_eq_zero_iff.mpr listed)
      rw [Int.floor_neg, ceiling]
      ring
    unfold roundEven
    rw [floor]
    push_cast
    split_ifs <;> first | omega | linarith

theorem roundEven_near (value : ℚ) : |(roundEven value : ℚ) - value| ≤ 1 / 2 := by
  have floor := Int.floor_le value
  have above := Int.lt_floor_add_one value
  unfold roundEven
  rw [abs_le]
  split_ifs with low high
  · constructor <;> linarith
  · push_cast
    constructor <;> linarith
  · have middle : value - ⌊value⌋ = 1 / 2 := le_antisymm (not_lt.mp high) (not_lt.mp low)
    rcases Int.emod_two_eq_zero_or_one ⌊value⌋ with even | odd
    · rw [even]
      push_cast
      constructor <;> linarith
    · rw [odd]
      push_cast
      constructor <;> linarith

theorem lastPlace_neg (value : ℚ) : lastPlace (-value) = lastPlace value := by
  rw [lastPlace, abs_neg, lastPlace]

theorem roundDouble_neg (value : ℚ) : roundDouble (-value) = -roundDouble value := by
  rw [roundDouble, lastPlace_neg, neg_div, roundEven_neg, roundDouble]
  push_cast
  ring

theorem roundDouble_zero : roundDouble 0 = 0 := by
  rw [roundDouble, zero_div]
  exact mul_eq_zero_of_left (by exact_mod_cast roundEven_intCast 0) _

/-- Rounding does not pass a multiple of the last place. -/
theorem roundDouble_le {value : ℚ} {count : Int} (le : value ≤ count * 2 ^ lastPlace value) :
    roundDouble value ≤ count * 2 ^ lastPlace value := by
  have positive : (0 : ℚ) < 2 ^ lastPlace value := zpow_pos two_pos _
  have rounded := roundEven_mono ((div_le_iff₀ positive).mpr le)
  rw [roundEven_intCast] at rounded
  exact mul_le_mul_of_nonneg_right (Int.cast_le.mpr rounded) positive.le

theorem le_roundDouble {value : ℚ} {count : Int} (le : count * 2 ^ lastPlace value ≤ value) :
    count * 2 ^ lastPlace value ≤ roundDouble value := by
  have positive : (0 : ℚ) < 2 ^ lastPlace value := zpow_pos two_pos _
  have rounded := roundEven_mono ((le_div_iff₀ positive).mpr le)
  rw [roundEven_intCast] at rounded
  exact mul_le_mul_of_nonneg_right (Int.cast_le.mpr rounded) positive.le

theorem roundDouble_nonneg {value : ℚ} (nonneg : 0 ≤ value) : 0 ≤ roundDouble value := by
  have rounded := @le_roundDouble value 0 (by simpa using nonneg)
  simpa using rounded

/-- A power of two from the last place on is a multiple of the last place. -/
theorem exists_multiple {exponent place : Int} (le : place ≤ exponent) :
    ∃ count : Int, (2 : ℚ) ^ exponent = count * 2 ^ place := by
  obtain ⟨shift, rfl⟩ := Int.le.dest le
  refine ⟨2 ^ shift, ?_⟩
  rw [zpow_add₀ two_ne_zero, mul_comm, zpow_natCast]
  norm_cast

/-- Values with the same last place are rounded in their order, and between positive values with
different last places stands a power of two that neither of them passes. -/
theorem roundDouble_mono_pos {first second : ℚ} (positive : 0 < first) (le : first ≤ second) :
    roundDouble first ≤ roundDouble second := by
  have later := positive.trans_le le
  have logs : Int.log 2 first ≤ Int.log 2 second := Int.log_mono_right positive le
  have places : lastPlace first = max (Int.log 2 first - 52) (-1074) ∧
      lastPlace second = max (Int.log 2 second - 52) (-1074) := by
    rw [lastPlace, lastPlace, abs_of_pos positive, abs_of_pos later]
    exact ⟨rfl, rfl⟩
  rcases (show lastPlace first ≤ lastPlace second by omega).eq_or_lt with same | below
  · have place : (0 : ℚ) < 2 ^ lastPlace second := zpow_pos two_pos _
    rw [roundDouble, same, roundDouble]
    apply mul_le_mul_of_nonneg_right _ place.le
    exact Int.cast_le.mpr (roundEven_mono (div_le_div_of_nonneg_right le place.le))
  · obtain ⟨count, power⟩ := exists_multiple (show lastPlace first ≤ Int.log 2 second by omega)
    obtain ⟨count', power'⟩ := exists_multiple (show lastPlace second ≤ Int.log 2 second by omega)
    have above : first ≤ 2 ^ Int.log 2 second := by
      calc first ≤ 2 ^ (Int.log 2 first + 1) := by
            exact_mod_cast (Int.lt_zpow_succ_log_self one_lt_two first).le
        _ ≤ 2 ^ Int.log 2 second := zpow_le_zpow_right₀ one_le_two (by omega)
    have under : 2 ^ Int.log 2 second ≤ second := by
      exact_mod_cast Int.zpow_log_le_self one_lt_two later
    calc roundDouble first ≤ 2 ^ Int.log 2 second := power ▸ roundDouble_le (power ▸ above)
      _ ≤ roundDouble second := power' ▸ le_roundDouble (power' ▸ under)

/-- The last place of a value below a power of two. -/
theorem lastPlace_le {value : ℚ} {exponent : Int} (small : |value| < 2 ^ exponent)
    (positive : 0 < exponent) : lastPlace value ≤ exponent - 53 := by
  have bound : Int.log 2 |value| < exponent := by
    rcases (abs_nonneg value).eq_or_lt with zero | nonzero
    · rw [← zero, Int.log_zero_right]
      exact positive
    · exact (Int.lt_zpow_iff_log_lt one_lt_two nonzero).mp (by exact_mod_cast small)
  unfold lastPlace
  omega

/-- Rounding moves a value by half of its last place at most. -/
theorem roundDouble_near (value : ℚ) : |roundDouble value - value| ≤ 2 ^ lastPlace value / 2 := by
  have place : (0 : ℚ) < 2 ^ lastPlace value := zpow_pos two_pos _
  calc |roundDouble value - value|
      = |((roundEven (value / 2 ^ lastPlace value) : ℚ) - value / 2 ^ lastPlace value) *
          2 ^ lastPlace value| := by
        rw [roundDouble, sub_mul, div_mul_cancel₀ _ place.ne']
    _ = |(roundEven (value / 2 ^ lastPlace value) : ℚ) - value / 2 ^ lastPlace value| *
          2 ^ lastPlace value := by rw [abs_mul, abs_of_pos place]
    _ ≤ 1 / 2 * 2 ^ lastPlace value :=
        mul_le_mul_of_nonneg_right (roundEven_near _) place.le
    _ = 2 ^ lastPlace value / 2 := by ring

/-- Two values that round to the same double are at most a last place apart. -/
theorem roundDouble_apart {first second : ℚ} {place : Int} (left : lastPlace first ≤ place)
    (right : lastPlace second ≤ place) (same : roundDouble first = roundDouble second) :
    |first - second| ≤ 2 ^ place := by
  have near := abs_le.mp (roundDouble_near first)
  have near' := abs_le.mp (roundDouble_near second)
  have one : (2 : ℚ) ^ lastPlace first ≤ 2 ^ place := zpow_le_zpow_right₀ one_le_two left
  have two : (2 : ℚ) ^ lastPlace second ≤ 2 ^ place := zpow_le_zpow_right₀ one_le_two right
  rw [same] at near
  rw [abs_le]
  constructor <;> linarith

theorem roundDouble_mono : Monotone roundDouble := by
  intro first second le
  rcases lt_trichotomy 0 first with positive | rfl | negative
  · exact roundDouble_mono_pos positive le
  · rw [roundDouble_zero]
    exact roundDouble_nonneg le
  · rcases le_or_gt 0 second with nonneg | below
    · have rounded := roundDouble_nonneg (neg_pos.mpr negative).le
      rw [roundDouble_neg] at rounded
      exact (neg_nonneg.mp rounded).trans (roundDouble_nonneg nonneg)
    · have rounded := roundDouble_mono_pos (neg_pos.mpr below) (neg_le_neg le)
      rw [roundDouble_neg, roundDouble_neg] at rounded
      exact neg_le_neg_iff.mp rounded

end Chassis.Data
