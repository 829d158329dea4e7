import Chassis.Proof.Bridge.Receive

namespace Chassis.Ipmb

/-- The bytes behind the header that the narrowed length leaves out of the second checksum. -/
def wrappedTail (received : List UInt8) : List UInt8 := received.drop (received.length - 256)

/-- The bytes behind the header that the narrowed length still covers. -/
def narrowedBody (received : List UInt8) : List UInt8 :=
  (received.drop ipmbConnectionHeaderLength).take (received.length - 259)

/-- The narrowed length does not change the verdict on a frame: it wraps around only from 259 bytes on,
and then the bytes that it leaves out sum to zero, or both sums over the body reject the frame, or
the header does. -/
def NarrowingHarmless (received : List UInt8) : Prop :=
  received.length ≤ 258 ∨ (received.take ipmbConnectionHeaderLength).sum ≠ 0 ∨
    (wrappedTail received).sum = 0 ∨
    (narrowedBody received).sum ≠ 0 ∧ (received.drop ipmbConnectionHeaderLength).sum ≠ 0

section Narrowing

variable {received : List UInt8}

/-- The second checksum covers the length without the header modulo 256. -/
theorem narrowed_length {length : Nat} (long : ipmbConnectionHeaderLength ≤ length) :
    (UInt8.ofNat length - UInt8.ofNat ipmbConnectionHeaderLength).toNat =
      (length - ipmbConnectionHeaderLength) % 256 := by
  rw [← UInt8.ofNat_sub long]
  exact UInt8.toNat_ofNat'

/-- The bytes behind a received frame enter neither checksum. -/
theorem isFrameValid_received (long : ipmbMinFrameLength ≤ received.length)
    (padding : List UInt8) :
    isFrameValid (received ++ padding) (UInt8.ofNat received.length) = true ↔
      (received.take ipmbConnectionHeaderLength).sum = 0 ∧
        ((received.drop ipmbConnectionHeaderLength).take
          ((received.length - ipmbConnectionHeaderLength) % 256)).sum = 0 := by
  have header : ipmbConnectionHeaderLength ≤ received.length :=
    Nat.le_trans (by decide) long
  have covered : (received.length - ipmbConnectionHeaderLength) % 256 ≤
      (received.drop ipmbConnectionHeaderLength).length := by
    rw [List.length_drop]
    exact Nat.mod_le _ _
  rw [isFrameValid_iff, narrowed_length header, List.take_append_of_le_length header,
    List.drop_append_of_le_length header, List.take_append_of_le_length covered]

/-- Up to 258 bytes the second checksum covers the whole body. -/
theorem isFrameValid_short (long : ipmbMinFrameLength ≤ received.length)
    (short : received.length ≤ 258) (padding : List UInt8) :
    isFrameValid (received ++ padding) (UInt8.ofNat received.length) = true ↔
      ChecksumsValid received := by
  have header : ipmbConnectionHeaderLength = 3 := rfl
  have whole : (received.length - ipmbConnectionHeaderLength) % 256 =
      (received.drop ipmbConnectionHeaderLength).length := by
    rw [List.length_drop]
    omega
  rw [isFrameValid_received long, whole, List.take_length]
  rfl

/-- From 259 bytes on it covers at most five bytes. -/
theorem isFrameValid_wrapped (wrapped : 259 ≤ received.length)
    (bounded : received.length < ipmbMaxFrameLength) (padding : List UInt8) :
    isFrameValid (received ++ padding) (UInt8.ofNat received.length) = true ↔
      (received.take ipmbConnectionHeaderLength).sum = 0 ∧ (narrowedBody received).sum = 0 := by
  have header : ipmbConnectionHeaderLength = 3 := rfl
  have least : ipmbMinFrameLength = 7 := rfl
  have most : ipmbMaxFrameLength = 265 := rfl
  have rest : (received.length - ipmbConnectionHeaderLength) % 256 = received.length - 259 := by
    omega
  rw [isFrameValid_received (by omega), rest]
  rfl

/-- The body consists of the bytes that are still covered and the 256 bytes that are not. -/
theorem sum_body (wrapped : 259 ≤ received.length) :
    (received.drop ipmbConnectionHeaderLength).sum =
      (narrowedBody received).sum + (wrappedTail received).sum := by
  have parts := List.sum_take_add_sum_drop (received.drop ipmbConnectionHeaderLength)
    (received.length - 259)
  have start : ipmbConnectionHeaderLength + (received.length - 259) = received.length - 256 := by
    have header : ipmbConnectionHeaderLength = 3 := rfl
    omega
  rw [List.drop_drop, start] at parts
  exact parts.symm

end Narrowing

/-- A received frame that passes the length test is accepted exactly when both of its checksums are
right, unless its length has more than eight bits and the lost bytes decide. -/
theorem acceptance_iff {received : List UInt8} (long : ipmbMinFrameLength ≤ received.length)
    (bounded : received.length < ipmbMaxFrameLength) (padding : List UInt8) :
    (isFrameValid (received ++ padding) (UInt8.ofNat received.length) = true ↔
      ChecksumsValid received) ↔ NarrowingHarmless received := by
  unfold NarrowingHarmless
  by_cases short : received.length ≤ 258
  · simp only [short, true_or, iff_true]
    exact isFrameValid_short long short padding
  · have wrapped : 259 ≤ received.length := by omega
    rw [isFrameValid_wrapped wrapped bounded, ChecksumsValid, sum_body wrapped]
    simp only [short, false_or]
    by_cases header : (received.take ipmbConnectionHeaderLength).sum = 0
    · by_cases covered : (narrowedBody received).sum = 0
      · simp [header, covered]
      · have loses (tail : (wrappedTail received).sum = 0) :
            ¬(narrowedBody received).sum + (wrappedTail received).sum = 0 := by
          rw [tail, add_zero]
          exact covered
        simp only [header, covered, true_and, false_iff, not_false_eq_true, ne_eq, not_true_eq_false,
          false_or]
        exact ⟨.inr, fun kept => kept.elim loses id⟩
    · simp [header]

/-- A frame of 260 bytes with two correct checksums. -/
def longFrame : List UInt8 := [0x20, 0x1c, 0xc4, 0x01, 0xff] ++ List.replicate 255 0

/-- The test of this frame covers one byte of its body, so the frame is dropped. -/
theorem acceptance_fails : ¬∀ received : List UInt8, ipmbMinFrameLength ≤ received.length →
    received.length < ipmbMaxFrameLength → ∀ padding : List UInt8,
      (isFrameValid (received ++ padding) (UInt8.ofNat received.length) = true ↔
        ChecksumsValid received) := by
  intro always
  have valid : ChecksumsValid longFrame := by
    constructor
    · decide
    · decide +kernel
  have accepted := (always longFrame (by decide +kernel) (by decide +kernel) []).mpr valid
  exact absurd accepted (by decide +kernel)

theorem acceptance_iff_longFrame :
    (isFrameValid (longFrame ++ []) (UInt8.ofNat longFrame.length) = true ↔
      ChecksumsValid longFrame) ↔ NarrowingHarmless longFrame :=
  acceptance_iff (by decide +kernel) (by decide +kernel) []

end Chassis.Ipmb
