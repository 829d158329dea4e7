import Chassis.Construction.Cooling.Pid
import Mathlib.Algebra.Order.Field.Basic
import Mathlib.Tactic.Linarith

namespace Chassis.Cooling

def Limits.Within (limits : Limits) (value : ℚ) : Prop := limits.min ≤ value ∧ value ≤ limits.max

/-- A clamp on ordered limits leaves a value within them. -/
theorem clamp_within {limits : Limits} (ordered : limits.min ≤ limits.max) (value : ℚ) :
    limits.Within (clamp value limits.min limits.max) := by
  unfold clamp
  split_ifs with low high
  · exact ⟨le_rfl, ordered⟩
  · exact ⟨ordered, le_rfl⟩
  · exact ⟨not_lt.mp low, not_lt.mp high⟩

namespace PidInfo

/-- The output may be zero, the limits of the integral are ordered, and each slew rate limits the
change in its own direction. -/
structure Configured (info : PidInfo) : Prop where
  sampled : 0 < info.ts
  low : info.outLim.min ≤ 0
  high : 0 ≤ info.outLim.max
  ordered : info.integralLimit.min ≤ info.integralLimit.max
  falling : info.slewNeg ≤ 0
  rising : 0 ≤ info.slewPos

/-- An output differs from the last one by no more than the slew rates that are on allow. -/
structure Slewed (info : PidInfo) (last output : ℚ) : Prop where
  falls : info.slewNeg ≠ 0 → info.slewNeg * info.ts ≤ output - last
  rises : info.slewPos ≠ 0 → output - last ≤ info.slewPos * info.ts

/-- What is left of a controller when it forgets its last call. -/
def settings (info : PidInfo) : PidInfo :=
  { info with initialized := false, integral := 0, lastOutput := 0, lastError := 0 }

theorem configured_settings (info : PidInfo) : info.settings.Configured ↔ info.Configured :=
  ⟨fun ⟨sampled, low, high, ordered, falling, rising⟩ =>
      ⟨sampled, low, high, ordered, falling, rising⟩,
    fun ⟨sampled, low, high, ordered, falling, rising⟩ =>
      ⟨sampled, low, high, ordered, falling, rising⟩⟩

variable {info other : PidInfo}

section Same

variable (same : other.settings = info.settings)
include same

theorem same_outLim : other.outLim = info.outLim := by
  have equal : other.settings.outLim = info.settings.outLim := congrArg outLim same
  exact equal

theorem same_integralLimit : other.integralLimit = info.integralLimit := by
  have equal : other.settings.integralLimit = info.settings.integralLimit :=
    congrArg integralLimit same
  exact equal

theorem Configured.transfer (configured : info.Configured) : other.Configured := by
  rw [← configured_settings, same]
  exact (configured_settings info).mpr configured

theorem Slewed.transfer {last output : ℚ} (slewed : other.Slewed last output) :
    info.Slewed last output := by
  have falling : other.settings.slewNeg = info.settings.slewNeg := congrArg slewNeg same
  have rising : other.settings.slewPos = info.settings.slewPos := congrArg slewPos same
  have sampled : other.settings.ts = info.settings.ts := congrArg ts same
  simp only [settings] at falling rising sampled
  constructor
  · rw [← falling, ← sampled]
    exact slewed.falls
  · rw [← rising, ← sampled]
    exact slewed.rises

end Same

section Slew

variable {output : ℚ} (configured : info.Configured)
include configured

/-- The slew rates never call for an output on the other side of the last one. -/
theorem slew_bounds :
    info.lastOutput + info.slewNeg * info.ts ≤ info.lastOutput ∧
      info.lastOutput ≤ info.lastOutput + info.slewPos * info.ts := by
  have fall := mul_nonpos_of_nonpos_of_nonneg configured.falling configured.sampled.le
  have rise := mul_nonneg configured.rising configured.sampled.le
  constructor
  · linarith
  · linarith

/-- Between two outputs within the limits the slew rates stay within them. -/
theorem slew_within (last : info.outLim.Within info.lastOutput)
    (within : info.outLim.Within output) : info.outLim.Within (info.slew output) := by
  obtain ⟨fall, rise⟩ := slew_bounds configured
  obtain ⟨lastLow, lastHigh⟩ := last
  obtain ⟨low, high⟩ := within
  simp only [slew]
  split_ifs
  all_goals
    constructor
    · linarith
    · linarith

/-- The second slew rate does not undo the first one. -/
theorem slew_slewed : info.Slewed info.lastOutput (info.slew output) := by
  obtain ⟨fall, rise⟩ := slew_bounds configured
  constructor
  · intro on
    simp only [slew]
    split_ifs
    all_goals grind
  · intro on
    simp only [slew]
    split_ifs
    all_goals grind

end Slew

section Call

variable (input setpoint : ℚ)

theorem pid_settings : (pid info input setpoint).2.settings = info.settings := rfl

theorem pid_lastOutput : (pid info input setpoint).2.lastOutput = (pid info input setpoint).1 := rfl

theorem pid_initialized : (pid info input setpoint).2.initialized = true := rfl

variable (configured : info.Configured)
include configured

/-- The stored integral is within its limits, whatever the output was calculated back to. -/
theorem pid_integral : info.integralLimit.Within (pid info input setpoint).2.integral :=
  clamp_within configured.ordered _

/-- When the last output was within the limits, the next one is. -/
theorem pid_within (last : info.outLim.Within info.lastOutput) :
    info.outLim.Within (pid info input setpoint).1 := by
  have clamped := fun value => clamp_within (configured.low.trans configured.high) value
  simp only [pid]
  split
  next => exact slew_within configured last (clamped _)
  next => exact clamped _

/-- After the first call every output is slewed. -/
theorem pid_slewed (initialized : info.initialized = true) :
    info.Slewed info.lastOutput (pid info input setpoint).1 := by
  simp only [pid, initialized, if_true]
  exact slew_slewed configured

end Call

end PidInfo

end Chassis.Cooling
