import Mathlib.Algebra.Order.Field.Rat

namespace Chassis.Cooling

structure Limits where
  min : ℚ
  max : ℚ

/-- The configuration of a controller and what it keeps from its last call. -/
structure PidInfo where
  initialized : Bool
  ts : ℚ
  integral : ℚ
  lastOutput : ℚ
  lastError : ℚ
  proportionalCoeff : ℚ
  integralCoeff : ℚ
  derivativeCoeff : ℚ
  feedFwdOffset : ℚ
  feedFwdGain : ℚ
  integralLimit : Limits
  outLim : Limits
  slewNeg : ℚ
  slewPos : ℚ

/-- The members are initialised where they are declared. -/
def PidInfo.blank : PidInfo where
  initialized := false
  ts := 0
  integral := 0
  lastOutput := 0
  lastError := 0
  proportionalCoeff := 0
  integralCoeff := 0
  derivativeCoeff := 0
  feedFwdOffset := 0
  feedFwdGain := 0
  integralLimit := ⟨0, 0⟩
  outLim := ⟨0, 0⟩
  slewNeg := 0
  slewPos := 0

def clamp (x min max : ℚ) : ℚ :=
  if x < min then min
  else if x > max then max
  else x

/-- A slew rate of zero is off. -/
def PidInfo.slew (info : PidInfo) (output : ℚ) : ℚ :=
  let minOut := info.lastOutput + info.slewNeg * info.ts
  let maxOut := info.lastOutput + info.slewPos * info.ts
  let output := if info.slewNeg ≠ 0 ∧ output < minOut then minOut else output
  if info.slewPos ≠ 0 ∧ output > maxOut then maxOut else output

/-- The code assumes that the sample time is not zero. -/
def pid (info : PidInfo) (input setpoint : ℚ) : ℚ × PidInfo :=
  let error := setpoint - input
  let proportionalTerm := info.proportionalCoeff * error
  let integralTerm :=
    if 0 ≠ info.integralCoeff then
      clamp (info.integral + error * info.integralCoeff * info.ts) info.integralLimit.min
        info.integralLimit.max
    else 0
  let derivativeTerm := info.derivativeCoeff * ((error - info.lastError) / info.ts)
  let feedFwdTerm := (setpoint + info.feedFwdOffset) * info.feedFwdGain
  let unslewed := clamp (proportionalTerm + integralTerm + derivativeTerm + feedFwdTerm)
    info.outLim.min info.outLim.max
  let output := if info.initialized then info.slew unslewed else unslewed
  -- With a slew rate the integral term is calculated back from the limited output.
  let integralTerm :=
    if info.initialized ∧ (info.slewNeg ≠ 0 ∨ info.slewPos ≠ 0) then output - proportionalTerm
    else integralTerm
  (output, { info with
    integral := clamp integralTerm info.integralLimit.min info.integralLimit.max
    initialized := true
    lastError := error
    lastOutput := output })

end Chassis.Cooling
