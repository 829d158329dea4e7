import Chassis.Proof.Cooling.StartLimit
import Mathlib.Algebra.Order.Field.Basic
import Mathlib.Order.Bounds.Basic
import Mathlib.Tactic.Linarith

namespace Chassis.Cooling
open Effect Program Json Monitor Vita4611

/-- Within its range the curve stays in the range of a PWM where it gives a number. -/
structure CurveRange [Curve] : Prop where
  bounded : ∀ high setpoint tempMax value : ℚ, setpoint ≤ high → high ≤ tempMax →
    Curve.calcVal high setpoint tempMax = some value → 0 ≤ value ∧ value ≤ 255

namespace FanLoop

/-- A value in the range of a PWM converts to its integral part. -/
theorem toInt_inside {value : ℚ} (low : 0 ≤ value) (high : value ≤ 255) :
    toInt value = some value.floor := by
  have above : 0 ≤ value.floor := Rat.le_floor_iff.mpr low
  have below : value.floor < 256 := Rat.floor_lt_iff.mpr (by push_cast; linarith)
  rw [toInt, if_pos low, inRange, if_pos (by omega)]

/-- All fans get one PWM in the range, which is full speed just at the top of the range. -/
theorem linearPwm_inside {value : ℚ} (low : 0 ≤ value) (high : value ≤ 255) :
    ∃ pwm, (∀ fan, linearPwm (some value) fan = some pwm) ∧ 0 ≤ pwm ∧ pwm ≤ 255 ∧
      (pwm = 255 ↔ value = 255) := by
  have above : 0 ≤ value.floor := Rat.le_floor_iff.mpr low
  have below : value.floor < 256 := Rat.floor_lt_iff.mpr (by push_cast; linarith)
  have top : 255 ≤ value.floor ↔ value = 255 := by
    rw [Rat.le_floor_iff]
    exact ⟨fun least => le_antisymm high least, fun same => same.ge⟩
  refine ⟨if value.floor < 75 then 75 else value.floor, ?_, ?_, ?_, ?_⟩
  · intro fan
    rw [linearPwm, Option.bind_some, toInt_inside low high, Option.map_some]
  · split <;> omega
  · split <;> omega
  · rw [← top]
    split <;> omega

/-- A value of the curve, where it gives one, is in the range of a PWM, also where it is overridden,
and it is full speed just where the temperature reaches the setpoint and lies above the maximum, or
where the curve itself gives full speed. -/
theorem calcVal_full [Curve] (range : CurveRange) (loop : FanLoop) (high : ℚ) :
    (∀ value ∈ loop.calcVal high, 0 ≤ value ∧ value ≤ 255) ∧
      (loop.calcVal high = some 255 ↔ loop.setpoint ≤ high ∧ (loop.tempMax < high ∨
        high ≤ loop.tempMax ∧ Curve.calcVal high loop.setpoint loop.tempMax = some 255)) := by
  unfold calcVal
  dsimp only
  by_cases reached : loop.setpoint ≤ high
  case neg =>
    rw [if_pos (not_le.mp reached)]
    constructor
    · intro value zero
      cases zero
      norm_num
    · exact ⟨fun same => absurd (Option.some.inj same) (by norm_num),
        fun both => absurd both.1 reached⟩
  case pos =>
    rw [if_neg (not_lt.mpr reached)]
    by_cases above : loop.tempMax < high
    case pos =>
      rw [if_pos above]
      constructor
      · intro value full
        cases full
        norm_num
      · exact ⟨fun _ => ⟨reached, .inl above⟩, fun _ => rfl⟩
    case neg =>
      rw [if_neg above]
      have inside := not_lt.mp above
      constructor
      · exact fun value given => range.bounded _ _ _ value reached inside given
      · constructor
        · exact fun full => ⟨reached, .inr ⟨inside, full⟩⟩
        · rintro ⟨_, hot | ⟨_, full⟩⟩
          · exact absurd hot above
          · exact full

/-- A pass from a starting value ends with the highest of it and the values. -/
theorem foldl_high_greatest (high : ℚ) (temps : List TemperatureSensor) :
    IsGreatest {value | value ∈ high :: temps.map TemperatureSensor.value}
      (temps.foldl (fun high tempinst =>
        if tempinst.value > high then tempinst.value else high) high) := by
  induction temps generalizing high with
  | nil => simp
  | cons sensor rest ih =>
      rw [List.foldl_cons, List.map_cons]
      by_cases warmer : sensor.value > high
      · rw [if_pos warmer]
        obtain ⟨member, above⟩ := ih sensor.value
        refine ⟨List.mem_cons_of_mem _ member, ?_⟩
        rintro value (_ | ⟨_, listed⟩)
        · exact warmer.le.trans (above List.mem_cons_self)
        · exact above listed
      · rw [if_neg warmer]
        obtain ⟨member, above⟩ := ih high
        constructor
        · rcases List.mem_cons.mp member with same | later
          · exact List.mem_cons.mpr (.inl same)
          · exact List.mem_cons_of_mem _ (List.mem_cons_of_mem _ later)
        · rintro value (_ | ⟨_, _ | ⟨_, listed⟩⟩)
          · exact above List.mem_cons_self
          · exact (not_lt.mp warmer).trans (above List.mem_cons_self)
          · exact above (List.mem_cons_of_mem _ listed)

end FanLoop

/-- All fans are commanded to full speed just when that is their PWM and no fan before the last one
refuses. -/
theorem commanded_full_iff {accepts : String → Bool} {next : Fan → Option Int} {pwm : Int}
    (same : ∀ fan, next fan = some pwm) (low : 0 ≤ pwm) (high : pwm ≤ 255) (fans : List Fan) :
    commanded accepts next fans = fans.map (fun fan => (fan.path, 255)) ↔
      fans = [] ∨ pwm = 255 ∧ ∀ fan ∈ fans.dropLast, accepts fan.path = true := by
  have value : UInt64.ofInt pwm = 255 ↔ pwm = 255 := by
    have small : (UInt64.ofInt pwm).toNat = pwm.toNat := by
      rw [UInt64.ofInt, UInt64.toNat_ofNat']
      omega
    have full : (255 : UInt64).toNat = 255 := rfl
    rw [← UInt64.toNat_inj, small, full]
    omega
  induction fans with
  | nil => simp [commanded]
  | cons fan rest ih =>
      rw [commanded, same, List.map_cons, List.cons.injEq, Prod.mk.injEq, value]
      cases rest with
      | nil => simp [commanded]
      | cons other rest =>
          cases accepted : accepts fan.path with
          | false => simp [accepted]
          | true =>
              simp only [if_true, List.dropLast_cons_cons, List.forall_mem_cons, accepted, reduceCtorEq,
                false_or, true_and] at ih ⊢
              exact (and_congr_right fun _ => ih).trans and_self_left

/-- Without a PWM no fan is commanded. -/
theorem commanded_none {accepts : String → Bool} {next : Fan → Option Int}
    (none : ∀ fan, next fan = none) (fans : List Fan) : commanded accepts next fans = [] := by
  cases fans with
  | nil => rfl
  | cons fan rest => rw [commanded, none]

namespace Surroundings

/-- Some listed sensor reads above the upper limit that it has at the moment. -/
def Overheats (surroundings : Surroundings) (loop : FanLoop) : Prop :=
  ∃ sensor ∈ loop.temps, ∃ value limit,
    surroundings.property sensor.path valueInterface "Value" = some value ∧
      surroundings.property sensor.path thresholdInterface "CriticalHigh" = some limit ∧
      limit < value

/-- A turn commands full speed to every fan, in order. -/
def FullSpeed [Curve] (surroundings : Surroundings) (loop : FanLoop) : Prop :=
  targets (FanLoop.turn.run surroundings.environment loop 0).calls =
    loop.fans.map fun fan => (fan.path, 255)

/-- The highest of zero and the readings of the listed sensors reaches the setpoint, and it is above
a limit, or not above it where the curve to this limit gives full speed. -/
def SpeedsUp [Curve] (surroundings : Surroundings) (loop : FanLoop) (limit : ℚ) : Prop :=
  ∃ setpoint highest, surroundings.setpoint = some setpoint ∧
    IsGreatest {reading | reading ∈
      0 :: loop.temps.map fun sensor => surroundings.reading sensor.path} highest ∧
    setpoint ≤ highest ∧
    (limit < highest ∨ highest ≤ limit ∧ Curve.calcVal highest setpoint limit = some 255)

theorem sense_readings (surroundings : Surroundings) (temps : List TemperatureSensor) :
    (temps.map surroundings.sense).map TemperatureSensor.value =
      temps.map fun sensor => surroundings.reading sensor.path := by
  rw [List.map_map]
  rfl

/-- The readings call for full speed just when the curve gives it for the value that a pass over them
ends with. -/
theorem speedsUp_iff [Curve] (range : CurveRange) {surroundings : Surroundings} {setpoint : ℚ}
    (given : surroundings.setpoint = some setpoint) (loop : FanLoop) :
    surroundings.SpeedsUp loop loop.tempMax ↔
      FanLoop.calcVal { loop with setpoint := setpoint }
        (FanLoop.tempHigh (loop.temps.map surroundings.sense)) = some 255 := by
  have greatest := FanLoop.foldl_high_greatest 0 (loop.temps.map surroundings.sense)
  rw [sense_readings] at greatest
  rw [(FanLoop.calcVal_full range _ _).2]
  constructor
  · rintro ⟨other, highest, found, most, both⟩
    cases given.symm.trans found
    cases most.unique greatest
    exact both
  · intro both
    exact ⟨setpoint, _, given, greatest, both⟩

/-- The PWM of a value is commanded to all fans as full speed just when the curve gives it. -/
theorem commanded_linear_iff [Curve] (range : CurveRange) (accepts : String → Bool) (loop : FanLoop)
    (high : ℚ) (fans : List Fan) :
    commanded accepts (FanLoop.linearPwm (loop.calcVal high)) fans =
        fans.map (fun fan => (fan.path, 255)) ↔
      fans = [] ∨ loop.calcVal high = some 255 ∧
        ∀ fan ∈ fans.dropLast, accepts fan.path = true := by
  have bounds := (FanLoop.calcVal_full range loop high).1
  cases value : loop.calcVal high with
  | none =>
      have nothing : commanded accepts (FanLoop.linearPwm none) fans = [] :=
        commanded_none (fun _ => rfl) _
      rw [nothing, eq_comm, List.map_eq_nil_iff]
      exact (or_iff_left fun both => nomatch both.1).symm
  | some value' =>
      obtain ⟨low, top⟩ := bounds value' value
      obtain ⟨pwm, next, least, most, full⟩ := FanLoop.linearPwm_inside low top
      rw [Option.some.injEq, ← full]
      exact commanded_full_iff next least most fans

/-- A turn in linear mode commands full speed to every fan just when there is no fan, or when the
readings call for it by the limit of the controller and no fan before the last one refuses. -/
theorem fullSpeed_iff_speedsUp [Curve] (range : CurveRange) (surroundings : Surroundings)
    {loop : FanLoop} (linear : loop.linear = true) :
    surroundings.FullSpeed loop ↔ loop.fans = [] ∨ surroundings.SpeedsUp loop loop.tempMax ∧
      ∀ fan ∈ loop.fans.dropLast, surroundings.accepts fan.path = true := by
  rw [FullSpeed, FanLoop.targets_turn surroundings loop 0 linear]
  cases given : surroundings.setpoint with
  | none =>
      constructor
      · intro none
        exact .inl (List.map_eq_nil_iff.mp none.symm)
      · rintro (empty | ⟨⟨setpoint, _, found, _⟩, _⟩)
        · rw [empty]
          rfl
        · cases given.symm.trans found
  | some setpoint =>
      rw [speedsUp_iff range given]
      exact commanded_linear_iff range surroundings.accepts { loop with setpoint := setpoint }
        (FanLoop.tempHigh (loop.temps.map surroundings.sense)) loop.fans

end Surroundings

/-- In linear mode a controller that reaches some turn meets an overheated sensor with full speed at
every fan just when the readings call for it by the upper limit that the sensor listed first had at
the start, and no fan before the last one refuses. -/
theorem overheats_fullSpeed_iff [Curve] (range : CurveRange) (junk : FanLoop)
    (startup : Surroundings) (history : List Surroundings) (loop : FanLoop)
    (reached : FanLoop.after junk startup history = some loop) (linear : loop.linear = true)
    (now : Surroundings) :
    (now.Overheats loop → now.FullSpeed loop) ↔
      (now.Overheats loop → loop.fans = [] ∨
        now.SpeedsUp loop (FanLoop.startLimit junk startup) ∧
          ∀ fan ∈ loop.fans.dropLast, now.accepts fan.path = true) := by
  rw [now.fullSpeed_iff_speedsUp range linear, FanLoop.after_tempMax reached]

/-- The curve in exact numbers over a power. Two zeros have no quotient, and other quotients by zero
are overridden. -/
abbrev exactCurve [Libm] : Curve where
  calcVal tempHigh setpoint tempMax :=
    if tempMax = setpoint then none
    else some (Libm.pow ((tempHigh - setpoint) / (tempMax - setpoint)) (8 / 5) * 255)

/-- A straight line in the place of the power. -/
abbrev straightLibm : Libm := ⟨id, id, id, id, id, id, fun base _ => base⟩

abbrev straightCurve : Curve := @exactCurve straightLibm

theorem straightCurve_range : @CurveRange straightCurve := by
  refine @CurveRange.mk straightCurve ?_
  intro high setpoint tempMax value reached inside given
  change (if tempMax = setpoint then none
    else some ((high - setpoint) / (tempMax - setpoint) * 255)) = some value at given
  obtain ⟨apart, given⟩ := Option.ite_none_left_eq_some.mp given
  cases given
  have width : 0 < tempMax - setpoint :=
    sub_pos.mpr (lt_of_le_of_ne (reached.trans inside) (Ne.symm apart))
  have low : 0 ≤ (high - setpoint) / (tempMax - setpoint) :=
    div_nonneg (sub_nonneg.mpr reached) width.le
  have top : (high - setpoint) / (tempMax - setpoint) ≤ 1 :=
    (div_le_one width).mpr (sub_le_sub_right inside _)
  constructor <;> linarith

/-- The file that the firmware ships. -/
def shippedPid : Value ℚ :=
  let limits := fun (name : String) (low high : ℚ) =>
    (ascii name, Value.object [(ascii "min", .number low), (ascii "max", .number high)])
  .object [(ascii "ts", .number 1), (ascii "linear", .boolean true),
    (ascii "checkHysterWithSetpt", .boolean false), (ascii "proportionalCoeff", .number (1 / 2)),
    (ascii "integralCoeff", .number 0), (ascii "derivativeCoeff", .number (1 / 2)),
    (ascii "feedFwdOffset", .number 0), (ascii "feedFwdGain", .number 0),
    limits "integralLimit" 0 0, limits "outLim" (-100) 100, (ascii "slewNeg", .number 0),
    (ascii "slewPos", .number 0), (ascii "positiveHysteresis", .number 0),
    (ascii "negativeHysteresis", .number 0), (ascii "setpoint", .number 15)]

/-- One sensor reads fifteen degrees under some upper limit, and there is one fan. -/
def oneSensor (criticalHigh : ℚ) : Surroundings where
  paths path _ := some [path ++ "/0"]
  property _ _ property := some (if property = "Value" then 15 else criticalHigh)
  pid := .accepted shippedPid
  accepts _ := true

def blankLoop : FanLoop := ⟨false, 0, 0, 0, 0, [], [], .blank⟩

/-- The controller that started under a limit and has finished one turn. -/
def oneSensorLoop (criticalHigh : ℚ) : FanLoop :=
  (@FanLoop.after straightCurve blankLoop (oneSensor criticalHigh)
    [oneSensor criticalHigh]).getD blankLoop

theorem oneSensorLoop_reached {criticalHigh : ℚ}
    (some : (@FanLoop.after straightCurve blankLoop (oneSensor criticalHigh)
      [oneSensor criticalHigh]).isSome = true) :
    @FanLoop.after straightCurve blankLoop (oneSensor criticalHigh) [oneSensor criticalHigh] =
      .some (oneSensorLoop criticalHigh) := by
  obtain ⟨loop, found⟩ := Option.isSome_iff_exists.mp some
  rw [oneSensorLoop, found]
  rfl

theorem overheats_fullSpeed_oneSensor :
    ((oneSensor 10).Overheats (oneSensorLoop 10) →
        @Surroundings.FullSpeed straightCurve (oneSensor 10) (oneSensorLoop 10)) ↔
      ((oneSensor 10).Overheats (oneSensorLoop 10) → (oneSensorLoop 10).fans = [] ∨
        @Surroundings.SpeedsUp straightCurve (oneSensor 10) (oneSensorLoop 10)
            (FanLoop.startLimit blankLoop (oneSensor 10)) ∧
          ∀ fan ∈ (oneSensorLoop 10).fans.dropLast, (oneSensor 10).accepts fan.path = true) :=
  @overheats_fullSpeed_iff straightCurve straightCurve_range blankLoop (oneSensor 10)
    [oneSensor 10] (oneSensorLoop 10) (oneSensorLoop_reached (by decide +kernel))
    (by decide +kernel) (oneSensor 10)

/-- A limit that is lowered to ten degrees after the start does not reach the controller. -/
theorem overheats_notFullSpeed :
    ¬ ∀ (junk : FanLoop) (startup : Surroundings) (history : List Surroundings) (loop : FanLoop),
      @FanLoop.after straightCurve junk startup history = some loop → loop.linear = true →
      ∀ now : Surroundings, now.Overheats loop → @Surroundings.FullSpeed straightCurve now loop := by
  intro claim
  have hot : (oneSensor 10).Overheats (oneSensorLoop 80) := by
    have listed : (oneSensorLoop 80).temps.map TemperatureSensor.path = [tempStub ++ "/0"] := by
      decide +kernel
    have present : tempStub ++ "/0" ∈ (oneSensorLoop 80).temps.map TemperatureSensor.path := by
      rw [listed]
      exact List.mem_singleton_self _
    obtain ⟨sensor, member, _⟩ := List.mem_map.mp present
    exact ⟨sensor, member, 15, 10, rfl, rfl, by norm_num⟩
  have full := claim blankLoop (oneSensor 80) [oneSensor 80] (oneSensorLoop 80)
    (oneSensorLoop_reached (by decide +kernel)) (by decide +kernel) (oneSensor 10) hot
  unfold Surroundings.FullSpeed at full
  have slow : ¬ targets ((@FanLoop.turn straightCurve).run (oneSensor 10).environment
      (oneSensorLoop 80) 0).calls = (oneSensorLoop 80).fans.map fun fan => (fan.path, 255) := by
    decide +kernel
  exact slow full

end Chassis.Cooling
