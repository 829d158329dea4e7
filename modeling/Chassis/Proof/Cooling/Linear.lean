import Chassis.Proof.Cooling.FullSpeed

namespace Chassis.Cooling
open Effect Program Json Monitor Vita4611

/-- The power maps the unit interval to itself in order and keeps its upper end. -/
structure CurveLaw [Libm] : Prop where
  nonneg : ∀ x : ℚ, 0 ≤ x → x ≤ 1 → 0 ≤ Libm.pow x (8 / 5)
  bounded : ∀ x : ℚ, 0 ≤ x → x ≤ 1 → Libm.pow x (8 / 5) ≤ 1
  monotone : ∀ x y : ℚ, 0 ≤ x → x ≤ y → y ≤ 1 → Libm.pow x (8 / 5) ≤ Libm.pow y (8 / 5)
  one : Libm.pow 1 (8 / 5) = 1

namespace FanLoop

section Exact

variable {loop : FanLoop} {high higher : ℚ}

/-- Inside the range the temperature is a share of the way from the setpoint to the maximum. -/
theorem share_inside (below : loop.setpoint < loop.tempMax) (reached : loop.setpoint ≤ high)
    (inside : high ≤ loop.tempMax) :
    0 ≤ (high - loop.setpoint) / (loop.tempMax - loop.setpoint) ∧
      (high - loop.setpoint) / (loop.tempMax - loop.setpoint) ≤ 1 := by
  have width : 0 < loop.tempMax - loop.setpoint := sub_pos.mpr below
  constructor
  · exact div_nonneg (sub_nonneg.mpr reached) width.le
  · exact (div_le_one width).mpr (sub_le_sub_right inside _)

variable [Libm]

/-- The value that the exact curve gives where the setpoint is under the maximum. -/
def exactVal (loop : FanLoop) (tempHigh : ℚ) : ℚ :=
  if tempHigh < loop.setpoint then 0
  else if tempHigh > loop.tempMax then 255
  else Libm.pow ((tempHigh - loop.setpoint) / (loop.tempMax - loop.setpoint)) (8 / 5) * 255

theorem calcVal_exact (below : loop.setpoint < loop.tempMax) (high : ℚ) :
    @calcVal exactCurve loop high = some (loop.exactVal high) := by
  unfold calcVal exactVal
  dsimp only
  split_ifs
  · rfl
  · rfl
  · exact if_neg below.ne'

/-- The curve stays in the range of a PWM, also where it is overridden. -/
theorem exactVal_range (curve : CurveLaw) (below : loop.setpoint < loop.tempMax) (high : ℚ) :
    0 ≤ loop.exactVal high ∧ loop.exactVal high ≤ 255 := by
  simp only [exactVal]
  split_ifs with cold hot
  · norm_num
  · norm_num
  · obtain ⟨low, top⟩ := share_inside below (not_lt.mp cold) (not_lt.mp hot)
    have least := curve.nonneg _ low top
    have most := curve.bounded _ low top
    constructor
    · linarith
    · linarith

/-- A temperature at the maximum or above it calls for full speed. -/
theorem exactVal_hot (curve : CurveLaw) (below : loop.setpoint < loop.tempMax)
    (hot : loop.tempMax ≤ high) : loop.exactVal high = 255 := by
  have width : loop.tempMax - loop.setpoint ≠ 0 := (sub_pos.mpr below).ne'
  rw [exactVal, if_neg (not_lt.mpr (below.le.trans hot))]
  split_ifs with above
  · rfl
  · rw [le_antisymm (not_lt.mp above) hot, div_self width, curve.one, one_mul]

/-- The curve never falls, also across the two ends where it is overridden. -/
theorem exactVal_monotone (curve : CurveLaw) (below : loop.setpoint < loop.tempMax)
    (raised : high ≤ higher) : loop.exactVal high ≤ loop.exactVal higher := by
  by_cases cold : high < loop.setpoint
  case pos =>
    rw [exactVal, if_pos cold]
    exact (exactVal_range curve below higher).1
  case neg =>
    have reached := not_lt.mp cold
    rcases le_or_gt loop.tempMax higher with hot | warm
    · rw [exactVal_hot curve below hot]
      exact (exactVal_range curve below high).2
    · have width : 0 < loop.tempMax - loop.setpoint := sub_pos.mpr below
      have share := (share_inside below reached (raised.trans warm.le)).1
      have top := (share_inside below (reached.trans raised) warm.le).2
      have steps := div_le_div_of_nonneg_right (sub_le_sub_right raised loop.setpoint) width.le
      have bent := curve.monotone _ _ share steps top
      rw [exactVal, if_neg cold, if_neg (not_lt.mpr (raised.trans warm.le)), exactVal,
        if_neg (not_lt.mpr (reached.trans raised)), if_neg (not_lt.mpr warm.le)]
      linarith

end Exact

/-- The PWM that a value of the curve gives to every fan. -/
def pwmOf (value : ℚ) : Int := max 75 value.floor

theorem linearPwm_eq {value : ℚ} (low : 0 ≤ value) (high : value ≤ 255) (fan : Fan) :
    linearPwm (some value) fan = some (pwmOf value) := by
  rw [linearPwm, Option.bind_some, toInt_inside low high, Option.map_some, pwmOf]
  congr 1
  split <;> omega

theorem pwmOf_range {value : ℚ} (high : value ≤ 255) : 75 ≤ pwmOf value ∧ pwmOf value ≤ 255 := by
  have below : value.floor < 256 := Rat.floor_lt_iff.mpr (by push_cast; linarith)
  rw [pwmOf]
  omega

theorem pwmOf_monotone {first second : ℚ} (raised : first ≤ second) :
    pwmOf first ≤ pwmOf second := by
  have floors := Rat.floor_monotone raised
  rw [pwmOf, pwmOf]
  omega

/-- Raising readings never lowers the highest of them. -/
theorem tempHigh_monotone {temps : List TemperatureSensor}
    {first second : TemperatureSensor → TemperatureSensor}
    (raised : ∀ sensor ∈ temps, (first sensor).value ≤ (second sensor).value) :
    tempHigh (temps.map first) ≤ tempHigh (temps.map second) := by
  have highest := foldl_high_greatest 0 (temps.map first)
  have bound := (foldl_high_greatest 0 (temps.map second)).2
  rcases List.mem_cons.mp highest.1 with zero | listed
  · exact zero.le.trans (bound List.mem_cons_self)
  · obtain ⟨_, reading, same⟩ := List.mem_map.mp listed
    obtain ⟨sensor, member, rfl⟩ := List.mem_map.mp reading
    have above := bound (List.mem_cons_of_mem _
      (List.mem_map_of_mem (List.mem_map_of_mem member)))
    exact same.ge.trans ((raised sensor member).trans above)

end FanLoop

/-- With one PWM for all fans, the commands agree on it, and no fan is left out unless a fan before
it refuses. -/
theorem commanded_same (accepts : String → Bool) (pwm : Int) (fans : List Fan) :
    (∀ entry ∈ commanded accepts (fun _ => some pwm) fans, entry.2 = UInt64.ofInt pwm) ∧
      ((∀ fan ∈ fans.dropLast, accepts fan.path = true) →
        (commanded accepts (fun _ => some pwm) fans).map Prod.fst = fans.map Fan.path) := by
  induction fans with
  | nil => simp [commanded]
  | cons fan rest ih =>
      cases accepted : accepts fan.path with
      | true =>
          simp only [commanded, accepted, if_true, List.forall_mem_cons, List.map_cons, true_and]
          refine ⟨ih.1, fun granted => congrArg _ (ih.2 fun other member => granted other ?_)⟩
          cases rest with
          | nil => cases member
          | cons next rest => exact List.mem_cons_of_mem _ member
      | false =>
          simp only [commanded, accepted, Bool.false_eq_true, if_false, List.forall_mem_singleton,
            List.map_cons, List.map_nil, true_and]
          intro granted
          cases rest with
          | nil => rfl
          | cons next rest =>
              exact absurd (granted fan List.mem_cons_self) (by rw [accepted]; decide)

/-- A turn with the exact curve commands one PWM to every fan, as far as no fan refuses. -/
structure Surroundings.Commands [Libm] (surroundings : Surroundings) (loop : FanLoop) (pwm : Int) :
    Prop where
  same : ∀ entry ∈
      targets ((@FanLoop.turn exactCurve).run surroundings.environment loop 0).calls,
    entry.2 = UInt64.ofInt pwm
  every : (∀ fan ∈ loop.fans.dropLast, surroundings.accepts fan.path = true) →
    (targets ((@FanLoop.turn exactCurve).run surroundings.environment loop 0).calls).map
      Prod.fst = loop.fans.map Fan.path

section Linear

variable [Libm]

/-- A turn in linear mode commands the PWM that the curve gives to the highest reading. -/
theorem turn_commands (curve : CurveLaw) {loop : FanLoop} (linear : loop.linear = true)
    {setpoint : ℚ} (below : setpoint < loop.tempMax) {surroundings : Surroundings}
    (given : surroundings.setpoint = some setpoint) :
    surroundings.Commands loop (FanLoop.pwmOf (FanLoop.exactVal { loop with setpoint := setpoint }
      (FanLoop.tempHigh (loop.temps.map surroundings.sense)))) := by
  let curved : FanLoop := { loop with setpoint := setpoint }
  let high := FanLoop.tempHigh (loop.temps.map surroundings.sense)
  have range := @FanLoop.exactVal_range curved _ curve below high
  have next := funext (FanLoop.linearPwm_eq range.1 range.2)
  have all := commanded_same surroundings.accepts (FanLoop.pwmOf (curved.exactVal high)) loop.fans
  have ran := @FanLoop.targets_turn surroundings loop 0 exactCurve linear
  rw [given] at ran
  have value := @FanLoop.calcVal_exact curved _ below high
  dsimp only [curved, high] at value next all
  simp only [value, next] at ran
  rw [← ran] at all
  exact ⟨all.1, all.2⟩

/-- With the setpoint under the maximum, a turn in linear mode commands one PWM from 75 to 255 to
every fan, full speed when a reading is at the maximum or above it, and at least the same PWM when
readings are raised. -/
theorem linear_law (curve : CurveLaw) (loop : FanLoop) (linear : loop.linear = true) (setpoint : ℚ)
    (below : setpoint < loop.tempMax) (surroundings : Surroundings)
    (given : surroundings.setpoint = some setpoint) :
    ∃ pwm : Int, surroundings.Commands loop pwm ∧ 75 ≤ pwm ∧ pwm ≤ 255 ∧
      ((∃ sensor ∈ loop.temps, loop.tempMax ≤ surroundings.reading sensor.path) → pwm = 255) ∧
      ∀ raised : Surroundings, raised.setpoint = some setpoint →
        (∀ sensor ∈ loop.temps,
          surroundings.reading sensor.path ≤ raised.reading sensor.path) →
        ∃ pwm' : Int, raised.Commands loop pwm' ∧ pwm ≤ pwm' := by
  let curved : FanLoop := { loop with setpoint := setpoint }
  let high := FanLoop.tempHigh (loop.temps.map surroundings.sense)
  have range := @FanLoop.exactVal_range curved _ curve below high
  have bounds := FanLoop.pwmOf_range range.2
  refine ⟨FanLoop.pwmOf (curved.exactVal high), turn_commands curve linear below given, bounds.1,
    bounds.2, ?_, ?_⟩
  · rintro ⟨sensor, member, hot⟩
    have listed : surroundings.reading sensor.path ∈
        0 :: (loop.temps.map surroundings.sense).map TemperatureSensor.value :=
      List.mem_cons_of_mem _ (List.mem_map_of_mem (List.mem_map_of_mem member))
    have most : surroundings.reading sensor.path ≤ high :=
      (FanLoop.foldl_high_greatest 0 _).2 listed
    rw [@FanLoop.exactVal_hot curved high _ curve below (hot.trans most)]
    decide
  · intro raised still higher
    refine ⟨_, turn_commands curve linear below still, FanLoop.pwmOf_monotone ?_⟩
    exact FanLoop.exactVal_monotone curve below (FanLoop.tempHigh_monotone higher)

end Linear

theorem straightLibm_curveLaw : @CurveLaw straightLibm :=
  @CurveLaw.mk straightLibm (fun _ low _ => low) (fun _ _ high => high)
    (fun _ _ _ raised _ => raised) rfl

/-- The setpoint of the shipped file and a maximum of 80 degrees. -/
theorem linear_law_shipped : ∃ pwm : Int,
    @Surroundings.Commands straightLibm (oneSensor 80) (oneSensorLoop 80) pwm ∧ 75 ≤ pwm ∧
      pwm ≤ 255 ∧
      ((∃ sensor ∈ (oneSensorLoop 80).temps,
        (oneSensorLoop 80).tempMax ≤ (oneSensor 80).reading sensor.path) → pwm = 255) ∧
      ∀ raised : Surroundings, raised.setpoint = some 15 →
        (∀ sensor ∈ (oneSensorLoop 80).temps,
          (oneSensor 80).reading sensor.path ≤ raised.reading sensor.path) →
        ∃ pwm' : Int, @Surroundings.Commands straightLibm raised (oneSensorLoop 80) pwm' ∧
          pwm ≤ pwm' :=
  @linear_law straightLibm straightLibm_curveLaw (oneSensorLoop 80) (by decide +kernel) 15
    (by decide +kernel) (oneSensor 80) (by decide +kernel)

end Chassis.Cooling
