import Chassis.Effect.Keeps
import Chassis.Proof.Cooling.Turn

namespace Chassis.Cooling
open Effect Program Json Monitor Vita4611

namespace FanLoop

variable {allowed : FanLoop → Op → Prop} {invariant : FanLoop → Prop} {admitted : Fault → Prop}

/-- Every call that commands no fan is allowed. -/
abbrev AllowsReads (allowed : FanLoop → Op → Prop) (invariant : FanLoop → Prop) : Prop :=
  ∀ loop op, invariant loop → target op = none → allowed loop op

section Reads

variable (reads : AllowsReads allowed invariant)
include reads

theorem getSubTreePaths_keeps (path interface : String) :
    Keeps allowed invariant admitted (getSubTreePaths path interface) := by
  refine keeps_bind (keeps_ask fun loop kept => reads loop _ kept rfl) fun paths => ?_
  cases paths with
  | none => exact keeps_throw _
  | some paths => exact keeps_pure _

theorem getProperty_keeps (path interface property : String) :
    Keeps allowed invariant admitted (getProperty path interface property) := by
  refine keeps_bind (keeps_ask fun loop kept => reads loop _ kept rfl) fun value => ?_
  cases value with
  | none => exact keeps_throw _
  | some value => exact keeps_pure _

theorem readJson_keeps (path : String) : Keeps allowed invariant admitted (readJson path) := by
  refine keeps_bind (keeps_ask fun loop kept => reads loop _ kept rfl) fun parsed => ?_
  cases parsed with
  | accepted data => exact keeps_pure _
  | rejected data => exact keeps_pure _
  | outOfRange => exact keeps_throw _

end Reads

theorem readNumber_keeps (data : Value ℚ) (keys : List String) :
    Keeps allowed invariant admitted (readNumber data keys) := by
  unfold readNumber
  cases numberAt data keys with
  | none => exact keeps_throw _
  | some number => exact keeps_pure _

theorem readBool_keeps (data : Value ℚ) (key : String) :
    Keeps allowed invariant admitted (readBool data key) := by
  unfold readBool
  split
  next => exact keeps_pure _
  next => exact keeps_throw _

/-- What the construction leaves alone before it reads the limits. -/
structure Unread (loop next : FanLoop) : Prop where
  tempMax : next.tempMax = loop.tempMax
  integral : next.controller.integral = loop.controller.integral
  lastOutput : next.controller.lastOutput = loop.controller.lastOutput
  pwms : ∀ fan ∈ next.fans, fan ∈ loop.fans ∨ fan.pwm = 0

section Construction

variable (reads : AllowsReads allowed invariant)
  (kept : ∀ loop next, Unread loop next → invariant loop → invariant next)
include reads kept

omit reads in
theorem store_keeps {update : FanLoop → FanLoop} (unread : ∀ loop, Unread loop (update loop)) :
    Keeps allowed invariant admitted (modify update : Program interface FanLoop Unit) :=
  keeps_modify fun loop => kept loop _ (unread loop)

theorem initializeTemps_keeps : Keeps allowed invariant admitted initializeTemps :=
  keeps_bind (getSubTreePaths_keeps reads _ _) fun _ =>
    store_keeps kept fun _ => ⟨rfl, rfl, rfl, fun _ => .inl⟩

omit reads in
/-- A number that is stored changes neither the integral nor the last output. -/
theorem loadNumber_keeps (data : Value ℚ) (keys : List String) {store : ℚ → PidInfo → PidInfo}
    (integral : ∀ number info, (store number info).integral = info.integral)
    (lastOutput : ∀ number info, (store number info).lastOutput = info.lastOutput) :
    Keeps allowed invariant admitted (loadNumber data keys store) :=
  keeps_bind (readNumber_keeps data keys) fun number => store_keeps kept fun loop =>
    ⟨rfl, integral number loop.controller, lastOutput number loop.controller, fun _ => .inl⟩

theorem loadController_keeps : Keeps allowed invariant admitted loadController := by
  refine keeps_bind (readJson_keeps reads _) fun data => ?_
  refine keeps_bind (readBool_keeps _ _) fun linear => ?_
  refine keeps_bind (store_keeps kept fun _ => ⟨rfl, rfl, rfl, fun _ => .inl⟩) fun _ => ?_
  refine keeps_bind (readNumber_keeps _ _) fun setpoint => ?_
  refine keeps_bind (store_keeps kept fun _ => ⟨rfl, rfl, rfl, fun _ => .inl⟩) fun _ => ?_
  refine keeps_bind (readNumber_keeps _ _) fun ts => ?_
  refine keeps_bind (store_keeps kept fun _ => ⟨rfl, rfl, rfl, fun _ => .inl⟩) fun _ => ?_
  iterate 10
    refine keeps_bind (loadNumber_keeps kept _ _ (fun _ _ => rfl) fun _ _ => rfl) fun _ => ?_
  exact loadNumber_keeps kept _ _ (fun _ _ => rfl) fun _ _ => rfl

theorem initializeController_keeps : Keeps allowed invariant admitted initializeController :=
  keeps_bind (store_keeps kept fun _ => ⟨rfl, rfl, rfl, fun _ => .inl⟩) fun _ =>
    keeps_tryCatch (loadController_keeps reads kept) fun _ => keeps_pure _

/-- A new fan has the PWM zero. -/
theorem getFanPwms_keeps : Keeps allowed invariant admitted getFanPwms := by
  refine keeps_bind (getSubTreePaths_keeps reads _ _) fun paths => store_keeps kept fun loop =>
    ⟨rfl, rfl, rfl, fun fan member => ?_⟩
  rcases List.mem_append.mp member with before | new
  · exact .inl before
  · obtain ⟨path, _, rfl⟩ := List.mem_map.mp new
    exact .inr rfl

end Construction

/-- The last step of the construction changes only the limits. -/
theorem getTempThresholds_keeps (reads : AllowsReads allowed invariant)
    (limits : ∀ loop low high, invariant loop →
      invariant { loop with tempMin := low, tempMax := high }) :
    Keeps allowed invariant admitted getTempThresholds := by
  refine keeps_bind (getSubTreePaths_keeps reads _ _) fun paths => ?_
  cases paths with
  | nil => exact keeps_pure _
  | cons path rest =>
      refine keeps_bind (getProperty_keeps reads _ _ _) fun low => ?_
      refine keeps_bind (keeps_modify fun loop => limits loop low loop.tempMax) fun _ => ?_
      refine keeps_bind (getProperty_keeps reads _ _ _) fun high => ?_
      exact keeps_modify fun loop => limits loop loop.tempMin high

theorem readTemperatures_keeps (reads : AllowsReads allowed invariant)
    (temps : ∀ loop temps, invariant loop → invariant { loop with temps := temps }) :
    Keeps allowed invariant admitted readTemperatures := by
  refine keeps_read fun loop _ => keeps_forEach fun index => keeps_read fun loop _ => ?_
  cases loop.temps[index]? with
  | none => exact keeps_pure _
  | some sensor =>
      refine keeps_bind (keeps_ask fun loop kept => reads loop _ kept rfl) fun value => ?_
      exact keeps_modify fun loop => temps loop _

theorem loadSetpoint_keeps (reads : AllowsReads allowed invariant)
    (setpoint : ∀ loop setpoint, invariant loop → invariant { loop with setpoint := setpoint }) :
    Keeps allowed invariant admitted loadSetpoint :=
  keeps_bind (readJson_keeps reads _) fun _ =>
    keeps_bind (readNumber_keeps _ _) fun number => keeps_modify fun loop => setpoint loop number

/-- A pass over the fans changes a fan only to a PWM that it commands. -/
theorem commandFans_keeps {next : Fan → Option Int}
    (sets : ∀ loop index fan pwm, invariant loop → next fan = some pwm →
      invariant { loop with fans := loop.fans.set index { fan with pwm := pwm } })
    (commands : ∀ loop fan pwm, invariant loop → next fan = some pwm →
      allowed loop (.setProperty fan.path pwmInterface "Target" (UInt64.ofInt pwm)))
    (faults : ∀ loop fan, invariant loop → fan ∈ loop.fans → next fan = none →
      admitted .overflow) :
    Keeps allowed invariant admitted (commandFans next) := by
  refine keeps_read fun loop _ => keeps_forEach fun index => keeps_read fun loop kept => ?_
  cases found : loop.fans[index]? with
  | none => exact keeps_pure _
  | some fan =>
      cases speed : next fan with
      | none =>
          simp only [speed]
          exact keeps_fault (faults loop fan kept (List.mem_of_getElem? found) speed)
      | some pwm =>
          simp only [speed]
          refine keeps_bind (keeps_modify fun loop same => ?_) fun _ => ?_
          · exact sets loop index fan pwm same speed
          refine keeps_bind (keeps_ask fun loop same => ?_) fun succeeded => ?_
          · exact commands loop fan pwm same speed
          exact keeps_ite (fun _ => keeps_pure _) fun _ => keeps_throw _

end FanLoop

end Chassis.Cooling
