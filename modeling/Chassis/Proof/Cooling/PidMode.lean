import Chassis.Automaton.Run
import Chassis.Proof.Cooling.FullSpeed
import Chassis.Proof.Cooling.Pid

namespace Chassis.Cooling
open Effect Program Json Monitor Vita4611 Automaton

/-- The temperatures that an iteration of the control loop finds and the answers to its calls. -/
structure Iteration where
  temps : List TemperatureSensor
  environment : Environment interface

namespace Iteration

variable (iteration : Iteration) (loop : FanLoop)

def run [Curve] : Run interface FanLoop Unit :=
  FanLoop.controlLoop.run iteration.environment { loop with temps := iteration.temps } 0

/-- The controller with which an iteration enters `pid`, if it gets a setpoint. -/
def entered : Option FanLoop :=
  returned (FanLoop.loadSetpoint.run iteration.environment { loop with temps := iteration.temps } 0)

/-- The output of `pid` in an iteration that gets a setpoint. -/
def output : Option ℚ :=
  (iteration.entered loop).map fun loop =>
    (pid loop.controller (FanLoop.tempHigh loop.temps) loop.setpoint).1

end Iteration

/-- The outputs and their differences from a PWM stay within the range of `int`. -/
def Limits.Fits (limits : Limits) : Prop := -2147483393 < limits.min ∧ limits.max < 2147483648

namespace FanLoop

/-- The loop ends with an iteration that does not return. -/
def iterate [Curve] (loop : FanLoop) (iteration : Iteration) : Option FanLoop :=
  returned (iteration.run loop)

section Pwm

variable {limits : Limits} {value : ℚ} {fan : Fan}

/-- A value within limits that fit converts to a whole number within them. -/
theorem toInt_fits (fits : limits.Fits) (within : limits.Within value) :
    ∃ whole, toInt value = some whole ∧ -2147483393 < whole ∧ whole < 2147483648 := by
  have low : -2147483393 < value := fits.1.trans_le within.1
  have high : value < 2147483648 := within.2.trans_lt fits.2
  by_cases sign : 0 ≤ value
  case pos =>
    have above : 0 ≤ value.floor := Rat.le_floor_iff.mpr sign
    have below : value.floor < 2147483648 := Rat.floor_lt_iff.mpr (by push_cast; exact high)
    refine ⟨value.floor, ?_, by omega, below⟩
    rw [toInt, if_pos sign, inRange, if_pos (by omega)]
  case neg =>
    have above : -2147483393 < value.ceil := Rat.lt_ceil_iff.mpr (by push_cast; exact low)
    have below : value.ceil ≤ 0 := Rat.ceil_le_iff.mpr (by push_cast; exact (not_le.mp sign).le)
    refine ⟨value.ceil, ?_, above, by omega⟩
    rw [toInt, if_neg sign, inRange, if_pos (by omega)]

/-- A PWM is kept between standstill and full speed. -/
theorem pidPwm_range {pwm : Int} (next : pidPwm value fan = some pwm) : 0 ≤ pwm ∧ pwm ≤ 255 := by
  obtain ⟨difference, _, rfl⟩ := Option.map_eq_some_iff.mp next
  split_ifs
  all_goals omega

/-- An output within limits that fit gives every fan a PWM. -/
theorem pidPwm_fits (fits : limits.Fits) (within : limits.Within value)
    (range : 0 ≤ fan.pwm ∧ fan.pwm ≤ 255) : pidPwm value fan ≠ none := by
  obtain ⟨whole, converted, low, high⟩ := toInt_fits fits within
  have inside : inRange (fan.pwm - whole) = some (fan.pwm - whole) := if_pos (by omega)
  simp [pidPwm, converted, inside]

end Pwm

/-- A call commands no more than full speed. -/
def CommandsPwm (op : Op) : Prop := ∀ command, target op = some command → command.2.toNat ≤ 255

/-- What a controller in PID mode keeps of the settings and the range that it started with. -/
structure Ruled (start loop : FanLoop) : Prop where
  pidMode : loop.linear = false
  settings : loop.controller.settings = start.controller.settings
  last : start.controller.outLim.Within loop.controller.lastOutput
  fans : ∀ fan ∈ loop.fans, 0 ≤ fan.pwm ∧ fan.pwm ≤ 255

section Ruled

variable {start : FanLoop} (configured : start.controller.Configured)

theorem ruled_reads : AllowsReads (fun _ op => CommandsPwm op) (Ruled start) := by
  intro loop op _ quiet command commanded
  cases quiet.symm.trans commanded

/-- The fans get their PWMs from an output within the limits. -/
theorem commandFans_ruled {output : ℚ} (within : start.controller.outLim.Within output) :
    Keeps (fun _ op => CommandsPwm op) (Ruled start) (fun _ => ¬ start.controller.outLim.Fits)
      (commandFans (pidPwm output)) := by
  apply commandFans_keeps
  case sets =>
    intro loop index fan pwm ruled next
    refine { ruled with fans := fun other member => ?_ }
    rcases List.mem_or_eq_of_mem_set member with before | rfl
    · exact ruled.fans other before
    · exact pidPwm_range next
  case commands =>
    intro loop fan pwm _ next command commanded
    obtain ⟨low, high⟩ := pidPwm_range next
    cases commanded
    change (UInt64.ofInt pwm).toNat ≤ 255
    rw [UInt64.ofInt, UInt64.toNat_ofNat']
    omega
  case faults =>
    intro loop fan ruled member none fits
    exact pidPwm_fits fits within (ruled.fans fan member) none

include configured

/-- The call of `pid` keeps the last output within the limits. -/
theorem ruled_pid {loop : FanLoop} (ruled : Ruled start loop) (input setpoint : ℚ) :
    start.controller.outLim.Within (pid loop.controller input setpoint).1 := by
  have last := ruled.last
  rw [← PidInfo.same_outLim ruled.settings] at last ⊢
  exact PidInfo.pid_within input setpoint (configured.transfer ruled.settings) last

/-- An iteration keeps what the controller started with. -/
theorem controlLoop_ruled [Curve] :
    Keeps (fun _ op => CommandsPwm op) (Ruled start) (fun _ => ¬ start.controller.outLim.Fits)
      controlLoop := by
  refine keeps_bind (loadSetpoint_keeps ruled_reads fun _ _ ruled => { ruled with }) fun _ => ?_
  refine keeps_read fun loop ruled => ?_
  refine keeps_ite (fun linear => ?_) fun _ => ?_
  · cases ruled.pidMode.symm.trans linear
  · have within := ruled_pid configured ruled (tempHigh loop.temps) loop.setpoint
    have settings := (PidInfo.pid_settings (tempHigh loop.temps) loop.setpoint).trans ruled.settings
    refine keeps_bind (keeps_modify fun other same => ?_) fun _ => ?_
    · exact { same with settings := settings, last := within }
    · refine commandFans_ruled ?_
      by_cases cold : tempHigh loop.temps < loop.setpoint
      · rw [if_pos cold]
        exact ⟨configured.low, configured.high⟩
      · rw [if_neg cold]
        exact within

theorem iterate_ruled [Curve] {loop next : FanLoop} {iteration : Iteration}
    (ruled : Ruled start loop) (ended : loop.iterate iteration = some next) :
    Ruled start next := by
  have entering : Ruled start { loop with temps := iteration.temps } := { ruled with }
  exact returned_keeps (controlLoop_ruled configured) entering ended

end Ruled

/-- The setpoint is all that changes before `pid` is called. -/
theorem entered_eq {iteration : Iteration} {loop entered : FanLoop}
    (ended : iteration.entered loop = some entered) :
    ∃ setpoint, entered = { loop with temps := iteration.temps, setpoint := setpoint } := by
  refine @returned_keeps (fun _ _ => True) (fun next => ∃ setpoint, next =
    { loop with temps := iteration.temps, setpoint := setpoint }) (fun _ => True) _
    (loadSetpoint_keeps (fun _ _ _ _ => trivial) ?_) _ _ _ _ ⟨loop.setpoint, rfl⟩ ended
  rintro _ setpoint ⟨_, rfl⟩
  exact ⟨setpoint, rfl⟩

theorem commandFans_controller {controller : PidInfo} (next : Fan → Option Int) :
    Keeps (fun _ _ => True) (fun loop => loop.controller = controller) (fun _ => True)
      (commandFans next) :=
  commandFans_keeps (fun _ _ _ _ same _ => same) (fun _ _ _ _ _ => trivial) fun _ _ _ _ _ => trivial

/-- The run of an iteration ends with the controller that `pid` leaves. -/
theorem run_output [Curve] {iteration : Iteration} {loop : FanLoop} {output : ℚ}
    (pidMode : loop.linear = false) (called : iteration.output loop = some output) :
    ∃ input setpoint, output = (pid loop.controller input setpoint).1 ∧
      (iteration.run loop).state.controller = (pid loop.controller input setpoint).2 := by
  obtain ⟨entered, ended, rfl⟩ := Option.map_eq_some_iff.mp called
  obtain ⟨setpoint, same⟩ := entered_eq ended
  refine ⟨tempHigh iteration.temps, setpoint, by rw [same], ?_⟩
  obtain ⟨outcome, state⟩ := returned_value ended
  have off : ¬ entered.linear = true := by simp [same, pidMode]
  rw [Iteration.run, controlLoop, run_bind, Run.andThen, outcome, state]
  simp only [drive, run_bind, run_read, andThen_value, run_ite, if_neg off, run_modify]
  subst same
  exact ((commandFans_controller _).sound _ _ _ rfl).2.1

/-- An iteration that returns has called `pid`. -/
theorem iterate_output [Curve] {iteration : Iteration} {loop next : FanLoop}
    (ended : loop.iterate iteration = some next) :
    next = (iteration.run loop).state ∧ ∃ output, iteration.output loop = some output := by
  obtain ⟨_, same⟩ := returned_value ended
  obtain ⟨entered, _, reading, _⟩ := returned_then ended
  exact ⟨same.symm, _, congrArg (Option.map _) reading⟩

/-- The outputs of two iterations in a row are slewed. -/
theorem output_slewed [Curve] {start loop next : FanLoop} {iteration later : Iteration}
    {output following : ℚ} (configured : start.controller.Configured) (ruled : Ruled start loop)
    (ended : loop.iterate iteration = some next) (called : iteration.output loop = some output)
    (continued : later.output next = some following) :
    start.controller.Slewed output following := by
  have kept := iterate_ruled configured ruled ended
  obtain ⟨same, _⟩ := iterate_output ended
  obtain ⟨input, setpoint, first, left⟩ := run_output ruled.pidMode called
  obtain ⟨laterInput, laterSetpoint, second, _⟩ := run_output kept.pidMode continued
  rw [← same] at left
  have initialized : next.controller.initialized = true := by rw [left, PidInfo.pid_initialized]
  have last : next.controller.lastOutput = output := by rw [left, PidInfo.pid_lastOutput, first]
  have slewed := PidInfo.pid_slewed laterInput laterSetpoint (configured.transfer kept.settings)
    initialized
  rw [last, ← second] at slewed
  exact slewed.transfer kept.settings

/-- Nothing has been put out and no fan has been commanded. -/
structure Rests (loop : FanLoop) : Prop where
  integral : loop.controller.integral = 0
  lastOutput : loop.controller.lastOutput = 0
  fans : ∀ fan ∈ loop.fans, fan.pwm = 0

theorem rests_reads : AllowsReads (fun _ _ => True) Rests := fun _ _ _ _ => trivial

theorem rests_unread (loop next : FanLoop) (unread : Unread loop next) (rests : Rests loop) :
    Rests next where
  integral := unread.integral.trans rests.integral
  lastOutput := unread.lastOutput.trans rests.lastOutput
  fans := fun fan member => (unread.pwms fan member).elim (rests.fans fan) id

/-- The controller rests when its construction ends. -/
theorem construct_rests {environment : Environment interface} {junk loop : FanLoop}
    (ended : returned (construct.run environment junk 0) = some loop) : loop.Rests := by
  obtain ⟨cleared, _, clearing, ended⟩ := returned_then ended
  have rests : cleared.Rests := by
    cases clearing
    exact ⟨rfl, rfl, nofun⟩
  refine @returned_keeps (fun _ _ => True) Rests (fun _ => True) _ ?_ _ _ _ _ rests ended
  refine keeps_bind (initializeTemps_keeps rests_reads rests_unread) fun _ => ?_
  refine keeps_bind (initializeController_keeps rests_reads rests_unread) fun _ => ?_
  refine keeps_bind (getFanPwms_keeps rests_reads rests_unread) fun _ => ?_
  exact getTempThresholds_keeps rests_reads fun _ _ _ rests => { rests with }

/-- A turn of main that returns is an iteration at the temperatures that it has read. -/
theorem turn_iterates [Curve] {environment : Environment interface} {loop next : FanLoop}
    (ended : returned (turn.run environment loop 0) = some next) :
    ∃ iteration, loop.iterate iteration = some next := by
  obtain ⟨sensed, later, sensing, ended⟩ := returned_then ended
  have same : ∃ temps, sensed = { loop with temps := temps } := by
    refine @returned_keeps (fun _ _ => True) (fun next => ∃ temps, next =
      { loop with temps := temps }) (fun _ => True) _
      (readTemperatures_keeps (fun _ _ _ _ => trivial) ?_) _ _ _ _ ⟨loop.temps, rfl⟩ sensing
    rintro _ temps ⟨_, rfl⟩
    exact ⟨temps, rfl⟩
  obtain ⟨temps, rfl⟩ := same
  have shifted := run_shift environment { loop with temps := temps } 0 controlLoop later
  rw [Nat.add_zero] at shifted
  rw [shifted] at ended
  exact ⟨⟨temps, fun position => environment (later + position)⟩, ended⟩

/-- The turns of main lead the constructed controller, which is at rest, through iterations. -/
theorem after_reached [Curve] {junk start loop : FanLoop} {startup : Surroundings}
    {history : List Surroundings} (constructed : after junk startup [] = some start)
    (reached : after junk startup history = some loop) :
    start.Rests ∧ Reachable iterate start loop := by
  obtain ⟨first, built, same⟩ := Option.bind_eq_some_iff.mp constructed
  cases same
  rw [after, built, Option.bind_some] at reached
  refine ⟨construct_rests built, ?_⟩
  clear constructed built
  induction history generalizing start with
  | nil =>
      cases reached
      exact .start
  | cons surroundings rest ih =>
      rw [List.foldlM_cons] at reached
      obtain ⟨next, turned, later⟩ := Option.bind_eq_some_iff.mp reached
      obtain ⟨iteration, taken⟩ := turn_iterates turned
      exact Reach.trans (.next .start trivial taken) (ih later)

/-- What an iteration does within the settings that the controller starts with. -/
structure InRange [Curve] (start loop : FanLoop) (iteration : Iteration) : Prop where
  returns : ∀ next, loop.iterate iteration = some next →
    next = (iteration.run loop).state ∧ ∃ output, iteration.output loop = some output
  outputs : ∀ output, iteration.output loop = some output →
    start.controller.outLim.Within output ∧
      (iteration.run loop).state.controller.lastOutput = output
  integral : ∀ output, iteration.output loop = some output →
    start.controller.integralLimit.Within (iteration.run loop).state.controller.integral
  slews : ∀ (next : FanLoop) (later : Iteration) (output following : ℚ),
    loop.iterate iteration = some next → iteration.output loop = some output →
    later.output next = some following → start.controller.Slewed output following
  commands : ∀ command ∈ targets (iteration.run loop).calls, command.2.toNat ≤ 255
  fans : ∀ fan ∈ (iteration.run loop).state.fans, 0 ≤ fan.pwm ∧ fan.pwm ≤ 255
  faults : ∀ reason, (iteration.run loop).outcome = .fault reason →
    ¬ start.controller.outLim.Fits

theorem reached_ruled [Curve] {start loop : FanLoop} (configured : start.controller.Configured)
    (pidMode : start.linear = false) (rests : start.Rests)
    (reached : Reachable iterate start loop) : Ruled start loop := by
  refine reached.invariant (Ruled start) ⟨pidMode, rfl, ?_, ?_⟩ ?_
  · rw [rests.lastOutput]
    exact ⟨configured.low, configured.high⟩
  · intro fan member
    rw [rests.fans fan member]
    omega
  · intro before iteration after ruled _ ended
    exact iterate_ruled configured ruled ended

/-- An iteration keeps within the settings whatever the iterations before it have kept. -/
theorem ruled_inRange [Curve] {start loop : FanLoop} (configured : start.controller.Configured)
    (ruled : Ruled start loop) (iteration : Iteration) : InRange start loop iteration := by
  have entering : FanLoop.Ruled start { loop with temps := iteration.temps } := { ruled with }
  have sound := (controlLoop_ruled configured).sound iteration.environment _ 0 entering
  constructor
  case returns =>
    intro next ended
    exact iterate_output ended
  case outputs =>
    intro output called
    obtain ⟨input, setpoint, rfl, left⟩ := run_output ruled.pidMode called
    refine ⟨ruled_pid configured ruled input setpoint, ?_⟩
    rw [left, PidInfo.pid_lastOutput]
  case integral =>
    intro output called
    obtain ⟨input, setpoint, _, left⟩ := run_output ruled.pidMode called
    rw [left, ← PidInfo.same_integralLimit ruled.settings]
    exact PidInfo.pid_integral input setpoint (configured.transfer ruled.settings)
  case slews =>
    intro next later output following ended called continued
    exact output_slewed configured ruled ended called continued
  case commands =>
    intro command member
    obtain ⟨call, made, commanded⟩ := List.mem_filterMap.mp member
    exact sound.1 call made command commanded
  case fans => exact sound.2.1.fans
  case faults => exact sound.2.2

end FanLoop

/-- In PID mode every iteration keeps the outputs, the integral, the slew rates and the commands
within the settings of a controller that starts at rest. -/
theorem pidMode_inRange [Curve] (start : FanLoop) (configured : start.controller.Configured)
    (pidMode : start.linear = false) (rests : start.Rests) (loop : FanLoop)
    (reached : Reachable FanLoop.iterate start loop) (iteration : Iteration) :
    FanLoop.InRange start loop iteration :=
  FanLoop.ruled_inRange configured (FanLoop.reached_ruled configured pidMode rests reached) iteration

/-- A controller in PID mode with a fan. -/
def pidStart : FanLoop := { blankLoop with
  fans := [⟨pwmStub ++ "/0", 0⟩]
  controller := { PidInfo.blank with
    initialized := true
    ts := 1
    proportionalCoeff := 1 / 2
    integralCoeff := 1 / 4
    integralLimit := ⟨-50, 50⟩
    outLim := ⟨-100, 100⟩
    slewNeg := -20
    slewPos := 20 } }

/-- One sensor reads some degrees, and the setpoint is fifteen. -/
def heated (value : ℚ) : Iteration := ⟨[⟨tempStub ++ "/0", value⟩], (oneSensor 90).environment⟩

def pidNext : FanLoop := (@FanLoop.iterate straightCurve pidStart (heated 80)).getD pidStart

theorem pidNext_reached : @FanLoop.iterate straightCurve pidStart (heated 80) = some pidNext := by
  have ended : (@FanLoop.iterate straightCurve pidStart (heated 80)).isSome = true := by
    decide +kernel
  obtain ⟨loop, found⟩ := Option.isSome_iff_exists.mp ended
  rw [pidNext, found]
  rfl

theorem pidMode_inRange_heated : @FanLoop.InRange straightCurve pidStart pidNext (heated 90) :=
  @pidMode_inRange straightCurve pidStart
    ⟨by decide +kernel, by decide +kernel, by decide +kernel, by decide +kernel, by decide +kernel,
      by decide +kernel⟩
    rfl ⟨rfl, rfl, by decide +kernel⟩ pidNext (.next .start trivial pidNext_reached) (heated 90)

/-- The second output falls by as much as the slew rate allows, from -20 to -40. -/
example : targets (@Iteration.run (heated 90) pidNext straightCurve).calls =
    [(pwmStub ++ "/0", 60)] := by
  decide +kernel

/-- The shipped file with the other mode. -/
def pidSurroundings : Surroundings :=
  { oneSensor 90 with
    pid := match shippedPid with
      | .object members => .accepted (.object (members.map fun member =>
          if member.1 = ascii "linear" then (member.1, .boolean false) else member))
      | other => .accepted other }

def pidAfter (history : List Surroundings) : FanLoop :=
  (@FanLoop.after straightCurve blankLoop pidSurroundings history).getD blankLoop

theorem pidAfter_reached {history : List Surroundings}
    (some : (@FanLoop.after straightCurve blankLoop pidSurroundings history).isSome = true) :
    @FanLoop.after straightCurve blankLoop pidSurroundings history = .some (pidAfter history) := by
  obtain ⟨loop, found⟩ := Option.isSome_iff_exists.mp some
  rw [pidAfter, found]
  rfl

end Chassis.Cooling
