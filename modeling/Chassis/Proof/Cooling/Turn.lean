import Chassis.Construction.Cooling.FanLoop
import Chassis.Effect.Run

namespace Chassis.Cooling
open Effect Program Json Monitor Vita4611

/-- What the bus and the file answer while nothing on them changes. -/
structure Surroundings where
  paths : String → String → Option (List String)
  property : String → String → String → Option ℚ
  pid : Parsed
  accepts : String → Bool

namespace Surroundings

def environment (surroundings : Surroundings) : Environment interface := fun _ op =>
  match op with
  | .readJson _ => surroundings.pid
  | .getSubTreePaths path interface => surroundings.paths path interface
  | .getProperty path interface property => surroundings.property path interface property
  | .setProperty path _ _ _ => surroundings.accepts path

/-- The value that a reading of the sensor leaves. -/
def reading (surroundings : Surroundings) (path : String) : ℚ :=
  (surroundings.property path valueInterface "Value").getD (-20)

def sense (surroundings : Surroundings) (sensor : TemperatureSensor) : TemperatureSensor :=
  { sensor with value := surroundings.reading sensor.path }

/-- The setpoint that the file gives, if it gives one. -/
def setpoint (surroundings : Surroundings) : Option ℚ :=
  match surroundings.pid with
  | .accepted value => numberAt value ["setpoint"]
  | .rejected left => numberAt left ["setpoint"]
  | .outOfRange => none

end Surroundings

/-- The fan and the target of a call that commands a fan. -/
def target : Op → Option (String × UInt64)
  | .setProperty path interface property value =>
      if interface = pwmInterface ∧ property = "Target" then some (path, value) else none
  | _ => none

/-- The targets that a run commands, in order. -/
def targets (calls : List (Call interface FanLoop)) : List (String × UInt64) :=
  calls.filterMap fun call => target call.op

@[simp] theorem targets_nil : targets [] = [] := rfl

@[simp] theorem targets_append (first second : List (Call interface FanLoop)) :
    targets (first ++ second) = targets first ++ targets second :=
  List.filterMap_append

/-- The fans are commanded in order up to the first one that refuses or that gets no PWM. -/
def commanded (accepts : String → Bool) (next : Fan → Option Int) : List Fan → List (String × UInt64)
  | [] => []
  | fan :: rest =>
      match next fan with
      | none => []
      | some pwm => (fan.path, UInt64.ofInt pwm) ::
          if accepts fan.path then commanded accepts next rest else []

namespace FanLoop

section Runs

variable (surroundings : Surroundings) (loop : FanLoop) (position : Nat)

/-- A pass from a position on reads the sensors that are left. -/
theorem run_readTemperature_rest (done rest : List TemperatureSensor)
    (listed : loop.temps = done ++ rest) : ∃ calls,
    (forEach readTemperature (List.range' done.length rest.length)).run surroundings.environment
        loop position =
      ⟨.value (), { loop with temps := done ++ rest.map surroundings.sense }, calls⟩ ∧
    targets calls = [] := by
  induction rest generalizing done loop position with
  | nil =>
      refine ⟨[], ?_, rfl⟩
      rw [List.map_nil, ← listed]
      rfl
  | cons sensor rest ih =>
      have found : loop.temps[done.length]? = some sensor := by simp [listed]
      let next : FanLoop := { loop with
        temps := loop.temps.set done.length (surroundings.sense sensor) }
      let call : Call interface FanLoop :=
        ⟨loop, .getProperty sensor.path valueInterface "Value",
          surroundings.property sensor.path valueInterface "Value"⟩
      have read : (readTemperature done.length).run surroundings.environment loop position =
          ⟨.value (), next, [call]⟩ := by
        simp only [readTemperature, run_bind, run_read, andThen_value, found]
        rfl
      have moved : next.temps = (done ++ [surroundings.sense sensor]) ++ rest := by
        simp [next, listed]
      obtain ⟨calls, ran, quiet⟩ := ih next (position + 1) (done ++ [surroundings.sense sensor]) moved
      rw [List.length_append, List.length_singleton] at ran
      refine ⟨call :: calls, ?_, quiet⟩
      rw [List.length_cons, List.range'_succ, forEach, run_then, read, andThen_value,
        List.length_singleton, ran]
      simp [next]

/-- A pass over the sensors reads each of them and commands no fan. -/
theorem run_readTemperatures : ∃ calls,
    readTemperatures.run surroundings.environment loop position =
      ⟨.value (), { loop with temps := loop.temps.map surroundings.sense }, calls⟩ ∧
    targets calls = [] := by
  obtain ⟨calls, ran, quiet⟩ := run_readTemperature_rest surroundings loop position [] loop.temps rfl
  refine ⟨calls, ?_, quiet⟩
  simp only [readTemperatures, run_bind, run_read, andThen_value, List.range_eq_range']
  exact ran

/-- Setting a property throws when the bus refuses. -/
theorem run_setProperty (path interface property : String) (value : UInt64) :
    (setProperty path interface property value).run surroundings.environment loop position =
      ⟨if surroundings.accepts path then .value () else .thrown .dbusError, loop,
        [⟨loop, .setProperty path interface property value, surroundings.accepts path⟩]⟩ := by
  simp only [setProperty, run_bind]
  rw [run_ask]
  simp only [andThen_value, Surroundings.environment]
  cases surroundings.accepts path with
  | false => rfl
  | true => rfl

/-- A property that cannot be read throws. -/
theorem run_getProperty (path interface property : String) :
    (getProperty path interface property).run surroundings.environment loop position =
      ⟨match surroundings.property path interface property with
        | some value => .value value
        | none => .thrown .dbusError, loop,
        [⟨loop, .getProperty path interface property,
          surroundings.property path interface property⟩]⟩ := by
  simp only [getProperty, run_bind]
  rw [run_ask]
  simp only [andThen_value, Surroundings.environment]
  cases surroundings.property path interface property with
  | none => rfl
  | some value => rfl

/-- A search of the bus that fails throws. -/
theorem run_getSubTreePaths (path interface : String) :
    (getSubTreePaths path interface).run surroundings.environment loop position =
      ⟨match surroundings.paths path interface with
        | some paths => .value paths
        | none => .thrown .dbusError, loop,
        [⟨loop, .getSubTreePaths path interface, surroundings.paths path interface⟩]⟩ := by
  simp only [getSubTreePaths, run_bind]
  rw [run_ask]
  simp only [andThen_value, Surroundings.environment]
  cases surroundings.paths path interface with
  | none => rfl
  | some paths => rfl

/-- A pass from a position on commands the fans that are left. -/
theorem targets_command_rest (next : Fan → Option Int) (done rest : List Fan)
    (listed : loop.fans = done ++ rest) :
    targets ((forEach (command next) (List.range' done.length rest.length)).run
        surroundings.environment loop position).calls =
      commanded surroundings.accepts next rest := by
  induction rest generalizing done loop position with
  | nil => rfl
  | cons fan rest ih =>
      have found : loop.fans[done.length]? = some fan := by simp [listed]
      rw [List.length_cons, List.range'_succ, forEach, run_then]
      cases speed : next fan with
      | none =>
          simp [command, found, speed, Run.andThen, commanded]
      | some pwm =>
          let after : FanLoop := { loop with fans := loop.fans.set done.length { fan with pwm := pwm } }
          have ran : (command next done.length).run surroundings.environment loop position =
              ⟨if surroundings.accepts fan.path then .value () else .thrown .dbusError, after,
                [⟨after, .setProperty fan.path pwmInterface "Target" (UInt64.ofInt pwm),
                  surroundings.accepts fan.path⟩]⟩ := by
            simp only [command, run_bind, run_read, andThen_value, found, speed, run_modify,
              run_setProperty, List.nil_append]
            rfl
          have moved : after.fans = (done ++ [{ fan with pwm := pwm }]) ++ rest := by
            simp [after, listed]
          have later := ih after (position + 1) (done ++ [{ fan with pwm := pwm }]) moved
          rw [List.length_append, List.length_singleton] at later
          rw [ran, commanded, speed]
          cases accepted : surroundings.accepts fan.path with
          | false => rfl
          | true => exact congrArg _ later

/-- A pass over the fans commands them in order. -/
theorem targets_commandFans (next : Fan → Option Int) :
    targets ((commandFans next).run surroundings.environment loop position).calls =
      commanded surroundings.accepts next loop.fans := by
  simp only [commandFans, run_bind, run_read, andThen_value, List.range_eq_range', List.nil_append]
  exact targets_command_rest surroundings loop _ next [] loop.fans rfl

/-- The file is read in one call, and without a setpoint the iteration ends there. -/
theorem run_loadSetpoint : ∃ exception,
    loadSetpoint.run surroundings.environment loop position =
      ⟨match surroundings.setpoint with
        | some _ => .value ()
        | none => .thrown exception,
        match surroundings.setpoint with
        | some setpoint => { loop with setpoint := setpoint }
        | none => loop,
        [⟨loop, .readJson pidPath, surroundings.pid⟩]⟩ := by
  have convert (data : Value ℚ) (position : Nat) :
      (readNumber data ["setpoint"]).run surroundings.environment loop position =
        ⟨match numberAt data ["setpoint"] with
          | some setpoint => .value setpoint
          | none => .thrown .typeError, loop, []⟩ := by
    rw [readNumber]
    cases numberAt data ["setpoint"] with
    | none => rfl
    | some setpoint => rfl
  simp only [loadSetpoint, readJson, run_bind]
  rw [run_ask]
  cases file : surroundings.pid with
  | accepted data =>
      refine ⟨.typeError, ?_⟩
      simp only [Surroundings.environment, Surroundings.setpoint, file, andThen_value, run_pure,
        convert]
      cases numberAt data ["setpoint"] with
      | none => rfl
      | some setpoint => rfl
  | rejected data =>
      refine ⟨.typeError, ?_⟩
      simp only [Surroundings.environment, Surroundings.setpoint, file, andThen_value, run_pure,
        convert]
      cases numberAt data ["setpoint"] with
      | none => rfl
      | some setpoint => rfl
  | outOfRange =>
      refine ⟨.outOfRange, ?_⟩
      simp only [Surroundings.environment, Surroundings.setpoint, file, andThen_value, run_throw,
        andThen_thrown, List.append_nil]

/-- In linear mode all fans are driven by the highest reading. -/
theorem targets_drive [Curve] (linear : loop.linear = true) :
    targets (drive.run surroundings.environment loop position).calls =
      commanded surroundings.accepts (linearPwm (loop.calcVal (tempHigh loop.temps))) loop.fans := by
  rw [drive, run_bind, run_read, andThen_value, run_ite, if_pos linear]
  exact targets_commandFans surroundings loop _ _

/-- In linear mode a turn commands the fans by the readings and the setpoint of the moment. -/
theorem targets_turn [Curve] (linear : loop.linear = true) :
    targets (turn.run surroundings.environment loop position).calls =
      match surroundings.setpoint with
      | none => []
      | some setpoint => commanded surroundings.accepts
          (linearPwm (calcVal { loop with setpoint := setpoint }
            (tempHigh (loop.temps.map surroundings.sense)))) loop.fans := by
  obtain ⟨reads, ran, quiet⟩ := run_readTemperatures surroundings loop position
  rw [turn, run_bind, ran, andThen_value, targets_append, quiet, List.nil_append, controlLoop,
    run_bind]
  obtain ⟨exception, ran⟩ := run_loadSetpoint surroundings
    { loop with temps := loop.temps.map surroundings.sense } (position + reads.length)
  rw [ran]
  cases surroundings.setpoint with
  | none => rfl
  | some setpoint =>
      exact targets_drive surroundings
        { loop with temps := loop.temps.map surroundings.sense, setpoint := setpoint } _ linear

end Runs

end FanLoop

end Chassis.Cooling
