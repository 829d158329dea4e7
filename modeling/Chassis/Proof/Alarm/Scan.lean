import Chassis.Construction.Boot.Manager
import Chassis.Effect.Rely

namespace Chassis.Alarm
open Effect Program Boot

/-- What the bus answers about sensors during one pass. Nothing is answered when a call fails. -/
structure Sensors where
  paths : String → Option (List String)
  flag : String → String → Option Bool
  value : String → Option ℚ

namespace Sensors

/-- The sensors answer for themselves, and every other answer is free. -/
def Answers (sensors : Sensors) : (op : Op) → op.Answer → Prop
  | .getSubTreePaths stub _, answer => answer = sensors.paths stub
  | .getAlarm path property, answer => answer = sensors.flag path property
  | .getValueProperty path, answer => answer = sensors.value path
  | _, _ => True

def environment (sensors : Sensors) (other : Environment interface) : Environment interface :=
  fun index op =>
    match op with
    | .getSubTreePaths stub _ => sensors.paths stub
    | .getAlarm path property => sensors.flag path property
    | .getValueProperty path => sensors.value path
    | op => other index op

theorem environment_answers (sensors : Sensors) (other : Environment interface) (index : Nat)
    (op : Op) : sensors.Answers op (sensors.environment other index op) := by
  cases op <;> first | rfl | trivial

/-- The sensors of a class, of which there is none when the search for them fails. -/
def listed (sensors : Sensors) (stub : String) : List String := (sensors.paths stub).getD []

/-- Both alarm flags of a sensor, if both can be read. -/
def flags (sensors : Sensors) (path : String) : Option (Bool × Bool) :=
  (sensors.flag path "CriticalAlarmLow").bind fun low =>
    (sensors.flag path "CriticalAlarmHigh").map fun high => (low, high)

/-- Both flags of the sensor can be read, and one of them is set. -/
def raised (sensors : Sensors) (path : String) : Bool :=
  (sensors.flags path).any fun flags => flags.1 || flags.2

/-- A program that relies on the answers of the sensors ends as it promises. -/
theorem sound {State Value : Type} {sensors : Sensors} {program : Program interface State Value}
    {post : Post interface State Value} {state : State}
    (holds : program.rely sensors.Answers post state) (other : Environment interface)
    (position : Nat) :
    post.holds (program.run (sensors.environment other) state position).outcome
      (program.run (sensors.environment other) state position).state :=
  rely_sound _ _ _ _ holds (calls_assumed program (sensors.environment_answers other) state position)

/-- What a program promises to return for the answers of the sensors is what it returns. -/
theorem sound_returns {State Value : Type} {sensors : Sensors}
    {program : Program interface State Value} {promised : Value} {state : State}
    (returns : program.rely sensors.Answers (.returns fun value _ => value = promised) state)
    (other : Environment interface) (position : Nat) :
    (program.run (sensors.environment other) state position).outcome = .value promised := by
  have ended := sound returns other position
  cases outcome : (program.run (sensors.environment other) state position).outcome with
  | value found =>
      rw [outcome] at ended
      rw [show found = promised from ended]
  | thrown exception =>
      rw [outcome] at ended
      exact ended.elim
  | fault reason => exact reason.elim

/-- What the scan of a class makes of its sensors. -/
def verdict (sensors : Sensors) (alarm : Bool) : List String → Bool
  | [] => alarm
  | path :: rest =>
      match sensors.flags path with
      | none => sensors.verdict alarm rest
      | some flags =>
          if flags.1 || flags.2 then (sensors.value path).isSome || sensors.verdict true rest
          else sensors.verdict false rest

/-- The last of the sensors with readable flags. -/
def lastRead (sensors : Sensors) (paths : List String) : Option String :=
  (paths.filter fun path => (sensors.flags path).isSome).getLast?

/-- A scan ends with an alarm when the value of a raised sensor can be read, and otherwise with what
the last sensor with readable flags says. -/
theorem verdict_iff (sensors : Sensors) (alarm : Bool) (paths : List String) :
    sensors.verdict alarm paths = true ↔
      (∃ path ∈ paths, sensors.raised path = true ∧ (sensors.value path).isSome = true) ∨
        ((sensors.lastRead paths).map sensors.raised).getD alarm = true := by
  induction paths generalizing alarm with
  | nil => simp [verdict, lastRead]
  | cons path rest ih =>
      cases read : sensors.flags path with
      | none =>
          have silent : sensors.raised path = false := by simp [raised, read]
          simp [verdict, lastRead, read, ih, silent]
      | some flags =>
          have shown : sensors.raised path = (flags.1 || flags.2) := by simp [raised, read]
          have last : ((sensors.lastRead (path :: rest)).map sensors.raised).getD alarm =
              ((sensors.lastRead rest).map sensors.raised).getD (sensors.raised path) := by
            simp only [lastRead, read, List.filter_cons, Option.isSome_some, if_true,
              List.getLast?_cons]
            cases (rest.filter fun path => (sensors.flags path).isSome).getLast? with
            | none => rfl
            | some other => rfl
          rw [last, verdict, read, shown]
          cases set : flags.1 || flags.2 with
          | true => simp [set, ih, shown, or_comm, or_left_comm]
          | false => simp [set, ih, shown]

end Sensors

section Scan

variable {sensors : Sensors} {manager : Manager}

/-- The scan returns its verdict. -/
theorem scanPaths_verdict (alarm : Bool) (paths : List String) :
    (scanPaths alarm paths).rely sensors.Answers
      (.returns fun found _ => found = sensors.verdict alarm paths) manager := by
  induction paths generalizing alarm with
  | nil => rfl
  | cons path rest ih =>
      apply rely_given fun _ read => read
      cases low : sensors.flag path "CriticalAlarmLow" with
      | none =>
          have none : sensors.flags path = none := by simp [Sensors.flags, low]
          rw [Sensors.verdict, none]
          exact ih alarm
      | some low' =>
          apply rely_given fun _ read => read
          cases high : sensors.flag path "CriticalAlarmHigh" with
          | none =>
              have none : sensors.flags path = none := by simp [Sensors.flags, low, high]
              rw [Sensors.verdict, none]
              exact ih alarm
          | some high' =>
              have both : sensors.flags path = some (low', high') := by
                simp [Sensors.flags, low, high]
              have shown : sensors.verdict alarm (path :: rest) =
                  if low' || high' then (sensors.value path).isSome || sensors.verdict true rest
                  else sensors.verdict false rest := by
                rw [Sensors.verdict, both]
              rw [shown]
              change Program.rely (I := interface) sensors.Answers
                (if low' || high' then _ else _) _ manager
              by_cases set : (low' || high') = true
              · simp only [if_pos set]
                apply rely_given fun _ read => read
                cases sensors.value path with
                | some reading => rfl
                | none => exact ih true
              · simp only [if_neg set]
                exact ih false

/-- A failed lookup of the sensors counts as an empty class. -/
theorem scanStub_verdict (stub : String) : (scanStub stub).rely sensors.Answers
    (.returns fun found _ => found = sensors.verdict false (sensors.listed stub)) manager := by
  apply rely_given fun _ found => found
  rw [Sensors.listed]
  cases sensors.paths stub with
  | none => rfl
  | some paths => exact scanPaths_verdict false paths

end Scan

section Watch

variable {assumed : (op : Op) → op.Answer → Prop}

theorem waitForDBus_returns {post : Post interface Manager Unit} {manager : Manager}
    (returned : post.value () manager) (attempts : Nat) :
    (waitForDBus attempts).rely assumed post manager := by
  induction attempts with
  | zero => exact fun _ _ => returned
  | succ attempts ih =>
      intro ready _
      cases ready with
      | true => exact returned
      | false => exact ih

theorem queryService_returns {post : Post interface Manager Bool} {manager : Manager}
    (returned : ∀ active, post.value active manager) (serviceName : String) (attempts : Nat) :
    (queryService serviceName attempts).rely assumed post manager := by
  induction attempts with
  | zero => exact returned false
  | succ attempts ih =>
      intro state _
      cases state with
      | some state => exact returned (state == "active")
      | none => exact ih

theorem isServiceActive_returns {post : Post interface Manager Bool} {manager : Manager}
    (returned : ∀ active, post.value active manager) (serviceName : String) :
    (isServiceActive serviceName).rely assumed post manager := by
  rw [isServiceActive, rely_bind]
  exact waitForDBus_returns (queryService_returns returned serviceName 5) 10

/-- A poll of the services always returns. -/
theorem watchServices_returns {post : Post interface Manager Unit} {manager : Manager}
    (returned : ∀ manager, post.value () manager) : watchServices.rely assumed post manager := by
  simp only [watchServices, rely_bind]
  apply isServiceActive_returns
  intro temp
  apply isServiceActive_returns
  intro voltage
  apply isServiceActive_returns
  intro fanController
  apply isServiceActive_returns
  intro mandatorySensor
  apply isServiceActive_returns
  intro gpio
  apply isServiceActive_returns
  intro ipmi
  exact returned _

end Watch

/-- The sensors that the alarm loop looks at. -/
def Sensors.watched (sensors : Sensors) : List String :=
  sensors.listed temperatureStub ++ sensors.listed voltageStub

/-- A turn of the alarm loop finds an alarm when one of its two scans does. -/
theorem scanAlarms_outcome (sensors : Sensors) (other : Environment interface) (manager : Manager)
    (position : Nat) :
    (scanAlarms.run (sensors.environment other) manager position).outcome = .value
      (sensors.verdict false (sensors.listed temperatureStub) ||
        sensors.verdict false (sensors.listed voltageStub)) := by
  have returns : scanAlarms.rely sensors.Answers (.returns fun found _ => found =
      (sensors.verdict false (sensors.listed temperatureStub) ||
        sensors.verdict false (sensors.listed voltageStub))) manager := by
    rw [scanAlarms, rely_bind]
    apply watchServices_returns
    intro watched
    apply rely_then (scanStub_verdict temperatureStub)
    rintro temp scanned rfl
    apply rely_then (scanStub_verdict voltageStub)
    rintro voltage scanned rfl
    rfl
  exact Sensors.sound_returns returns other position

/-- A raised sensor settles the pass when its value can be read, or when no sensor with readable
flags follows it in its class. -/
def Sensors.Settled (sensors : Sensors) : Prop :=
  (∃ path ∈ sensors.watched, sensors.raised path = true ∧ (sensors.value path).isSome = true) ∨
    ∃ stub ∈ [temperatureStub, voltageStub],
      ((sensors.lastRead (sensors.listed stub)).map sensors.raised).getD false = true

/-- The last sensor with readable flags is one of the sensors. -/
theorem Sensors.lastRead_raised {sensors : Sensors} {paths : List String}
    (last : ((sensors.lastRead paths).map sensors.raised).getD false = true) :
    ∃ path ∈ paths, sensors.raised path = true := by
  cases found : sensors.lastRead paths with
  | none =>
      rw [found] at last
      cases last
  | some path =>
      rw [found] at last
      exact ⟨path, (List.mem_filter.mp (List.mem_of_getLast? found)).1, last⟩

/-- A pass finds an alarm when a raised sensor settles it. -/
theorem scanAlarms_settled (sensors : Sensors) (other : Environment interface) (manager : Manager)
    (position : Nat) :
    (scanAlarms.run (sensors.environment other) manager position).outcome = .value true ↔
      sensors.Settled := by
  rw [scanAlarms_outcome, Outcome.value.injEq, Bool.or_eq_true, Sensors.verdict_iff,
    Sensors.verdict_iff, Sensors.Settled, Sensors.watched]
  simp only [List.mem_append, List.mem_cons, List.not_mem_nil, or_false, or_and_right, exists_or,
    exists_eq_left]
  exact or_or_or_comm

/-- The alarm loop finds an alarm exactly when a sensor is raised, as long as a raised sensor settles
the pass. -/
theorem scanAlarms_iff (sensors : Sensors) (other : Environment interface) (manager : Manager)
    (position : Nat) :
    ((scanAlarms.run (sensors.environment other) manager position).outcome = .value true ↔
        ∃ path ∈ sensors.watched, sensors.raised path = true) ↔
      ((∃ path ∈ sensors.watched, sensors.raised path = true) → sensors.Settled) := by
  rw [scanAlarms_settled]
  have sound : sensors.Settled → ∃ path ∈ sensors.watched, sensors.raised path = true := by
    rintro (⟨path, watched, raised, -⟩ | ⟨stub, member, last⟩)
    · exact ⟨path, watched, raised⟩
    · obtain ⟨path, listed, raised⟩ := Sensors.lastRead_raised last
      refine ⟨path, ?_, raised⟩
      rw [Sensors.watched, List.mem_append]
      simp only [List.mem_cons, List.not_mem_nil, or_false] at member
      rcases member with rfl | rfl
      · exact Or.inl listed
      · exact Or.inr listed
  exact ⟨fun same raised => same.mpr raised, fun settles => ⟨sound, settles⟩⟩

def firstSensor : String := temperatureStub ++ "/tmp0"
def secondSensor : String := temperatureStub ++ "/tmp1"

/-- The first sensor is too hot and does not give its value, and the second one is in its limits. -/
def mutedSensors : Sensors where
  paths stub := some (if stub = temperatureStub then [firstSensor, secondSensor] else [])
  flag path property := some (path == firstSensor && property == "CriticalAlarmHigh")
  value path := if path = firstSensor then none else some 20

/-- The second sensor takes back the alarm of the first one. -/
theorem alarm_taken_back : ¬∀ (sensors : Sensors) (other : Environment interface)
    (manager : Manager) (position : Nat),
      (scanAlarms.run (sensors.environment other) manager position).outcome = .value true ↔
        ∃ path ∈ sensors.watched, sensors.raised path = true := by
  intro always
  have listed : firstSensor ∈ mutedSensors.watched := by decide +kernel
  have raised : mutedSensors.raised firstSensor = true := by decide +kernel
  have found := (always mutedSensors (fun _ => default) (Manager.construct .null fun _ => default)
    0).mpr ⟨firstSensor, listed, raised⟩
  rw [scanAlarms_outcome] at found
  have none : (mutedSensors.verdict false (mutedSensors.listed temperatureStub) ||
      mutedSensors.verdict false (mutedSensors.listed voltageStub)) = false := by decide +kernel
  rw [none] at found
  cases found

end Chassis.Alarm
