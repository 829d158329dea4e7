import Chassis.Proof.Manager.SdrReread
import Chassis.Proof.Memory.Commands

namespace Chassis.Vita4611
open Effect Program

section Polls

variable [Libm] {known : Known} {stored : Stored} {first second : ChassisManager}

/-- A poll leaves the managers alike, and an exception of a poll ends the process. -/
def Polled (stored : Stored) (known : Known) : Ends Known ChassisManager Unit :=
  ⟨fun now value value' first second => value = value' ∧ Serving stored known now first second, lost⟩

theorem pollDeviceSensors_twin (alike : ManagerAlike stored known.told first second) :
    twin memoryWatch pollDeviceSensors pollDeviceSensors (Polled stored known) known first second := by
  have initial : ∀ key ∈ allKeys, ∀ device, first.deviceMap key = some (some device) → True :=
    fun _ _ _ _ => trivial
  refine forEachDevice_twin allKeys_nodup alike initial ?_
  intro key device device' _ owned
  exact getAllSensorReadings_lockstep _ _ _ ⟨rfl, owned⟩

/-- Whether a device is asked for changes is the same once its flag is stored. -/
theorem pollSdrs_twin (polls : known.phase = .polling)
    (alike : ManagerAlike stored known.told first second)
    (dynamic : ∀ key device, first.deviceMap key = some (some device) →
      (known.told device.ipmiAddress).dynamic = true) :
    twin memoryWatch pollSdrs pollSdrs (Polled stored known) known first second := by
  refine forEachDevice_twin allKeys_nodup alike (fun key _ => dynamic key) ?_
  intro key device device' dynamic owned
  apply twin_read
  rw [owned.dynamic dynamic]
  refine twin_ite (fun _ => ?_) fun _ => twin_pure ⟨rfl, rfl, owned⟩
  refine twin_mono (checkSdrInfo_lockstep polls known device device'
    ⟨_, (known.put_self _).symm, fun _ => rfl, owned⟩) ?_ fun _ _ _ _ => trivial
  rintro _ _ _ after after' ⟨same, told, rfl, silent, alike⟩
  obtain rfl := silent (by simp [polls])
  exact ⟨same, known.put_self _, alike⟩

end Polls

section Operations

variable {known : Known} {stored : Stored} {told : UInt8 → Told} {first second : ChassisManager}
  {operation : Operation}

/-- The calls of an operation are those of its part of the run. -/
def Operation.phase : Operation → Phase
  | .passthrough reqdata => passthroughPhase reqdata
  | .pollDeviceSensors => .polling
  | .pollSdrs => .polling

/-- Only commands store something that is answered later. -/
def Stored.next (stored : Stored) (manager : ChassisManager) : Operation → Stored
  | .passthrough reqdata => stored.request manager reqdata
  | .pollDeviceSensors => stored
  | .pollSdrs => stored

/-- An operation reads nothing that is not stored. -/
def Operation.Determined (stored : Stored) (told : UInt8 → Told) (manager : ChassisManager) :
    Operation → Prop
  | .passthrough reqdata => Dispatched manager reqdata → reqdata.getD 1 0 = netfnVita4611 →
      Vita4611.Determined stored manager reqdata (reqdata.getD 3 0)
  | .pollDeviceSensors => True
  | .pollSdrs => ∀ key device, manager.deviceMap key = some (some device) →
      (told device.ipmiAddress).dynamic = true

instance (stored : Stored) (told : UInt8 → Told) (manager : ChassisManager) :
    (operation : Operation) → Decidable (operation.Determined stored told manager)
  | .passthrough _ => inferInstanceAs (Decidable (_ → _ → Vita4611.Determined ..))
  | .pollDeviceSensors => isTrue trivial
  | .pollSdrs => decidableDevices manager fun device => (told device.ipmiAddress).dynamic = true

/-- Both runs of an operation answer the same, and an exception ends at most a poll. -/
theorem operation_twin [Libm] (phase : known.phase = operation.phase)
    (alike : ManagerAlike stored known.told first second)
    (determined : operation.Determined stored known.told first) :
    twin memoryWatch operation.program operation.program
      ⟨fun now value value' after after' => value = value' ∧
        Serving (stored.next first operation) known now after after',
        fun _ _ _ => operation.caught = false⟩ known first second := by
  cases operation with
  | passthrough reqdata =>
      apply twin_bind
      refine twin_mono (executePassthroughCmd_twin phase alike determined) ?_
        fun _ _ _ never => never.elim
      rintro _ answer _ _ _ ⟨rfl, related⟩
      exact twin_pure ⟨rfl, related⟩
  | pollDeviceSensors =>
      apply twin_bind
      refine twin_mono (pollDeviceSensors_twin alike) ?_ fun _ _ _ _ => rfl
      rintro _ _ _ _ _ ⟨_, related⟩
      exact twin_pure ⟨rfl, related⟩
  | pollSdrs =>
      apply twin_bind
      refine twin_mono (pollSdrs_twin phase alike determined) ?_ fun _ _ _ _ => rfl
      rintro _ _ _ _ _ ⟨_, related⟩
      exact twin_pure ⟨rfl, related⟩

end Operations

section Sessions

/-- The objects that the manager publishes, with their values. -/
def ChassisManager.published (manager : ChassisManager) : List (List (Option SensorIface)) :=
  allKeys.map fun key =>
    match manager.deviceMap key with
    | some (some device) => device.fruinfo.sensors.map SensorRecord.sensorIface
    | _ => []

/-- What the host, the modules and the bus see of a part of a session. -/
structure Shown where
  calls : List Op
  reply : Option RspType
  ending : Option Ending
  published : List (List (Option SensorIface))

/-- The objects of a process disappear with it. -/
def shown {Value : Type} (reply : Value → Option RspType) (caught : Bool)
    (run : Run interface ChassisManager Value) : Shown where
  calls := run.ops
  reply :=
    match run.outcome with
    | .value value => reply value
    | _ => none
  ending := endingOf caught run.outcome
  published := if (endingOf caught run.outcome).isSome then [] else run.state.published

/-- A manager is started, and then the events happen in order. What uninitialised objects and locals
hold is part of the answers. -/
structure Session where
  environment : Environment interface
  events : List Event

variable [Libm]

def Session.started (session : Session) : Run interface ChassisManager Unit :=
  ChassisManager.constructed session.environment

def Session.system (session : Session) : System :=
  ⟨session.started.state, endingOf false session.started.outcome⟩

def showsFrom : System → List Event → List Shown
  | _, [] => []
  | system, event :: rest =>
      match system.step event with
      | none => []
      | some next =>
          shown id event.operation.caught (event.run system.manager) :: showsFrom next rest

def Session.shows (session : Session) : List Shown :=
  shown (fun _ => none) false session.started :: showsFrom session.system session.events

/-- The same operations meet the same answers. -/
def EventAlike (first second : Event) : Prop :=
  first.operation = second.operation ∧ memoryWatch.Agree first.environment second.environment

/-- Two sessions differ only in the contents of uninitialised memory. -/
structure Session.Alike (first second : Session) : Prop where
  start : memoryWatch.Agree first.environment second.environment
  events : List.Forall₂ EventAlike first.events second.events

/-- Every operation reads only what is stored, and the answers to it are sound. -/
def SoundFrom (told : UInt8 → Told) : Stored → System → List Event → Prop
  | _, _, [] => True
  | stored, system, event :: rest =>
      match system.step event with
      | none => True
      | some next =>
          event.operation.Determined stored told system.manager ∧
            memoryWatch.Clean ⟨event.operation.phase, told⟩ (event.run system.manager).exchanges ∧
              SoundFrom told (stored.next system.manager event.operation) next rest

/-- The conditions are checked event by event. -/
instance decidableSoundFrom (told : UInt8 → Told) :
    (stored : Stored) → (system : System) → (events : List Event) →
      Decidable (SoundFrom told stored system events)
  | _, _, [] => isTrue trivial
  | stored, system, event :: rest =>
      match stepped : system.step event with
      | none => isTrue (by rw [SoundFrom, stepped]; trivial)
      | some next =>
          have := decidableSoundFrom told (stored.next system.manager event.operation) next rest
          decidable_of_iff (event.operation.Determined stored told system.manager ∧
            memoryWatch.Clean ⟨event.operation.phase, told⟩ (event.run system.manager).exchanges ∧
              SoundFrom told (stored.next system.manager event.operation) next rest)
            (by rw [SoundFrom, stepped])

structure Session.Sound (session : Session) : Prop where
  start : SoundStart session.environment
  events : SoundFrom (memoryWatch.after .fresh session.started.exchanges).told .nothing
    session.system session.events

omit [Libm] in
/-- Alike managers publish the same objects. -/
theorem published_eq {stored : Stored} {told : UInt8 → Told} {first second : ChassisManager}
    (alike : ManagerAlike stored told first second) : first.published = second.published := by
  apply List.map_congr_left
  intro key _
  have pair := alike.devices key
  generalize first.deviceMap key = slot at pair ⊢
  generalize second.deviceMap key = slot' at pair ⊢
  cases pair with
  | none => rfl
  | some owned =>
      cases owned with
      | none => rfl
      | some owned => exact Data.map_eq_of_forall₂ owned.sensors fun _ _ pair => pair.iface

section Parts

variable {Value : Type} {reply : Value → Option RspType} {caught : Bool} {known : Known}
  {run run' : Run interface ChassisManager Value} {ends : Ends Known ChassisManager Value}

omit [Libm] in
/-- Two runs that end alike show the same. -/
theorem shown_eq (same : run.ops = run'.ops)
    (ended : ends.Hold known run.state run'.state run.outcome run'.outcome)
    (values : ∀ known value value' first second, ends.value known value value' first second →
      value = value' ∧ ∃ stored, ManagerAlike stored known.told first second)
    (exceptions : ∀ known first second, ends.thrown known first second → caught = false) :
    shown reply caught run = shown reply caught run' := by
  rcases run with ⟨outcome, state, calls⟩
  rcases run' with ⟨outcome', state', calls'⟩
  unfold shown
  dsimp only at ended ⊢
  rw [same]
  cases ended with
  | value related =>
      obtain ⟨rfl, stored, alike⟩ := values _ _ _ _ _ related
      rw [published_eq alike]
  | thrown exception related =>
      rw [exceptions _ _ _ related]
      rfl
  | fault reason => rfl

omit [Libm] in
theorem endingOf_eq {state state' : ChassisManager} {outcome outcome' : Outcome interface Value}
    (ended : ends.Hold known state state' outcome outcome') :
    endingOf caught outcome = endingOf caught outcome' := by
  cases ended <;> rfl

omit [Libm] in
/-- A process that goes on has returned a value or caught its exception. -/
theorem value_of_running {state state' : ChassisManager} {outcome outcome' : Outcome interface Value}
    (ended : ends.Hold known state state' outcome outcome') (running : endingOf caught outcome = none)
    (exceptions : ∀ known first second, ends.thrown known first second → caught = false) :
    ∃ value value', ends.value known value value' state state' := by
  cases ended with
  | value related => exact ⟨_, _, related⟩
  | thrown exception related =>
      rw [exceptions _ _ _ related] at running
      cases running
  | fault reason => cases running

end Parts

/-- A running process shows the same in both sessions, step after step. -/
theorem showsFrom_eq {told : UInt8 → Told} {events events' : List Event}
    (pairs : List.Forall₂ EventAlike events events') {stored : Stored} {system system' : System}
    (endings : system.ending = system'.ending)
    (alike : system.ending = none → ManagerAlike stored told system.manager system'.manager)
    (sound : SoundFrom told stored system events) :
    showsFrom system events = showsFrom system' events' := by
  induction pairs generalizing stored system system' with
  | nil => rfl
  | @cons event event' rest rest' pair _ ih =>
      obtain ⟨operation, agree⟩ := pair
      rw [showsFrom, showsFrom]
      rw [SoundFrom] at sound
      unfold System.step at sound ⊢
      rw [← endings]
      cases ended : system.ending with
      | some ending => simp
      | none =>
          rw [ended] at sound
          have start := alike ended
          obtain ⟨determined, clean, later⟩ := sound
          have phase : (⟨event.operation.phase, told⟩ : Known).phase = event.operation.phase := rfl
          obtain ⟨same, hold⟩ := operation_twin phase start determined event.environment
            event'.environment agree 0 clean
          have moved : event'.run system'.manager =
              event.operation.program.run event'.environment system'.manager 0 := by
            rw [Event.run, operation]
          change shown id event.operation.caught (event.run system.manager) :: showsFrom
            ⟨(event.run system.manager).state,
              endingOf event.operation.caught (event.run system.manager).outcome⟩ rest =
            shown id event'.operation.caught (event'.run system'.manager) :: showsFrom
              ⟨(event'.run system'.manager).state,
                endingOf event'.operation.caught (event'.run system'.manager).outcome⟩ rest'
          rw [moved, ← operation]
          refine congrArg₂ List.cons ?_ (ih (endingOf_eq hold) (fun running => ?_) later)
          · refine shown_eq same hold ?_ fun _ _ _ caught => caught
            rintro _ _ _ _ _ ⟨replies, rfl, alike⟩
            exact ⟨replies, _, alike⟩
          · obtain ⟨_, _, _, _, alike⟩ := value_of_running hold running fun _ _ _ caught => caught
            exact alike

end Sessions

section Module

/-- The module with a temperature sensor answers, and this stands in uninitialised memory. -/
def remembering (junk : Indeterminate) : Environment interface := fun position op =>
  match op with
  | .indeterminate => junk
  | op => temperatureModule position op

theorem remembering_agree (junk junk' : Indeterminate) :
    memoryWatch.Agree (remembering junk) (remembering junk') := by
  intro position op determinate
  cases op with
  | indeterminate => exact absurd rfl determinate
  | _ => rfl

/-- A byte stands in the locals and in the policy of every new device. -/
def filledWith (byte : UInt8) : Indeterminate :=
  { (default : Indeterminate) with
    byte := byte
    device := { (default : Vita4611Device) with fruActivationPolicy := byte } }

/-- The host and the timers act on a manager with one module. -/
def moduleSession (byte : UInt8) (operations : List Operation) : Session where
  environment := remembering (filledWith byte)
  events := operations.map fun operation => ⟨operation, remembering (filledWith byte)⟩

theorem moduleSession_alike (byte byte' : UInt8) (operations : List Operation) :
    (moduleSession byte operations).Alike (moduleSession byte' operations) where
  start := remembering_agree _ _
  events := by
    simp only [moduleSession, List.forall₂_map_left_iff, List.forall₂_map_right_iff]
    exact List.forall₂_same.mpr fun _ _ => ⟨rfl, remembering_agree _ _⟩

def getModulePolicy : Operation := .passthrough [0x40, 0x2c, 0, 0x0b, 1]

/-- The policy of the module is stored. -/
def setModulePolicy : Operation := .passthrough [0x40, 0x2c, 0, 0x0a, 1, 3, 1]

end Module

end Chassis.Vita4611
