import Chassis.Proof.Manager.Fan

namespace Chassis.Vita4611
open Effect Automaton

variable {system after : FanSystem} {event : FanEvent}

/-- A step of the concrete system is a step of its view. -/
theorem view_step (taken : system.step event = some after) :
    system.view.step event = some after.view := by
  rw [← step_view, taken, Option.map_some]

/-- Every unit call and every write of the PWM succeeds. -/
def obedient : Environment interface
  | _, .stopUnit => true
  | _, .startUnit => true
  | _, .setFanPwm _ => true
  | _, op => (default : op.Answer)

/-- A Set Fan Policy request disables local control for a timeout in units of five seconds. -/
abbrev disableFor (timeout : UInt8) : List UInt8 := [0x40, 0x2c, 0, 0x1c, 0, 0, timeout, 0, 0]

section Schedule

/-- A controller that a policy stopped has a restart scheduled. -/
def FanView.Scheduled (view : FanView) : Prop :=
  view.controller = .stopped .policy → view.pending = true

/-- While a policy keeps the controller stopped, a policy that disables it again has a timeout and
stops it again, and a policy that enables it and an expiry start it. -/
def FanEvent.Reschedules (view : FanView) (event : FanEvent) : Prop :=
  view.controller = .stopped .policy →
    match event with
    | .setFanPolicy reqdata environment => policyAccepted reqdata = true →
        if reqdata.getD 5 0 ≠ 0 then startSucceeds environment = true
        else reqdata.getD 6 0 ≠ 0 ∧ stopSucceeds environment = true
    | .setFanLevel _ _ => True
    | .expire environment => startSucceeds environment = true

theorem setFanPolicy_scheduled_iff {view : FanView} (scheduled : view.Scheduled)
    (reqdata : List UInt8) (environment : Environment interface) :
    (view.setFanPolicy reqdata environment).Scheduled ↔
      (FanEvent.setFanPolicy reqdata environment).Reschedules view := by
  unfold FanView.setFanPolicy FanEvent.Reschedules FanView.Scheduled
  by_cases accepted : policyAccepted reqdata = true
  · by_cases disabled : reqdata.getD 5 0 = 0
    · by_cases zero : reqdata.getD 6 0 = 0
      · simp [-List.getD_eq_getElem?_getD, accepted, disabled, zero]
      · cases stopped : stopSucceeds environment <;>
          simp [-List.getD_eq_getElem?_getD, accepted, disabled, zero, stopped]
    · cases started : startSucceeds environment <;>
        simp [-List.getD_eq_getElem?_getD, accepted, disabled, started]
  · simp only [accepted]
    exact ⟨fun _ _ => nofun, fun _ => scheduled⟩

/-- The level command touches no timer and blames no policy. -/
theorem setFanLevel_scheduled {view : FanView} (scheduled : view.Scheduled)
    (reqdata : List UInt8) (environment : Environment interface) :
    (view.setFanLevel reqdata environment).Scheduled := by
  simp only [FanView.setFanLevel]
  split_ifs
  · exact scheduled
  · cases startSucceeds environment with
    | false => exact scheduled
    | true =>
        intro stopped
        cases stopped
  · intro stopped
    cases stopped
  · exact scheduled

theorem expire_scheduled_iff {view next : FanView} {environment : Environment interface}
    (expired : view.expire environment = some next) :
    next.Scheduled ↔ (FanEvent.expire environment).Reschedules view := by
  unfold FanView.expire at expired
  split_ifs at expired
  cases expired
  unfold FanEvent.Reschedules FanView.Scheduled
  cases started : startSucceeds environment <;> simp [started]

/-- A step keeps a restart scheduled exactly when it meets the condition. -/
theorem step_scheduled_iff {view next : FanView} (scheduled : view.Scheduled)
    (taken : view.step event = some next) : next.Scheduled ↔ event.Reschedules view := by
  cases event with
  | setFanPolicy reqdata environment =>
      cases taken
      exact setFanPolicy_scheduled_iff scheduled reqdata environment
  | setFanLevel reqdata environment =>
      cases taken
      exact ⟨fun _ _ => trivial, fun _ => setFanLevel_scheduled scheduled reqdata environment⟩
  | expire environment => exact expire_scheduled_iff taken

/-- Along every run whose steps meet the condition a controller that a policy stopped has a restart
scheduled, and the next step keeps it so exactly when it meets the condition. -/
theorem fan_restart_scheduled (manager : ChassisManager)
    (reach : Reach FanSystem.step (fun system event => event.Reschedules system.view)
      (.initial manager) system) :
    (system.controller = .stopped .policy → system.pending = true) ∧
      ∀ event after, system.step event = some after →
        ((after.controller = .stopped .policy → after.pending = true) ↔
          event.Reschedules system.view) := by
  have scheduled : system.view.Scheduled :=
    reach.invariant (fun system => system.view.Scheduled) nofun
      fun _ _ _ scheduled met taken => (step_scheduled_iff scheduled (view_step taken)).mpr met
  exact ⟨scheduled, fun event after taken => step_scheduled_iff scheduled (view_step taken)⟩

/-- A policy that stops the controller for ten seconds leaves a restart scheduled. -/
theorem fan_restart_scheduled_disabled :
    ∃ system,
      FanSystem.step (.initial default) (.setFanPolicy (disableFor 2) obedient) = some system ∧
      system.controller = .stopped .policy ∧ system.pending = true :=
  ⟨_, rfl, by decide +kernel, (fan_restart_scheduled default (.next .start (by exact nofun)
    (show FanSystem.step _ (.setFanPolicy (disableFor 2) obedient) = some _ from rfl))).1
    (by decide +kernel)⟩

/-- A second policy with a timeout of zero cancels the restart and starts nothing. -/
theorem setFanPolicy_strands_fans :
    ∃ system, run FanSystem.step (.initial default)
        [.setFanPolicy (disableFor 2) obedient, .setFanPolicy (disableFor 0) obedient] = some system ∧
      system.controller = .stopped .policy ∧ system.pending = false :=
  ⟨_, rfl, by decide +kernel, by decide +kernel⟩

end Schedule

section Level

/-- A commanded level stays in force as long as the controller is stopped and the PWM is kept. -/
def FanView.Held (view : FanView) : Prop :=
  ∀ target, view.level = some target → view.controller ≠ .running ∧ view.pwm = some target

/-- No restart waits while a level is in force. -/
def FanView.Calm (view : FanView) : Prop := view.level.isSome → view.pending = false

/-- No restart waits when a level takes force, and none is scheduled while it is in force. -/
def FanEvent.Undisturbed (view : FanView) : FanEvent → Prop
  | .setFanLevel reqdata environment => levelSet reqdata environment = true → view.pending = false
  | .setFanPolicy reqdata environment => view.level.isSome → policyAccepted reqdata = true →
      reqdata.getD 5 0 = 0 → reqdata.getD 6 0 ≠ 0 → stopSucceeds environment = false
  | .expire _ => True

theorem setFanPolicy_held {view : FanView} (held : view.Held) (reqdata : List UInt8)
    (environment : Environment interface) : (view.setFanPolicy reqdata environment).Held := by
  unfold FanView.setFanPolicy
  split_ifs
  · exact fun _ => nofun
  · exact held
  · intro target level
    refine ⟨?_, (held target level).2⟩
    cases stopSucceeds environment with
    | false => exact (held target level).1
    | true => exact nofun
  · exact held

theorem setFanLevel_held {view : FanView} (held : view.Held) (reqdata : List UInt8)
    (environment : Environment interface) : (view.setFanLevel reqdata environment).Held := by
  simp only [FanView.setFanLevel]
  split_ifs
  · exact held
  · intro target level
    cases level
  · intro target level
    refine ⟨by simp, ?_⟩
    cases written : pwmSucceeds environment (reqdata.getD 5 0).toUInt64 with
    | false =>
        rw [written] at level
        exact (held target level).2
    | true =>
        rw [written] at level
        exact level
  · exact held

/-- An expiry that starts the controller ends every level. -/
theorem step_held {view next : FanView} (held : view.Held) (calm : view.Calm)
    (taken : view.step event = some next) : next.Held := by
  cases event with
  | setFanPolicy reqdata environment =>
      cases taken
      exact setFanPolicy_held held reqdata environment
  | setFanLevel reqdata environment =>
      cases taken
      exact setFanLevel_held held reqdata environment
  | expire environment =>
      simp only [FanView.step, FanView.expire] at taken
      split_ifs at taken with pending
      cases taken
      intro target level
      have quiet := calm (by rw [show view.level = some target from level]; rfl)
      rw [pending] at quiet
      cases quiet

/-- A waiting restart is what can end a level without a command. -/
theorem calm_iff {view : FanView} (held : view.Held) :
    view.Calm ↔ ∀ environment next, view.expire environment = some next → next.Held := by
  refine ⟨fun calm environment next expired => ?_, fun kept level => ?_⟩
  · have taken : view.step (.expire environment) = some next := expired
    exact step_held held calm taken
  · obtain ⟨target, level⟩ := Option.isSome_iff_exists.mp level
    by_contra pending
    have pending : view.pending = true := Bool.not_eq_false _ ▸ pending
    have running := (kept obedient _ (if_pos pending) target level).1
    exact running rfl

theorem setFanPolicy_calm_iff {view : FanView} (calm : view.Calm) (reqdata : List UInt8)
    (environment : Environment interface) :
    (view.setFanPolicy reqdata environment).Calm ↔
      (FanEvent.setFanPolicy reqdata environment).Undisturbed view := by
  unfold FanView.setFanPolicy FanEvent.Undisturbed
  split_ifs with accepted enabled zero
  · exact ⟨fun _ _ _ disabled => absurd disabled enabled, fun _ => nofun⟩
  · exact ⟨fun _ _ _ _ nonzero => absurd zero nonzero, fun _ _ => rfl⟩
  · exact ⟨fun calm level _ _ _ => calm level,
      fun undisturbed level => undisturbed level accepted (not_not.mp enabled) zero⟩
  · exact ⟨fun _ _ admitted => absurd admitted accepted, fun _ => calm⟩

theorem setFanLevel_calm_iff {view : FanView} (calm : view.Calm) (reqdata : List UInt8)
    (environment : Environment interface) :
    (view.setFanLevel reqdata environment).Calm ↔
      (FanEvent.setFanLevel reqdata environment).Undisturbed view := by
  simp only [FanView.setFanLevel, FanEvent.Undisturbed, levelSet, decide_eq_true_eq]
  split_ifs with short enabled stopped
  · exact ⟨fun _ set => absurd set.1 (Nat.not_le.mpr short), fun _ => calm⟩
  · exact ⟨fun _ set => absurd set.2.1 enabled, fun _ level => absurd level Bool.false_ne_true⟩
  · cases written : pwmSucceeds environment (reqdata.getD 5 0).toUInt64 with
    | false => exact ⟨fun _ set => absurd set.2.2.2 Bool.false_ne_true, fun _ => calm⟩
    | true =>
        exact ⟨fun calm _ => calm rfl, fun undisturbed _ =>
          undisturbed ⟨Nat.le_of_not_lt short, not_not.mp enabled, stopped, rfl⟩⟩
  · exact ⟨fun _ set => absurd set.2.2.1 stopped, fun _ => calm⟩

/-- A step schedules no restart against a level exactly when it meets the condition. -/
theorem step_calm_iff {view next : FanView} (calm : view.Calm)
    (taken : view.step event = some next) : next.Calm ↔ event.Undisturbed view := by
  cases event with
  | setFanPolicy reqdata environment =>
      cases taken
      exact setFanPolicy_calm_iff calm reqdata environment
  | setFanLevel reqdata environment =>
      cases taken
      exact setFanLevel_calm_iff calm reqdata environment
  | expire environment =>
      simp only [FanView.step, FanView.expire] at taken
      split_ifs at taken
      cases taken
      exact ⟨fun _ => trivial, fun _ _ => rfl⟩

/-- An expiry of the concrete system is an expiry of its view. -/
theorem expire_held_iff (system : FanSystem) :
    (∀ environment after, system.step (.expire environment) = some after → after.view.Held) ↔
      ∀ environment next, system.view.expire environment = some next → next.Held := by
  refine forall_congr' fun environment => ⟨fun kept next expired => ?_, fun kept after taken => ?_⟩
  · rw [← expire_view] at expired
    obtain ⟨after, taken, rfl⟩ := Option.map_eq_some_iff.mp expired
    exact kept after taken
  · exact kept after.view (view_step taken)

/-- Along every run whose steps meet the condition a level stays in force, and no expiry ends it
after the next step exactly when that step meets the condition. -/
theorem fan_level_held (manager : ChassisManager)
    (reach : Reach FanSystem.step (fun system event => event.Undisturbed system.view)
      (.initial manager) system) :
    system.view.Held ∧
      ∀ event after, system.step event = some after → after.view.Held ∧
        ((∀ environment later, after.step (.expire environment) = some later → later.view.Held) ↔
          event.Undisturbed system.view) := by
  have kept : system.view.Held ∧ system.view.Calm :=
    reach.invariant (fun system => system.view.Held ∧ system.view.Calm) ⟨fun _ => nofun, nofun⟩
      fun _ _ _ kept met taken => ⟨step_held kept.1 kept.2 (view_step taken),
        (step_calm_iff kept.2 (view_step taken)).mpr met⟩
  refine ⟨kept.1, fun event after taken => ?_⟩
  have held := step_held kept.1 kept.2 (view_step taken)
  exact ⟨held, (expire_held_iff after).trans
    ((calm_iff held).symm.trans (step_calm_iff kept.2 (view_step taken)))⟩

/-- A Set Fan Level request takes local control away at level 50. -/
abbrev setLevel : List UInt8 := [0x40, 0x2c, 0, 0x15, 0, 50, 0]

/-- No timer is pending when the level takes force. -/
theorem fan_level_held_set :
    ∃ system, FanSystem.step (.initial default) (.setFanLevel setLevel obedient) = some system ∧
      system.level = some 50 ∧ system.controller ≠ .running ∧ system.pwm = some 50 :=
  ⟨_, rfl, by decide +kernel, (fan_level_held default (.next .start (by exact fun _ => rfl)
    (show FanSystem.step _ (.setFanLevel setLevel obedient) = some _ from rfl))).1 50
    (by decide +kernel)⟩

/-- The timer of an earlier policy starts the controller against the commanded level. -/
theorem fanRestartCallback_ends_level :
    ∃ system, run FanSystem.step (.initial default)
        [.setFanPolicy (disableFor 1) obedient, .setFanLevel setLevel obedient,
          .expire obedient] = some system ∧
      system.level = some 50 ∧ system.controller = .running :=
  ⟨_, rfl, by decide +kernel, by decide +kernel⟩

end Level

end Chassis.Vita4611
