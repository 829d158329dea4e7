import Chassis.Proof.Boot.Order

namespace Chassis.Boot
open Effect Contract Json Monitor Automaton

/-- The lines that the constructor declares. -/
def Manager.lines (manager : Manager) : List GpioInfo :=
  [manager.sysreset, manager.psEnable, manager.switchGpio, manager.alarmGpio]

/-- What a shutdown promises of all calls made so far. -/
structure Manager.ShutDown (manager : Manager) (calls : List (Call interface Manager)) : Prop where
  psEnable : ∃ call ∈ calls, Drove manager.psEnable.chip manager.psEnable.line 0 call
  alarmGpio : ∃ call ∈ calls, Drove manager.alarmGpio.chip manager.alarmGpio.line 1 call
  inputs : ∀ gpio ∈ manager.lines, gpio.input = true → ∀ call ∈ calls, ∀ value,
    call.op ≠ .requestOutput gpio.chip gpio.line value

/-- Line 11 of chip 0, the alarm, is never driven. -/
def silentAlarm (limitJson : Value ℚ) : Contract interface Manager Label where
  shared := Manager.Wired limitJson
  allowed _ op := ∀ value, op ≠ .requestOutput 0 11 value
  entered _ _ := True
  returned _ := True

theorem silentAlarm_rules (limitJson : Value ℚ) : BootRules limitJson (silentAlarm limitJson) where
  shared := rfl
  ordinary := by
    intro _ op plain value same
    subst same
    cases plain
  psEnable := nofun
  switchGpio := nofun
  sysreset := nofun
  append _ _ _ _ := trivial
  switchOn _ _ _ _ := trivial
  fanController _ _ _ _ := trivial
  psEnabled _ _ _ _ := trivial
  nominal _ _ _ _ := trivial
  idle _ := trivial
  logThread _ _ := trivial
  watchAlarms _ := trivial
  scanAlarms _ := trivial
  watchGpios _ := trivial
  returned _ := trivial

/-- All calls that the workers of a process have made. -/
def calls (process : Process) : List (Call interface Manager) :=
  process.workers.flatMap Worker.history

theorem alarm_never_driven (limitJson : Value ℚ) (junk : Rail → AdcElement) {process : Process}
    (reach : Reachable step (boot (Manager.construct limitJson junk)) process)
    {call : Call interface Manager} (made : call ∈ calls process) (value : Int) :
    call.op ≠ .requestOutput 0 11 value := by
  have holds : (silentAlarm limitJson).Holds process :=
    holds_of_reachable (silentAlarm_rules limitJson).meets (construct_wired limitJson junk)
      (fun _ _ => trivial) reach
  obtain ⟨worker, member, made⟩ := List.mem_flatMap.mp made
  obtain ⟨earlier, later, split⟩ := List.append_of_mem made
  exact holds.lawful worker member earlier call later split value

/-- The function watch_alarms has returned in its thread. -/
def AlarmsReturned (process : Process) : Prop :=
  ∃ worker ∈ process.workers, worker.name = .watchAlarms ∧ worker.returned = true

/-- No return of the alarm thread completes a shutdown, whatever the lines and the services do. -/
theorem watchAlarms_not_shutDown (limitJson : Value ℚ) (junk : Rail → AdcElement)
    {process : Process}
    (reach : Reachable step (boot (Manager.construct limitJson junk)) process)
    (_returned : AlarmsReturned process) :
    ¬ (Manager.construct limitJson junk).ShutDown (calls process) := by
  intro shutDown
  obtain ⟨call, made, state, rfl⟩ := shutDown.alarmGpio
  exact alarm_never_driven limitJson junk reach made 1 rfl

/-- In a run in which every call succeeds, the switch is driven in place of the alarm. -/
theorem promptRun_returns : ∃ process, promptRun 64 31 = some process ∧ AlarmsReturned process ∧
    ∃ call ∈ calls process, call.op = .requestOutput 0 6 1 := by
  have check : (promptRun 64 31).any (fun process =>
      (process.workers.any fun worker =>
        decide (worker.name = .watchAlarms) && worker.returned) &&
      (calls process).any fun call => decide (call.op = .requestOutput 0 6 1)) = true := by
    decide +kernel
  simpa only [AlarmsReturned, Option.any_eq_true, Bool.and_eq_true, List.any_eq_true,
    decide_eq_true_eq] using check

theorem watchAlarms_not_shutDown_prompt : ∃ process, AlarmsReturned process ∧
    ¬ (Manager.construct wideLimits fun _ => default).ShutDown (calls process) := by
  obtain ⟨process, ran, returned, _⟩ := promptRun_returns
  exact ⟨process, returned,
    watchAlarms_not_shutDown wideLimits _ (promptRun_reachable ran) returned⟩

theorem watchAlarms_shutDown_fails : ¬ ∀ (limitJson : Value ℚ) (junk : Rail → AdcElement)
    (process : Process), Reachable step (boot (Manager.construct limitJson junk)) process →
      AlarmsReturned process → (Manager.construct limitJson junk).ShutDown (calls process) := by
  intro always
  obtain ⟨process, ran, returned, call, made, driven⟩ := promptRun_returns
  have shutDown := always wideLimits (fun _ => default) process (promptRun_reachable ran) returned
  exact shutDown.inputs (Manager.construct wideLimits fun _ => default).switchGpio (by decide) rfl
    call made 1 driven

end Chassis.Boot
