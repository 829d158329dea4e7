import Chassis.Proof.Boot.Rules

namespace Chassis.Boot
open Effect Contract Json Monitor Automaton

/-- The steps of the boot sequence, in their order and in one thread: the switch, the fan
controller, the power supplies, and then one complete pass over the rails. -/
def Ordered (found : Rail → List (Call interface Manager) → Prop)
    (history : List (Call interface Manager)) : Prop :=
  ∃ front pass back switch fanController psEnable, history = front ++ List.flatten pass ++ back ∧
    [switch, fanController, psEnable].Sublist front ∧ SwitchOn switch ∧
    Active fanControllerService fanController ∧ Drove 2 3 1 psEnable ∧
    List.Forall₂ found rails pass

/-- The pass of the boot sequence has read each rail strictly between its limits. -/
def Booted (limitJson : Value ℚ) : List (Call interface Manager) → Prop :=
  Ordered (Nominal limitJson)

/-- What main has done when it enters a label. -/
def Entered (limitJson : Value ℚ) : Label → List (Call interface Manager) → Prop
  | .getFanControllerStatus, history => ∃ switch, [switch].Sublist history ∧ SwitchOn switch
  | .setPs, history => ∃ switch fanController, [switch, fanController].Sublist history ∧
      SwitchOn switch ∧ Active fanControllerService fanController
  | .updateReadings, history => ∃ switch fanController psEnable,
      [switch, fanController, psEnable].Sublist history ∧ SwitchOn switch ∧
      Active fanControllerService fanController ∧ Drove 2 3 1 psEnable
  | .setSr, history => Ordered (Compared limitJson) history
  | _, _ => True

/-- Line 0 of chip 1, the system reset, is driven only after the boot sequence, whose comparisons have
found the voltages in the elements within the limits. -/
def bootOrder (limitJson : Value ℚ) : Contract interface Manager Label where
  shared := Manager.Wired limitJson
  allowed history op := ∀ value, op = .requestOutput 1 0 value →
    Ordered (Compared limitJson) history
  entered := Entered limitJson
  returned _ := True

section Order

variable {limitJson : Value ℚ} {history : List (Call interface Manager)}

theorem Ordered.append {found : Rail → List (Call interface Manager) → Prop}
    (ordered : Ordered found history) (more : List (Call interface Manager)) :
    Ordered found (history ++ more) := by
  obtain ⟨front, pass, back, switch, fanController, psEnable, rfl, rest⟩ := ordered
  exact ⟨front, pass, back ++ more, switch, fanController, psEnable, by simp, rest⟩

/-- Each label keeps what was done before. -/
theorem Entered.append {label : Label} (entered : Entered limitJson label history)
    (more : List (Call interface Manager)) : Entered limitJson label (history ++ more) := by
  cases label with
  | getFanControllerStatus =>
      obtain ⟨switch, done, rest⟩ := entered
      exact ⟨switch, done.trans (List.sublist_append_left _ _), rest⟩
  | setPs =>
      obtain ⟨switch, fanController, done, rest⟩ := entered
      exact ⟨switch, fanController, done.trans (List.sublist_append_left _ _), rest⟩
  | updateReadings =>
      obtain ⟨switch, fanController, psEnable, done, rest⟩ := entered
      exact ⟨switch, fanController, psEnable, done.trans (List.sublist_append_left _ _), rest⟩
  | setSr => exact Ordered.append entered more
  | _ => trivial

theorem bootOrder_rules (limitJson : Value ℚ) : BootRules limitJson (bootOrder limitJson) where
  shared := rfl
  ordinary := by
    intro _ op plain value same
    subst same
    cases plain
  psEnable := nofun
  switchGpio := nofun
  sysreset _ more ordered _ _ := Ordered.append ordered more
  append _ _ more entered := entered.append more
  switchOn := by
    intro history more _ seen
    obtain ⟨call, member, on⟩ := seen
    exact ⟨call, (List.singleton_sublist.mpr member).trans (List.sublist_append_right _ _), on⟩
  fanController := by
    intro history more before seen
    obtain ⟨switch, done, on⟩ := before
    obtain ⟨call, member, active⟩ := seen
    exact ⟨switch, call, done.append (List.singleton_sublist.mpr member), on, active⟩
  psEnabled := by
    intro history more before seen
    obtain ⟨switch, fanController, done, on, active⟩ := before
    obtain ⟨call, member, drove⟩ := seen
    exact ⟨switch, fanController, call, done.append (List.singleton_sublist.mpr member), on, active,
      drove⟩
  nominal := by
    intro history more before swept
    obtain ⟨switch, fanController, psEnable, done, on, active, drove⟩ := before
    obtain ⟨pass, ⟨back, rfl⟩, passed⟩ := swept
    exact ⟨history, pass, back, switch, fanController, psEnable, by simp, done, on, active, drove,
      passed⟩
  idle _ := trivial
  logThread _ _ := trivial
  watchAlarms _ := trivial
  scanAlarms _ := trivial
  watchGpios _ := trivial
  returned _ := trivial

/-- The content that a call has read. -/
def contentOf : Call interface Manager → Option (List UInt8)
  | ⟨_, .readFile _, content⟩ => some content
  | _ => none

/-- The reading that a thread has taken last. -/
def lastReading (calls : List (Call interface Manager)) : Option Int :=
  (calls.filterMap contentOf).getLast?.bind stoi

theorem lastReading_read (front : List (Call interface Manager)) (read : Manager) (path : String)
    (content : List UInt8) {points : List (Call interface Manager)}
    (quiet : ∀ point ∈ points, contentOf point = none) :
    lastReading (front ++ ⟨read, .readFile path, content⟩ :: points) = stoi content := by
  have none := List.filterMap_eq_nil_iff.mpr quiet
  have one : (⟨read, .readFile path, content⟩ :: points : List (Call interface Manager)).filterMap
      contentOf = [content] := by
    rw [List.filterMap_cons, none]
    rfl
  rw [lastReading, List.filterMap_append, one, List.getLast?_concat]
  rfl

/-- The rail and the bound that a comparison is about. -/
def Op.comparison : Op → Option (Nat × Bound)
  | .compare index bound => some (index, bound)
  | _ => none

/-- A comparison in main, the thread that enables the power supplies, lets no voltage of another
thread pass where its own reading does not. -/
def Undisturbed (limitJson : Value ℚ) (earlier : List (Call interface Manager))
    (call : Call interface Manager) : Prop :=
  ∀ place ∈ call.op.comparison, (∃ set ∈ earlier, set.op = .requestOutput 2 3 1) →
    ∀ rail ∈ rails[place.1]?, ∀ raw ∈ lastReading earlier, ∀ adc ∈ call.state.adcs[place.1]?,
      Passes limitJson rail place.2 adc.vCurrent → Passes limitJson rail place.2 (rail.voltage raw)

instance (limitJson : Value ℚ) (earlier : List (Call interface Manager))
    (call : Call interface Manager) : Decidable (Undisturbed limitJson earlier call) :=
  inferInstanceAs (Decidable (∀ place ∈ call.op.comparison, _ → ∀ rail ∈ rails[place.1]?,
    ∀ raw ∈ lastReading earlier, ∀ adc ∈ call.state.adcs[place.1]?, _ → _))

/-- In an undisturbed turn the reading of the turn has passed both comparisons. -/
theorem nominal_of_compared {front turn : List (Call interface Manager)} {rail : Rail}
    (enabled : ∃ set ∈ front, set.op = .requestOutput 2 3 1)
    (undisturbed : Recorded (Undisturbed limitJson) (front ++ turn))
    (compared : Compared limitJson rail turn) : Nominal limitJson rail turn := by
  obtain ⟨index, content, raw, read, scale, above, below, present, converted, rfl,
    ⟨low, found, admitted⟩, high, found', admitted'⟩ := compared
  obtain ⟨set, member, drives⟩ := enabled
  refine ⟨index, content, raw, read, scale, above, below, present, converted, rfl, ?_, ?_⟩
  · have met := undisturbed (front ++ [⟨read, .readFile rail.path, content⟩,
      ⟨scale, .scale index, ()⟩]) ⟨above, .compare index .min, ()⟩
      [⟨below, .compare index .max, ()⟩] (by simp)
    refine met (index, .min) rfl ⟨set, List.mem_append_left _ member, drives⟩ rail present raw ?_ low
      found admitted
    rw [Option.mem_def, lastReading_read, converted]
    simp [contentOf]
  · have met := undisturbed (front ++ [⟨read, .readFile rail.path, content⟩,
      ⟨scale, .scale index, ()⟩, ⟨above, .compare index .min, ()⟩])
      ⟨below, .compare index .max, ()⟩ [] (by simp)
    refine met (index, .max) rfl ⟨set, List.mem_append_left _ member, drives⟩ rail present raw ?_ high
      found' admitted'
    rw [Option.mem_def, lastReading_read, converted]
    simp [contentOf]

/-- In an undisturbed pass each turn has found its own reading nominal. -/
theorem pass_nominal {front : List (Call interface Manager)} {chosen : List Rail}
    {pass : List (List (Call interface Manager))}
    (enabled : ∃ set ∈ front, set.op = .requestOutput 2 3 1)
    (undisturbed : Recorded (Undisturbed limitJson) (front ++ pass.flatten))
    (compared : List.Forall₂ (Compared limitJson) chosen pass) :
    List.Forall₂ (Nominal limitJson) chosen pass := by
  induction compared generalizing front with
  | nil => exact .nil
  | @cons rail turn others rest found _ ih =>
      rw [List.flatten_cons, ← List.append_assoc] at undisturbed
      obtain ⟨set, member, drives⟩ := enabled
      exact .cons
        (nominal_of_compared ⟨set, member, drives⟩
          (undisturbed.of_prefix (List.prefix_append _ _)) found)
        (ih ⟨set, List.mem_append_left _ member, drives⟩ undisturbed)

theorem Ordered.booted (ordered : Ordered (Compared limitJson) history)
    (undisturbed : Recorded (Undisturbed limitJson) history) : Booted limitJson history := by
  obtain ⟨front, pass, back, switch, fanController, psEnable, rfl, done, on, active, drove, passed⟩ :=
    ordered
  have enabled : ∃ set ∈ front, set.op = .requestOutput 2 3 1 := by
    obtain ⟨state, rfl⟩ := id drove
    exact ⟨⟨state, .requestOutput 2 3 1, true⟩, done.subset (by simp), rfl⟩
  exact ⟨front, pass, back, switch, fanController, psEnable, rfl, done, on, active, drove,
    pass_nominal enabled (undisturbed.of_prefix (List.prefix_append _ _)) passed⟩

end Order

/-- The system reset is driven only after the boot sequence, in which the voltages in the elements
have passed, whatever the lines, the services and the readings do and however the threads
interleave. -/
theorem sysreset_after_pass (limitJson : Value ℚ) (junk : Rail → AdcElement) {process : Process}
    (reach : Reachable step (boot (Manager.construct limitJson junk)) process)
    {worker : Worker interface Manager Label} (member : worker ∈ process.workers)
    {earlier later : List (Call interface Manager)} {call : Call interface Manager} {value : Int}
    (made : worker.history = earlier ++ call :: later)
    (driven : call.op = .requestOutput 1 0 value) : Ordered (Compared limitJson) earlier := by
  have holds : (bootOrder limitJson).Holds process := by
    apply holds_of_reachable (bootOrder_rules limitJson).meets (construct_wired limitJson junk) _
      reach
    intro label started
    rcases List.mem_pair.mp started with rfl | rfl
    · trivial
    · trivial
  exact holds.lawful worker member earlier call later made value driven

/-- In every run in which no comparison of main is disturbed, the system reset is driven only after
the boot sequence with a pass over the rails that has read each of them between its limits. -/
theorem sysreset_after_boot (limitJson : Value ℚ) (junk : Rail → AdcElement) {process : Process}
    (reach : Reach step (Answers (Undisturbed limitJson)) (boot (Manager.construct limitJson junk))
      process)
    {worker : Worker interface Manager Label} (member : worker ∈ process.workers)
    {earlier later : List (Call interface Manager)} {call : Call interface Manager} {value : Int}
    (made : worker.history = earlier ++ call :: later)
    (driven : call.op = .requestOutput 1 0 value) : Booted limitJson earlier := by
  have ordered := sysreset_after_pass limitJson junk reach.reachable member made driven
  have undisturbed := recorded_of_reach reach worker member
  exact ordered.booted (undisturbed.of_prefix (made ▸ List.prefix_append _ _))

/-- Limits that every target voltage meets. -/
def wideLimits : Value ℚ :=
  .object (rails.map fun rail =>
    (ascii rail.name, .object [(ascii "min", .number 0), (ascii "max", .number 100)]))

/-- Every call succeeds, every service is active, every rail reads its target, and every alarm is
raised. -/
def prompt : (op : Op) → op.Answer
  | .openChip _ | .getLine _ _ | .requestInput _ _ | .requestOutput _ _ _ | .release _ _
  | .isDBusReady | .newBus | .setValueProperty _ _ => true
  | .getValue _ _ => some (1 : Int)
  | .readFile _ => ascii "2047"
  | .activeState _ => some "active"
  | .getSubTreePaths stub _ => some [stub]
  | .getAlarm _ _ => some true
  | .getValueProperty _ => some (1 : ℚ)
  | .flashcp | .scale _ | .compare _ _ | .recheck _ => ()

def promptStart : Process := boot (Manager.construct wideLimits fun _ => default)

/-- Main takes its steps, and then the alarm thread takes its own. -/
def promptRun (main alarms : Nat) : Option Process :=
  run step promptStart (List.replicate main (0, prompt) ++ List.replicate alarms (2, prompt))

theorem promptRun_reachable {main alarms : Nat} {process : Process}
    (ran : promptRun main alarms = some process) : Reachable step promptStart process :=
  reach_of_run ran fun _ _ _ => trivial

theorem sysreset_after_boot_prompt : ∃ process worker earlier call later,
    promptRun 59 0 = some process ∧ worker ∈ process.workers ∧
      worker.history = earlier ++ call :: later ∧ call.op = .requestOutput 1 0 0 ∧
      Booted wideLimits earlier := by
  have along : Along step (fun before event _ => Answers (Undisturbed wideLimits) before event)
      promptStart (List.replicate 59 (0, prompt) ++ List.replicate 0 (2, prompt)) := by
    decide +kernel
  have check : (promptRun 59 0).any (fun process => process.workers.any fun worker =>
      worker.history[53]?.any fun call => decide (call.op = .requestOutput 1 0 0)) = true := by
    decide +kernel
  obtain ⟨process, ran, check⟩ := (Option.any_eq_true _ _).mp check
  obtain ⟨worker, member, check⟩ := List.any_eq_true.mp check
  obtain ⟨call, found, driven⟩ := (Option.any_eq_true _ _).mp check
  obtain ⟨bound, rfl⟩ := List.getElem?_eq_some_iff.mp found
  have made : worker.history = worker.history.take 53 ++ worker.history[53] ::
      worker.history.drop 54 := by
    rw [List.getElem_cons_drop, List.take_append_drop]
  exact ⟨process, worker, _, _, _, ran, member, made, of_decide_eq_true driven,
    sysreset_after_boot wideLimits _ (along.reach ran) member made (of_decide_eq_true driven)⟩

/-- The files hold a zero, and the rest is as in the prompt run. -/
def dead : (op : Op) → op.Answer
  | .readFile _ => ascii "0"
  | other => prompt other

/-- Main reads the first rail as zero and is about to compare it. The log thread, which has come to its
twentieth heartbeat, then reads and scales the same rail, and main goes on. -/
def mixedEvents : List (Nat × ((op : Op) → op.Answer)) :=
  List.replicate 25 (0, prompt) ++ [(0, dead), (0, prompt)] ++ List.replicate 42 (1, prompt) ++
    List.replicate 32 (0, prompt)

/-- The first of the rails. -/
def firstRail : Rail := ⟨"12V_Rail", "/sys/bus/iio/devices/iio:device0/in_voltage9_raw", 12⟩

theorem Booted.first_read {limitJson : Value ℚ} {history : List (Call interface Manager)}
    (booted : Booted limitJson history) : ∃ read content raw,
      ⟨read, .readFile firstRail.path, content⟩ ∈ history ∧ stoi content = some raw ∧
        Passes limitJson firstRail .min (firstRail.voltage raw) := by
  obtain ⟨front, pass, back, _, _, _, rfl, _, _, _, _, passed⟩ := booted
  obtain ⟨turn, others, ⟨_, content, raw, read, _, _, _, _, converted, rfl, above, _⟩, _, rfl⟩ :=
    List.forall₂_cons_left_iff.mp passed
  exact ⟨read, content, raw, by simp [firstRail], converted, above⟩

/-- The reset is released although the only pass of main has read the first rail as zero. -/
theorem sysreset_mixed : ¬ ∀ (limitJson : Value ℚ) (junk : Rail → AdcElement) (process : Process)
    (worker : Worker interface Manager Label) (earlier later : List (Call interface Manager))
    (call : Call interface Manager) (value : Int),
      Reachable step (boot (Manager.construct limitJson junk)) process →
      worker ∈ process.workers → worker.history = earlier ++ call :: later →
      call.op = .requestOutput 1 0 value → Booted limitJson earlier := by
  intro always
  have check : (run step promptStart mixedEvents).any (fun process =>
      process.workers.any fun worker =>
        (worker.history[53]?.any fun call => decide (call.op = .requestOutput 1 0 0)) &&
        (worker.history.take 53).all fun call => decide (call.op = .readFile firstRail.path →
          contentOf call = some (ascii "0"))) = true := by
    decide +kernel
  obtain ⟨process, ran, check⟩ := (Option.any_eq_true _ _).mp check
  obtain ⟨worker, member, check⟩ := List.any_eq_true.mp check
  obtain ⟨released, zeros⟩ := Bool.and_eq_true_iff.mp check
  obtain ⟨call, found, driven⟩ := (Option.any_eq_true _ _).mp released
  obtain ⟨bound, rfl⟩ := List.getElem?_eq_some_iff.mp found
  have made : worker.history = worker.history.take 53 ++ worker.history[53] ::
      worker.history.drop 54 := by
    rw [List.getElem_cons_drop, List.take_append_drop]
  have booted := always wideLimits _ process worker _ _ _ 0 (reach_of_run ran fun _ _ _ => trivial)
    member made (of_decide_eq_true driven)
  obtain ⟨read, content, raw, taken, converted, above⟩ := booted.first_read
  have zero := of_decide_eq_true (List.all_eq_true.mp zeros _ taken) rfl
  cases zero
  cases (show stoi (ascii "0") = some 0 by decide +kernel).symm.trans converted
  have below : ¬ Passes wideLimits firstRail .min (firstRail.voltage 0) := by decide +kernel
  exact below above

end Chassis.Boot
