import Chassis.Construction.Boot.ServiceLog
import Chassis.Data.List
import Chassis.Effect.Sensing

namespace Chassis.Boot
open Effect Program

section Services

variable {environment : Environment interface}

theorem waitForDBus_senses (attempts position : Nat) : ∃ count,
    Senses environment position (waitForDBus attempts) () count := by
  induction attempts generalizing position with
  | zero =>
      rw [waitForDBus]
      exact ⟨_, senses_ask_bind (senses_pure ())⟩
  | succ attempts ih =>
      obtain ⟨count, later⟩ := ih (position + 1)
      rw [waitForDBus]
      cases ready : environment position Op.isDBusReady with
      | true =>
          refine ⟨0 + 1, senses_ask_bind ?_⟩
          rw [ready]
          exact senses_pure ()
      | false =>
          refine ⟨count + 1, senses_ask_bind ?_⟩
          rw [ready]
          exact later

theorem queryService_senses (serviceName : String) (attempts position : Nat) :
    ∃ active count, Senses environment position (queryService serviceName attempts) active count := by
  induction attempts generalizing position with
  | zero => exact ⟨false, 0, senses_pure false⟩
  | succ attempts ih =>
      rw [queryService]
      cases answer : environment position (Op.activeState serviceName) with
      | some state =>
          refine ⟨state == "active", 0 + 1, senses_ask_bind ?_⟩
          rw [answer]
          exact senses_pure _
      | none =>
          obtain ⟨active, count, later⟩ := ih (position + 1)
          refine ⟨active, count + 1, senses_ask_bind ?_⟩
          rw [answer]
          exact later

/-- A service is found active or not whatever the manager has recorded. -/
theorem isServiceActive_senses (serviceName : String) (position : Nat) :
    ∃ active count, Senses environment position (isServiceActive serviceName) active count := by
  obtain ⟨first, waited⟩ := waitForDBus_senses 10 position
  obtain ⟨active, second, queried⟩ := queryService_senses serviceName 5 (position + first)
  exact ⟨active, first + second, waited.bind queried⟩

theorem check_senses {service : Service} {position count : Nat} {active : Bool}
    (senses : Senses environment position (isServiceActive service.unit) active count) :
    Senses environment position (Watcher.check service) active count :=
  senses.focus (fun _ => rfl) fun _ _ _ => rfl

/-- What one poll observes does not depend on the manager and its log, and is what the manager
records. -/
theorem checkServices_senses (position : Nat) : ∃ observed count,
    Senses environment position Watcher.checkServices observed count ∧
      ∀ manager, (watchServices.run environment manager position).state =
        Service.all.foldl (fun manager service =>
          manager.setServiceStatus (observed service) service) manager := by
  obtain ⟨_, _, temp⟩ := @isServiceActive_senses environment tempService position
  obtain ⟨_, _, voltage⟩ := @isServiceActive_senses environment voltageService _
  obtain ⟨_, _, fanController⟩ := @isServiceActive_senses environment fanControllerService _
  obtain ⟨_, _, mandatorySensor⟩ := @isServiceActive_senses environment mandatorySensorService _
  obtain ⟨_, _, gpio⟩ := @isServiceActive_senses environment gpioService _
  obtain ⟨_, _, ipmi⟩ := @isServiceActive_senses environment ipmiHostService _
  refine ⟨_, _, (check_senses temp).bind ((check_senses voltage).bind
    ((check_senses fanController).bind ((check_senses mandatorySensor).bind
      ((check_senses gpio).bind ((check_senses ipmi).bind (senses_pure _)))))), ?_⟩
  intro manager
  rw [watchServices, (temp.andThen _).2.1, (voltage.andThen _).2.1, (fanController.andThen _).2.1,
    (mandatorySensor.andThen _).2.1, (gpio.andThen _).2.1, (ipmi.andThen _).2.1]
  rfl

end Services

namespace Watcher

/-- The states of the services that a poll observes. -/
def observed (environment : Environment interface) : Service → Bool :=
  match (checkServices.run environment (start .null (fun _ => default) []) 0).outcome with
  | .value observed => observed
  | .thrown _ => fun _ => false
  | .fault _ => fun _ => false

/-- A poll records what it observes. -/
theorem poll_eq (watcher : Watcher) (environment : Environment interface) :
    watcher.poll environment = watcher.record (observed environment) := by
  obtain ⟨states, count, senses, _⟩ := @checkServices_senses environment 0
  have same : observed environment = states := by
    rw [observed, (senses _).1]
  rw [poll, watchServices, (senses.andThen watcher).2.1, same]
  rfl

end Watcher

section Record

variable {now : Service → Bool} {watcher : Watcher} {service : Service}

theorem serviceStatus_set (manager : Manager) (status : Bool) (service other : Service) :
    (manager.setServiceStatus status service).serviceStatus other =
      if other = service then status else manager.serviceStatus other := by
  cases service <;> cases other <;> rfl

/-- A comparison brings the status of its service up to date. -/
theorem compare_manager (service : Service) : (watcher.compare now service).manager =
    watcher.manager.setServiceStatus (now service) service := by
  rw [Watcher.compare]
  split_ifs with changed
  · rfl
  · rw [not_not.mp changed]
    cases service <;> rfl

theorem compare_serviceStatus (service other : Service) :
    (watcher.compare now service).manager.serviceStatus other =
      if other = service then now service else watcher.manager.serviceStatus other := by
  rw [compare_manager, serviceStatus_set]

/-- The manager of the watcher is left as without a log. -/
theorem record_manager : (watcher.record now).manager = Service.all.foldl (fun manager service =>
    manager.setServiceStatus (now service) service) watcher.manager := by
  simp only [Watcher.record, Service.all, List.foldl_cons, List.foldl_nil, compare_manager]
  rfl

theorem compare_systemLogs (service : Service) :
    (watcher.compare now service).systemLogs = watcher.systemLogs ++
      if now service = watcher.manager.serviceStatus service then []
      else [statusChanged service (now service)] := by
  rw [Watcher.compare]
  by_cases same : now service = watcher.manager.serviceStatus service
  · rw [if_neg (not_not.mpr same), if_pos same, List.append_nil]
  · rw [if_pos same, if_neg same]

/-- The comparisons of different services do not disturb each other. -/
theorem foldl_compare (services : List Service) (distinct : services.Nodup) :
    (∀ other, (services.foldl (Watcher.compare now) watcher).manager.serviceStatus other =
        if other ∈ services then now other else watcher.manager.serviceStatus other) ∧
      (services.foldl (Watcher.compare now) watcher).systemLogs = watcher.systemLogs ++
        services.flatMap fun service =>
          if now service = watcher.manager.serviceStatus service then []
          else [statusChanged service (now service)] := by
  induction services generalizing watcher with
  | nil => simp
  | cons service rest ih =>
      obtain ⟨absent, distinct⟩ := List.nodup_cons.mp distinct
      obtain ⟨statuses, logs⟩ := @ih (watcher.compare now service) distinct
      rw [List.foldl_cons]
      constructor
      · intro other
        rw [statuses, compare_serviceStatus]
        by_cases same : other = service
        · simp [same, absent]
        · simp [same]
      · rw [logs, compare_systemLogs, List.flatMap_cons, List.append_assoc]
        congr 2
        apply List.flatMap_congr
        intro other member
        have different : other ≠ service := fun same => absent (same ▸ member)
        rw [compare_serviceStatus, if_neg different]

/-- A line of the log that reports a change of the service. -/
def Service.reports (service : Service) (line : String) : Bool :=
  line == statusChanged service true || line == statusChanged service false

/-- The lines of different services differ. -/
theorem reports_statusChanged (service other : Service) (status : Bool) :
    service.reports (statusChanged other status) = decide (other = service) := by
  have all : (Service.all.all fun service => Service.all.all fun other => [true, false].all
      fun status => service.reports (statusChanged other status) == decide (other = service)) =
      true := by decide +kernel
  have listed (service : Service) : service ∈ Service.all := by cases service <;> decide
  simp only [List.all_eq_true, beq_iff_eq] at all
  exact all service (listed service) other (listed other) status (by cases status <;> decide)

/-- The lines of a service in the log. -/
def Watcher.linesOf (watcher : Watcher) (service : Service) : List String :=
  watcher.systemLogs.filter service.reports

/-- A poll that finds a service in another state than the last poll did logs one line with the new
state, any other poll logs none, and the stored status is the observed one. -/
def Detects (last now : Service → Bool) (before after : Watcher) (service : Service) : Prop :=
  after.linesOf service = before.linesOf service ++
      (if now service = last service then [] else [statusChanged service (now service)]) ∧
    after.manager.serviceStatus service = now service

/-- The IPMI host is compared with the status that has just been observed. -/
theorem linesOf_record (service : Service) : (watcher.record now).linesOf service =
    watcher.linesOf service ++
      if service = .ipmi ∨ now service = watcher.manager.serviceStatus service then []
      else [statusChanged service (now service)] := by
  have logs := (@foldl_compare now { watcher with
    manager := watcher.manager.setServiceStatus (now .ipmi) .ipmi } Service.all (by decide)).2
  rw [Watcher.linesOf, Watcher.record, logs, List.filter_append, List.filter_flatMap]
  have each (other : Service) : (if now other = (watcher.manager.setServiceStatus (now .ipmi)
        .ipmi).serviceStatus other then [] else [statusChanged other (now other)]).filter
          service.reports =
      if other = service ∧ ¬(other = .ipmi ∨ now other = watcher.manager.serviceStatus other)
      then [statusChanged other (now other)] else [] := by
    rw [serviceStatus_set]
    by_cases own : other = .ipmi
    · simp [own]
    · by_cases same : now other = watcher.manager.serviceStatus other
      · simp [own, same]
      · by_cases here : other = service
        · subst here
          simp [own, same, reports_statusChanged]
        · simp [own, same, here, reports_statusChanged]
  simp only [each]
  change watcher.linesOf service ++ _ = _
  refine congrArg (watcher.linesOf service ++ ·) ?_
  cases service <;> simp [Service.all]

/-- A poll brings every status up to date. -/
theorem serviceStatus_record : (watcher.record now).manager.serviceStatus = now := by
  funext service
  have status := (@foldl_compare now { watcher with
    manager := watcher.manager.setServiceStatus (now .ipmi) .ipmi } Service.all (by decide)).1
      service
  have listed : service ∈ Service.all := by cases service <;> decide
  rwa [if_pos listed] at status

/-- Only the IPMI host can escape detection, and it does when its state has changed. -/
theorem record_detects {last : Service → Bool} (kept : watcher.manager.serviceStatus = last)
    (service : Service) : Detects last now watcher (watcher.record now) service ↔
      (service = .ipmi → now .ipmi = last .ipmi) := by
  rw [Detects, linesOf_record, kept, List.append_right_inj, serviceStatus_record,
    and_iff_left rfl]
  by_cases own : service = .ipmi
  · subst own
    by_cases same : now .ipmi = last .ipmi
    · simp [same]
    · simp [same]
  · simp [own]

end Record

/-- A poll changes the manager as it does without a log. -/
theorem poll_manager (watcher : Watcher) (environment : Environment interface) :
    (watcher.poll environment).manager =
      (watchServices.run environment watcher.manager 0).state := by
  obtain ⟨states, count, senses, kept⟩ := @checkServices_senses environment 0
  rw [Watcher.poll, Watcher.watchServices, (senses.andThen watcher).2.1, kept]
  exact record_manager

section Polls

/-- However many polls are logged, the manager is the one that the polls alone leave. -/
theorem polls_manager (watcher : Watcher) (polls : List (Environment interface)) :
    (polls.foldl Watcher.poll watcher).manager =
      polls.foldl (fun manager environment => (watchServices.run environment manager 0).state)
        watcher.manager := by
  induction polls generalizing watcher with
  | nil => rfl
  | cons environment rest ih => rw [List.foldl_cons, List.foldl_cons, ih, poll_manager]

/-- Only the IPMI host is running. -/
def hostActive : Environment interface
  | _, .isDBusReady => true
  | _, .activeState serviceName =>
      some (if serviceName = ipmiHostService then "active" else "inactive")
  | _, _ => default

/-- Every poll of the history detects the changes of every service since the poll before it. -/
def AllDetected : (last : Service → Bool) → Watcher → List (Environment interface) → Prop
  | _, _, [] => True
  | last, watcher, environment :: rest =>
      (∀ service, Detects last (Watcher.observed environment) watcher (watcher.poll environment)
        service) ∧ AllDetected (Watcher.observed environment) (watcher.poll environment) rest

/-- A history is detected when the IPMI host stays in its state. -/
theorem allDetected_iff {last : Service → Bool} {watcher : Watcher}
    (kept : watcher.manager.serviceStatus = last) (polls : List (Environment interface)) :
    AllDetected last watcher polls ↔
      ∀ environment ∈ polls, Watcher.observed environment .ipmi = last .ipmi := by
  induction polls generalizing last watcher with
  | nil => simp [AllDetected]
  | cons environment rest ih =>
      have first : (∀ service, Detects last (Watcher.observed environment) watcher
          (watcher.poll environment) service) ↔
            Watcher.observed environment .ipmi = last .ipmi := by
        rw [Watcher.poll_eq]
        simp only [record_detects kept, forall_eq]
      have next : (watcher.poll environment).manager.serviceStatus =
          Watcher.observed environment := by
        rw [Watcher.poll_eq, serviceStatus_record]
      rw [AllDetected, first, List.forall_mem_cons]
      apply and_congr_right
      intro same
      rw [ih next, same]

theorem start_serviceStatus (limitJson : Json.Value ℚ) (junk : Monitor.Rail → AdcElement)
    (systemLogs : List String) :
    (Watcher.start limitJson junk systemLogs).manager.serviceStatus = fun _ => false := by
  funext service
  cases service <;> rfl

/-- The lines of a service are the changes that the polls have observed, and only the IPMI host has
none. -/
theorem linesOf_polls {last : Service → Bool} {watcher : Watcher}
    (kept : watcher.manager.serviceStatus = last) (polls : List (Environment interface))
    (service : Service) :
    (polls.foldl Watcher.poll watcher).linesOf service = watcher.linesOf service ++
      if service = .ipmi then []
      else ((polls.map (Watcher.observed · service)).destutter' (· ≠ ·) (last service)).tail.map
        (statusChanged service) := by
  induction polls generalizing last watcher with
  | nil => simp
  | cons environment rest ih =>
      have next : (watcher.poll environment).manager.serviceStatus =
          Watcher.observed environment := by
        rw [Watcher.poll_eq, serviceStatus_record]
      rw [List.foldl_cons, ih next, Watcher.poll_eq, linesOf_record, kept, List.map_cons,
        Data.tail_destutter'_cons, List.append_assoc]
      by_cases own : service = .ipmi
      · simp [own]
      · by_cases same : Watcher.observed environment service = last service
        · simp [own, same]
        · simp [own, same, Ne.symm same]

/-- A history of polls leaves the manager as it leaves it without a log, with the last observation of
every service, and adds to the log the changes of every service but the IPMI host. -/
theorem history_logged (limitJson : Json.Value ℚ) (junk : Monitor.Rail → AdcElement)
    (systemLogs : List String) (polls : List (Environment interface)) :
    let start := Watcher.start limitJson junk systemLogs
    let watcher := polls.foldl Watcher.poll start
    watcher.manager = polls.foldl (fun manager environment =>
        (watchServices.run environment manager 0).state) start.manager ∧
      watcher.manager.serviceStatus = (polls.getLast?.map Watcher.observed).getD (fun _ => false) ∧
      ∀ service, watcher.linesOf service = start.linesOf service ++
        if service = .ipmi then []
        else ((polls.map (Watcher.observed · service)).destutter' (· ≠ ·) false).tail.map
          (statusChanged service) := by
  intro start watcher
  refine ⟨polls_manager start polls, ?_,
    linesOf_polls (start_serviceStatus limitJson junk systemLogs) polls⟩
  obtain rfl | ⟨earlier, environment, rfl⟩ := polls.eq_nil_or_concat'
  · exact start_serviceStatus limitJson junk systemLogs
  · have latest : watcher.manager.serviceStatus = Watcher.observed environment := by
      change ((earlier ++ [environment]).foldl Watcher.poll start).manager.serviceStatus = _
      rw [List.foldl_concat, Watcher.poll_eq, serviceStatus_record]
    rw [latest, List.getLast?_concat]
    rfl

/-- The log reports every change of every service, and nothing else, in exactly the histories in
which the IPMI host is never observed to run. -/
theorem changes_logged_iff (limitJson : Json.Value ℚ) (junk : Monitor.Rail → AdcElement)
    (systemLogs : List String) (polls : List (Environment interface)) :
    AllDetected (fun _ => false) (Watcher.start limitJson junk systemLogs) polls ↔
      ∀ environment ∈ polls, Watcher.observed environment .ipmi = false :=
  allDetected_iff (start_serviceStatus limitJson junk systemLogs) polls

/-- The host is started before the first poll, which does not log it. -/
theorem ipmi_unlogged : ¬∀ (limitJson : Json.Value ℚ) (junk : Monitor.Rail → AdcElement)
    (systemLogs : List String) (polls : List (Environment interface)),
      AllDetected (fun _ => false) (Watcher.start limitJson junk systemLogs) polls := by
  intro always
  have active : Watcher.observed hostActive .ipmi = true := by decide +kernel
  have silent := (allDetected_iff (start_serviceStatus _ _ _) [hostActive]).mp
    (always .null (fun _ => default) [] [hostActive]) hostActive (List.mem_singleton_self _)
  rw [active] at silent
  cases silent

end Polls

end Chassis.Boot
