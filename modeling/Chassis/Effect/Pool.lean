import Chassis.Effect.Thread
import Chassis.Automaton.Run

namespace Chassis.Effect

variable {I : Interface} {State Value Result Label : Type}

/-- A worker is a thread of a process: its name, the rest of its current piece of code, and the calls
it has made. A piece of code ends with the labels to go on with, and all but the first of them
become workers of their own. -/
structure Worker (I : Interface) (State Label : Type) where
  name : Label
  residual : Residual I State (List Label)
  history : List (Call I State)

/-- The workers of a process share one state. -/
structure Pool (I : Interface) (State Label : Type) where
  state : State
  workers : List (Worker I State Label)

namespace Worker

/-- A new worker has its label in front of it. -/
def spawn (label : Label) : Worker I State Label := ⟨label, .ended (.value [label]), []⟩

/-- An exception that escapes a worker, or a fault, ends the whole process. -/
def crashed (worker : Worker I State Label) : Bool :=
  match worker.residual with
  | .ended (.value _) => false
  | .ended _ => true
  | .waiting _ _ => false

/-- A worker without a next label has returned. -/
def returned (worker : Worker I State Label) : Bool :=
  match worker.residual with
  | .ended (.value labels) => labels.isEmpty
  | .ended _ => false
  | .waiting _ _ => false

/-- A waiting worker has made a call that is not answered yet. -/
def waiting (worker : Worker I State Label) : Option I.Op :=
  match worker.residual with
  | .waiting op _ => some op
  | .ended _ => none

/-- One step answers the call of a waiting worker or enters the next piece of code. -/
def step (code : Label → Program I State (List Label)) (state : State)
    (answer : (op : I.Op) → I.Answer op) (worker : Worker I State Label) :
    Option (State × Worker I State Label × List (Worker I State Label)) :=
  match worker.residual with
  | .waiting op next =>
      let settled := (next (answer op)).settle state
      some (settled.2, ⟨worker.name, settled.1, worker.history ++ [⟨state, op, answer op⟩]⟩, [])
  | .ended (.value (label :: forks)) =>
      let settled := (code label).settle state
      some (settled.2, ⟨worker.name, settled.1, worker.history⟩, forks.map spawn)
  | .ended _ => none

end Worker

/-- The scheduler picks the worker that takes the next step. -/
def Pool.step (code : Label → Program I State (List Label)) (pool : Pool I State Label)
    (event : Nat × ((op : I.Op) → I.Answer op)) : Option (Pool I State Label) :=
  if pool.workers.any Worker.crashed then none
  else
    (pool.workers[event.1]?).bind fun worker =>
      (worker.step code pool.state event.2).map fun result =>
        ⟨result.1, pool.workers.set event.1 result.2.1 ++ result.2.2⟩

section Recorded

variable {code : Label → Program I State (List Label)} {pool after : Pool I State Label}
  {event : Nat × ((op : I.Op) → I.Answer op)}

/-- The call that a step answers meets a condition on the calls of its worker and on the call as it
is recorded. -/
def Answers (condition : List (Call I State) → Call I State → Prop) (pool : Pool I State Label)
    (event : Nat × ((op : I.Op) → I.Answer op)) : Prop :=
  ∀ worker ∈ pool.workers[event.1]?, ∀ op ∈ worker.waiting,
    condition worker.history ⟨pool.state, op, event.2 op⟩

instance {condition : List (Call I State) → Call I State → Prop}
    [∀ earlier call, Decidable (condition earlier call)] (pool : Pool I State Label)
    (event : Nat × ((op : I.Op) → I.Answer op)) : Decidable (Answers condition pool event) :=
  inferInstanceAs (Decidable (∀ worker ∈ pool.workers[event.1]?, ∀ op ∈ worker.waiting,
    condition worker.history ⟨pool.state, op, event.2 op⟩))

/-- Every call of a history meets the condition after the calls before it. -/
def Recorded (condition : List (Call I State) → Call I State → Prop)
    (history : List (Call I State)) : Prop :=
  ∀ earlier call later, history = earlier ++ call :: later → condition earlier call

theorem recorded_nil (condition : List (Call I State) → Call I State → Prop) :
    Recorded condition [] := by
  intro earlier call later same
  cases earlier <;> cases same

theorem Recorded.concat {condition : List (Call I State) → Call I State → Prop}
    {history : List (Call I State)} {call : Call I State} (recorded : Recorded condition history)
    (met : condition history call) : Recorded condition (history ++ [call]) := by
  intro earlier other later same
  rcases List.eq_nil_or_concat later with rfl | ⟨front, last, rfl⟩
  · obtain ⟨rfl, ⟨⟩⟩ := List.append_inj' same rfl
    exact met
  · rw [List.concat_eq_append, ← List.cons_append, ← List.append_assoc] at same
    obtain ⟨before, _⟩ := List.append_inj' same rfl
    exact recorded earlier other front before

theorem Recorded.of_prefix {condition : List (Call I State) → Call I State → Prop}
    {history front : List (Call I State)} (recorded : Recorded condition history)
    (starts : front <+: history) : Recorded condition front := by
  obtain ⟨rest, rfl⟩ := starts
  intro earlier call later same
  apply recorded earlier call (later ++ rest)
  rw [same, List.append_assoc, List.cons_append]

/-- A worker after a step has the calls it had before, or in addition the one that was answered. -/
theorem step_history (taken : pool.step code event = some after) {worker : Worker I State Label}
    (member : worker ∈ after.workers) : worker.history = [] ∨
      (∃ old ∈ pool.workers, worker.history = old.history) ∨
      ∃ old ∈ pool.workers[event.1]?, ∃ op ∈ old.waiting,
        worker.history = old.history ++ [⟨pool.state, op, event.2 op⟩] := by
  unfold Pool.step at taken
  split at taken
  next => cases taken
  next =>
    obtain ⟨old, found, taken⟩ := Option.bind_eq_some_iff.mp taken
    obtain ⟨result, stepped, rfl⟩ := Option.map_eq_some_iff.mp taken
    have known := List.mem_of_getElem? found
    rcases old with ⟨name, (((_ | ⟨label, forks⟩) | _ | _) | ⟨op, next⟩), history⟩
    · cases stepped
    · cases stepped
      rcases List.mem_append.mp member with kept | forked
      · rcases List.mem_or_eq_of_mem_set kept with kept | rfl
        · exact .inr (.inl ⟨worker, kept, rfl⟩)
        · exact .inr (.inl ⟨_, known, rfl⟩)
      · obtain ⟨fork, _, rfl⟩ := List.mem_map.mp forked
        exact .inl rfl
    · cases stepped
    · cases stepped
    · cases stepped
      rw [List.append_nil] at member
      rcases List.mem_or_eq_of_mem_set member with kept | rfl
      · exact .inr (.inl ⟨worker, kept, rfl⟩)
      · exact .inr (.inr ⟨_, found, op, rfl, rfl⟩)

/-- A condition on the steps of a run is a condition on the calls that its workers have recorded. -/
theorem recorded_of_reach {condition : List (Call I State) → Call I State → Prop} {state : State}
    {labels : List Label}
    (reach : Automaton.Reach (Pool.step code) (Answers condition)
      ⟨state, labels.map Worker.spawn⟩ pool) :
    ∀ worker ∈ pool.workers, Recorded condition worker.history := by
  apply reach.invariant fun pool => ∀ worker ∈ pool.workers, Recorded condition worker.history
  · intro worker member
    obtain ⟨label, _, rfl⟩ := List.mem_map.mp member
    exact recorded_nil condition
  · intro before event after recorded met taken worker member
    rcases step_history taken member with empty | ⟨old, known, same⟩ | ⟨old, found, op, waits, same⟩
    · rw [empty]
      exact recorded_nil condition
    · rw [same]
      exact recorded old known
    · rw [same]
      exact (recorded old (List.mem_of_getElem? found)).concat (met old found op waits)

end Recorded

/-- A condition on an ending sees the calls of the worker and the shared state. -/
structure Ending (I : Interface) (State Value : Type) where
  value : Value → List (Call I State) → State → Prop
  thrown : I.Exception → List (Call I State) → State → Prop
  fault : I.Fault → List (Call I State) → State → Prop

namespace Program

variable {shared : State → Prop} {allowed : List (Call I State) → I.Op → Prop}
  {ending : Ending I State Value}

/-- The program makes only allowed calls and reaches only admitted endings, while the other workers
may change the state at each call as long as they keep the shared invariant. -/
def guards (shared : State → Prop) (allowed : List (Call I State) → I.Op → Prop) :
    Program I State Value → Ending I State Value → List (Call I State) → State → Prop
  | .pure value, ending, history, state => ending.value value history state
  | .throw exception, ending, history, state => ending.thrown exception history state
  | .fault reason, ending, history, state => ending.fault reason history state
  | .get next, ending, history, state => (next state).guards shared allowed ending history state
  | .set state next, ending, history, _ => next.guards shared allowed ending history state
  | .call op next, ending, history, state => shared state ∧ allowed history op ∧
      ∀ answer changed, shared changed →
        (next answer).guards shared allowed ending (history ++ [⟨changed, op, answer⟩]) changed

@[simp] theorem guards_pure (value : Value) (history : List (Call I State)) (state : State) :
    (Pure.pure value : Program I State Value).guards shared allowed ending history state =
      ending.value value history state := rfl

@[simp] theorem guards_throw (exception : I.Exception) (history : List (Call I State))
    (state : State) :
    (Program.throw exception).guards shared allowed ending history state =
      ending.thrown exception history state := rfl

@[simp] theorem guards_read (ending : Ending I State State) (history : List (Call I State))
    (state : State) :
    Program.read.guards shared allowed ending history state = ending.value state history state :=
  rfl

@[simp] theorem guards_modify (update : State → State) (ending : Ending I State Unit)
    (history : List (Call I State)) (state : State) :
    (Program.modify update).guards shared allowed ending history state =
      ending.value () history (update state) := rfl

@[simp] theorem guards_ask (op : I.Op) (ending : Ending I State (I.Answer op))
    (history : List (Call I State)) (state : State) :
    (Program.ask op).guards shared allowed ending history state =
      (shared state ∧ allowed history op ∧ ∀ answer changed, shared changed →
        ending.value answer (history ++ [⟨changed, op, answer⟩]) changed) := rfl

@[simp] theorem guards_bind (program : Program I State Value)
    (rest : Value → Program I State Result) (ending : Ending I State Result)
    (history : List (Call I State)) (state : State) :
    (program >>= rest).guards shared allowed ending history state =
      program.guards shared allowed
        ⟨fun value history next => (rest value).guards shared allowed ending history next,
          ending.thrown, ending.fault⟩ history state := by
  change (program.bind rest).guards shared allowed ending history state = _
  induction program generalizing history state with
  | pure | throw | fault => rfl
  | get next ih => exact ih state history state
  | set inner next ih => exact ih history inner
  | call op next ih => simp only [bind, guards, ih]

@[simp] theorem guards_tryCatch (program : Program I State Value)
    (handler : I.Exception → Program I State Value) (history : List (Call I State))
    (state : State) :
    (program.tryCatch handler).guards shared allowed ending history state =
      program.guards shared allowed ⟨ending.value,
        fun exception history next =>
          (handler exception).guards shared allowed ending history next,
        ending.fault⟩ history state := by
  induction program generalizing history state with
  | pure | throw | fault => rfl
  | get next ih => exact ih state history state
  | set inner next ih => exact ih history inner
  | call op next ih => simp only [tryCatch, guards, ih]

@[simp] theorem guards_ite (condition : Prop) [Decidable condition]
    (first second : Program I State Value) (history : List (Call I State)) (state : State) :
    (if condition then first else second).guards shared allowed ending history state =
      if condition then first.guards shared allowed ending history state
      else second.guards shared allowed ending history state := by
  split <;> rfl

/-- A stronger condition on the endings gives a stronger guard. -/
theorem guards_mono {first second : Ending I State Value} {program : Program I State Value}
    {history : List (Call I State)} {state : State}
    (holds : program.guards shared allowed first history state)
    (values : ∀ value history state, first.value value history state →
      second.value value history state)
    (exceptions : ∀ exception history state, first.thrown exception history state →
      second.thrown exception history state)
    (faults : ∀ reason history state, first.fault reason history state →
      second.fault reason history state) :
    program.guards shared allowed second history state := by
  induction program generalizing history state with
  | pure value => exact values value history state holds
  | throw exception => exact exceptions exception history state holds
  | fault reason => exact faults reason history state holds
  | get next ih => exact ih state holds
  | set inner next ih => exact ih holds
  | call op next ih =>
      exact ⟨holds.1, holds.2.1, fun answer changed kept => ih answer (holds.2.2 answer changed kept)⟩

/-- A guarded program is guarded in what remains of it after it has run on its own. -/
theorem guards_settle {program : Program I State Value} {history : List (Call I State)}
    {state : State} (holds : program.guards shared allowed ending history state) :
    match (program.settle state).1 with
    | .ended (.value value) => ending.value value history (program.settle state).2
    | .ended (.thrown exception) => ending.thrown exception history (program.settle state).2
    | .ended (.fault reason) => ending.fault reason history (program.settle state).2
    | .waiting op next => shared (program.settle state).2 ∧ allowed history op ∧
        ∀ answer changed, shared changed → (next answer).guards shared allowed ending
          (history ++ [⟨changed, op, answer⟩]) changed := by
  induction program generalizing state with
  | pure | throw | fault => exact holds
  | get next ih => exact ih state holds
  | set inner next ih => exact ih holds
  | call op next ih => exact holds

/-- The calls made before can be split off. -/
theorem guards_append (front : List (Call I State)) (program : Program I State Value)
    (history : List (Call I State)) (state : State) :
    program.guards shared allowed ending (front ++ history) state ↔
      program.guards shared (fun more => allowed (front ++ more))
        ⟨fun value more => ending.value value (front ++ more),
          fun exception more => ending.thrown exception (front ++ more),
          fun reason more => ending.fault reason (front ++ more)⟩ history state := by
  induction program generalizing history state with
  | pure | throw | fault => exact Iff.rfl
  | get next ih => exact ih state history state
  | set inner next ih => exact ih history inner
  | call op next ih => simp only [guards, List.append_assoc, ih]

/-- A program may be guarded on its own and then placed after the calls made before. -/
theorem guards_after {program : Program I State Value} {history : List (Call I State)}
    {state : State} (holds : program.guards shared (fun more => allowed (history ++ more))
      ⟨fun value more => ending.value value (history ++ more),
        fun exception more => ending.thrown exception (history ++ more),
        fun reason more => ending.fault reason (history ++ more)⟩ [] state) :
    program.guards shared allowed ending history state := by
  rw [← guards_append, List.append_nil] at holds
  exact holds

/-- The rest of a program is guarded on its own, after the calls of the first part. -/
theorem guards_then {first : Ending I State Value} {ending : Ending I State Result}
    {program : Program I State Value} {rest : Value → Program I State Result} {state : State}
    (holds : program.guards shared allowed first [] state)
    (values : ∀ value more state, first.value value more state →
      (rest value).guards shared (fun later => allowed (more ++ later))
        ⟨fun value later => ending.value value (more ++ later),
          fun exception later => ending.thrown exception (more ++ later),
          fun reason later => ending.fault reason (more ++ later)⟩ [] state)
    (exceptions : ∀ exception more state, first.thrown exception more state →
      ending.thrown exception more state)
    (faults : ∀ reason more state, first.fault reason more state →
      ending.fault reason more state) :
    (program >>= rest).guards shared allowed ending [] state := by
  rw [guards_bind]
  apply guards_mono holds _ exceptions faults
  intro value more next ended
  exact guards_after (values value more next ended)

end Program

/-- A contract of a process: what all workers keep of the shared state, which calls a worker may make
after which calls, what it has done when it enters a label, and what it has done when it returns. -/
structure Contract (I : Interface) (State Label : Type) where
  shared : State → Prop
  allowed : List (Call I State) → I.Op → Prop
  entered : Label → List (Call I State) → Prop
  returned : List (Call I State) → Prop

namespace Contract

variable (contract : Contract I State Label)

/-- A worker goes on with the first label, and the other labels begin without a history. -/
def Continues : List Label → List (Call I State) → Prop
  | [], history => contract.returned history
  | label :: forks, history =>
      contract.entered label history ∧ ∀ fork ∈ forks, contract.entered fork []

/-- The ending of a piece of code leads to its next labels. -/
def ending : Ending I State (List Label) where
  value labels history state := contract.shared state ∧ contract.Continues labels history
  thrown _ _ state := contract.shared state
  fault _ _ state := contract.shared state

/-- Every piece of code meets the contract. -/
def Meets (code : Label → Program I State (List Label)) : Prop :=
  ∀ label history state, contract.shared state → contract.entered label history →
    (code label).guards contract.shared contract.allowed contract.ending history state

/-- Every call in a history was allowed after the calls before it. -/
def Lawful (history : List (Call I State)) : Prop :=
  Recorded (fun earlier call => contract.allowed earlier call.op) history

/-- What remains of a worker meets the contract. -/
def Residues (history : List (Call I State)) : Residual I State (List Label) → Prop
  | .ended (.value labels) => contract.Continues labels history
  | .ended _ => True
  | .waiting op next => contract.allowed history op ∧
      ∀ answer changed, contract.shared changed → (next answer).guards contract.shared
        contract.allowed contract.ending (history ++ [⟨changed, op, answer⟩]) changed

/-- The invariant of a process that meets its contract. -/
structure Holds (pool : Pool I State Label) : Prop where
  shared : contract.shared pool.state
  lawful : ∀ worker ∈ pool.workers, contract.Lawful worker.history
  residues : ∀ worker ∈ pool.workers, contract.Residues worker.history worker.residual

variable {contract}

/-- A guarded program leaves the shared state and a residue that meet the contract. -/
theorem settle_residues {program : Program I State (List Label)} {history : List (Call I State)}
    {state : State} (guarded : program.guards contract.shared contract.allowed contract.ending
      history state) :
    contract.shared (program.settle state).2 ∧
      contract.Residues history (program.settle state).1 := by
  have settled := Program.guards_settle guarded
  revert settled
  rcases (program.settle state).1 with (_ | _ | _) | ⟨op, next⟩
  · exact fun settled => settled
  · exact fun settled => ⟨settled, trivial⟩
  · exact fun settled => ⟨settled, trivial⟩
  · exact fun settled => ⟨settled.1, settled.2⟩

/-- A step of a worker keeps the contract for the worker and for the workers it starts. -/
theorem worker_step {code : Label → Program I State (List Label)} (meets : contract.Meets code)
    {state : State} {answer : (op : I.Op) → I.Answer op} {worker : Worker I State Label}
    {result : State × Worker I State Label × List (Worker I State Label)}
    (shared : contract.shared state) (lawful : contract.Lawful worker.history)
    (residues : contract.Residues worker.history worker.residual)
    (taken : worker.step code state answer = some result) :
    contract.shared result.1 ∧ ∀ other ∈ result.2.1 :: result.2.2,
      contract.Lawful other.history ∧ contract.Residues other.history other.residual := by
  rcases worker with ⟨name, (((_ | ⟨label, forks⟩) | _ | _) | ⟨op, next⟩), history⟩
  · cases taken
  · cases taken
    have settled := settle_residues (meets label history state shared residues.1)
    refine ⟨settled.1, ?_⟩
    intro other member
    rcases List.mem_cons.mp member with rfl | forked
    · exact ⟨lawful, settled.2⟩
    · obtain ⟨fork, started, rfl⟩ := List.mem_map.mp forked
      exact ⟨recorded_nil _, residues.2 fork started,
        fun _ absent => absurd absent List.not_mem_nil⟩
  · cases taken
  · cases taken
  · cases taken
    have settled := settle_residues (residues.2 (answer op) state shared)
    refine ⟨settled.1, ?_⟩
    intro other member
    cases List.mem_singleton.mp member
    exact ⟨lawful.concat residues.1, settled.2⟩

theorem pool_step {code : Label → Program I State (List Label)} (meets : contract.Meets code)
    {pool after : Pool I State Label} {event : Nat × ((op : I.Op) → I.Answer op)}
    (holds : contract.Holds pool) (taken : pool.step code event = some after) :
    contract.Holds after := by
  unfold Pool.step at taken
  split at taken
  next => cases taken
  next =>
    obtain ⟨worker, found, taken⟩ := Option.bind_eq_some_iff.mp taken
    obtain ⟨result, stepped, rfl⟩ := Option.map_eq_some_iff.mp taken
    have member := List.mem_of_getElem? found
    obtain ⟨shared, workers⟩ := worker_step meets holds.shared (holds.lawful worker member)
      (holds.residues worker member) stepped
    have each : ∀ other ∈ pool.workers.set event.1 result.2.1 ++ result.2.2,
        contract.Lawful other.history ∧ contract.Residues other.history other.residual := by
      intro other present
      rcases List.mem_append.mp present with old | new
      · rcases List.mem_or_eq_of_mem_set old with kept | rfl
        · exact ⟨holds.lawful other kept, holds.residues other kept⟩
        · exact workers _ List.mem_cons_self
      · exact workers other (List.mem_cons_of_mem _ new)
    exact ⟨shared, fun other present => (each other present).1,
      fun other present => (each other present).2⟩

/-- The contract holds in every state that a process reaches from its first workers. -/
theorem holds_of_reachable {code : Label → Program I State (List Label)}
    (meets : contract.Meets code) {state : State} {labels : List Label}
    (shared : contract.shared state) (entered : ∀ label ∈ labels, contract.entered label [])
    {pool : Pool I State Label}
    (reach : Automaton.Reachable (Pool.step code) ⟨state, labels.map Worker.spawn⟩ pool) :
    contract.Holds pool := by
  apply reach.invariant contract.Holds
  · refine ⟨shared, ?_, ?_⟩
    · intro worker member
      obtain ⟨label, _, rfl⟩ := List.mem_map.mp member
      exact recorded_nil _
    · intro worker member
      obtain ⟨label, present, rfl⟩ := List.mem_map.mp member
      exact ⟨entered label present, fun _ absent => absurd absent List.not_mem_nil⟩
  · intro before event after holds _ taken
    exact pool_step meets holds taken

end Contract

end Chassis.Effect
