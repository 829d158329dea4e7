import Chassis.Construction.Gpio.System
import Chassis.Effect.Run
import Chassis.Proof.Boot.Outline

namespace Chassis.Gpio
open Effect Program

/-- The request of the line as an input that starts at the position succeeds. -/
def GpioInfo.granted (gpio : GpioInfo) (environment : Environment interface) (position : Nat) :
    Bool :=
  environment position (.openChip gpio.chip) &&
    environment (position + 1) (.getLine gpio.chip gpio.line) &&
    environment (position + 2) (.requestInput gpio.chip gpio.line)

/-- A read stops at its first call that fails. -/
def GpioInfo.span (gpio : GpioInfo) (environment : Environment interface) (position : Nat) : Nat :=
  if environment position (.openChip gpio.chip) then
    if environment (position + 1) (.getLine gpio.chip gpio.line) then
      if environment (position + 2) (.requestInput gpio.chip gpio.line) then
        if (environment (position + 3) (.getValue gpio.chip gpio.line)).isSome then 5 else 4
      else 3
    else 2
  else 1

/-- The number of calls that reads of the lines in order make. -/
def span (environment : Environment interface) : List GpioInfo → Nat → Nat
  | [], _ => 0
  | gpio :: rest, position =>
      gpio.span environment position +
        span environment rest (position + gpio.span environment position)

/-- The places that the environment grants as inputs to reads of the lines in order. -/
def grants (environment : Environment interface) : List GpioInfo → Nat → List (Nat × Nat)
  | [], _ => []
  | gpio :: rest, position =>
      (if gpio.granted environment position then [gpio.place] else []) ++
        grants environment rest (position + gpio.span environment position)

theorem span_append (environment : Environment interface) (first second : List GpioInfo)
    (position : Nat) :
    span environment (first ++ second) position =
      span environment first position +
        span environment second (position + span environment first position) := by
  induction first generalizing position with
  | nil => simp [span]
  | cons gpio rest ih =>
      simp only [List.cons_append, span, ih, Nat.add_assoc]

theorem grants_append (environment : Environment interface) (first second : List GpioInfo)
    (position : Nat) :
    grants environment (first ++ second) position =
      grants environment first position ++
        grants environment second (position + span environment first position) := by
  induction first generalizing position with
  | nil => simp [span, grants]
  | cons gpio rest ih =>
      simp only [List.cons_append, span, grants, ih, Nat.add_assoc, List.append_assoc]

/-- A granted request for an input names its place. -/
def grant : Answered → Option (Nat × Nat)
  | ⟨.requestInput chip line, true⟩ => some (chip, line)
  | _ => none

variable {State Value Result Element : Type} {keeps : State → Prop}

/-- A run that drives nothing keeps a property of the state and is granted the places of the lines. -/
structure Asking (keeps : State → Prop) (environment : Environment interface)
    (pins : List GpioInfo) (position : Nat) (run : Run interface State Value) : Prop where
  kept : keeps run.state
  passive : ((answers run).all fun entry => !entry.1.drives) = true
  granted : (answers run).filterMap grant = grants environment pins position

/-- A run that returns and asks exactly for the lines can be followed by another one. -/
structure Reading (keeps : State → Prop) (environment : Environment interface)
    (pins : List GpioInfo) (position : Nat) (run : Run interface State Value) : Prop
    extends Asking keeps environment pins position run where
  returned : ∃ value, run.outcome = .value value
  length : run.calls.length = span environment pins position

/-- Every run of the program asks for the lines. -/
def Asks (keeps : State → Prop) (pins : List GpioInfo) (program : Program interface State Value) :
    Prop :=
  ∀ environment state position, keeps state →
    Asking keeps environment pins position (program.run environment state position)

/-- Every run of the program reads the lines and returns. -/
def Reads (keeps : State → Prop) (pins : List GpioInfo)
    (program : Program interface State Value) : Prop :=
  ∀ environment state position, keeps state →
    Reading keeps environment pins position (program.run environment state position)

theorem Reads.asks {pins : List GpioInfo} {program : Program interface State Value}
    (reads : Reads keeps pins program) : Asks keeps pins program :=
  fun environment state position initial => (reads environment state position initial).toAsking

theorem reads_pure (value : Value) :
    Reads keeps [] (Pure.pure value : Program interface State Value) :=
  fun _ _ _ initial => ⟨⟨initial, rfl, rfl⟩, ⟨value, rfl⟩, rfl⟩

theorem reads_modify {update : State → State}
    (preserved : ∀ state, keeps state → keeps (update state)) :
    Reads keeps [] (modify update : Program interface State Unit) :=
  fun _ state _ initial => ⟨⟨preserved state initial, rfl, rfl⟩, ⟨(), rfl⟩, rfl⟩

/-- The rest may rely on the property of the state it has read. -/
theorem reads_read {pins : List GpioInfo} {rest : State → Program interface State Value}
    (second : ∀ state, keeps state → Reads keeps pins (rest state)) :
    Reads keeps pins (read >>= rest) :=
  fun environment state position initial => second state initial environment state position initial

theorem asks_read {pins : List GpioInfo} {rest : State → Program interface State Value}
    (second : ∀ state, keeps state → Asks keeps pins (rest state)) :
    Asks keeps pins (read >>= rest) :=
  fun environment state position initial => second state initial environment state position initial

/-- The calls of two runs in a row are those of the first and those of the second. -/
theorem Reading.andThen {environment : Environment interface} {first second : List GpioInfo}
    {position : Nat} {run : Run interface State Value}
    {next : Run interface State Result} (reading : Reading keeps environment first position run)
    (asking : Asking keeps environment second (position + run.calls.length) next) :
    Asking keeps environment (first ++ second) position
      { next with calls := run.calls ++ next.calls } := by
  refine ⟨asking.kept, ?_, ?_⟩
  · rw [answers, List.map_append, List.all_append, Bool.and_eq_true]
    exact ⟨reading.passive, asking.passive⟩
  · have grantedFirst := reading.granted
    have grantedSecond := asking.granted
    rw [reading.length] at grantedSecond
    rw [answers, List.map_append, List.filterMap_append, grants_append]
    exact congrArg₂ (· ++ ·) grantedFirst grantedSecond

theorem asks_bind {first second : List GpioInfo} {program : Program interface State Value}
    {rest : Value → Program interface State Result} (reads : Reads keeps first program)
    (asks : ∀ value, Asks keeps second (rest value)) :
    Asks keeps (first ++ second) (program >>= rest) := by
  intro environment state position initial
  have reading := reads environment state position initial
  obtain ⟨value, returned⟩ := reading.returned
  rw [run_bind, Run.andThen, returned]
  exact reading.andThen (asks value environment _ _ reading.kept)

theorem reads_bind {first second : List GpioInfo} {program : Program interface State Value}
    {rest : Value → Program interface State Result} (reads : Reads keeps first program)
    (rests : ∀ value, Reads keeps second (rest value)) :
    Reads keeps (first ++ second) (program >>= rest) := by
  intro environment state position initial
  have reading := reads environment state position initial
  obtain ⟨value, returned⟩ := reading.returned
  rw [run_bind, Run.andThen, returned]
  have later := rests value environment (program.run environment state position).state
    (position + (program.run environment state position).calls.length) reading.kept
  refine ⟨reading.andThen later.toAsking, later.returned, ?_⟩
  rw [List.length_append, span_append, later.length, reading.length]

/-- A loop reads the lines of its elements in order. -/
theorem reads_forEach {body : Element → Program interface State Unit}
    {pins : Element → List GpioInfo} (elements : List Element)
    (each : ∀ element, Reads keeps (pins element) (body element)) :
    Reads keeps (elements.flatMap pins) (forEach body elements) := by
  induction elements with
  | nil => exact reads_pure ()
  | cons element rest ih =>
      rw [List.flatMap_cons]
      exact reads_bind (each element) fun _ => ih

/-- A program that touches no line may be followed by another one even when it throws. -/
theorem asks_quiet {program : Program interface State Value}
    {rest : Value → Program interface State Result} (asks : Asks keeps [] program)
    (rests : ∀ value, Asks keeps [] (rest value)) : Asks keeps [] (program >>= rest) := by
  intro environment state position initial
  have asking := asks environment state position initial
  rw [run_bind, Run.andThen]
  cases outcome : (program.run environment state position).outcome with
  | value value =>
      have later := rests value environment (program.run environment state position).state
        (position + (program.run environment state position).calls.length) asking.kept
      refine ⟨later.kept, ?_, ?_⟩
      · rw [answers, List.map_append, List.all_append, Bool.and_eq_true]
        exact ⟨asking.passive, later.passive⟩
      · rw [answers, List.map_append, List.filterMap_append]
        exact congrArg₂ (· ++ ·) asking.granted later.granted
  | thrown exception => exact ⟨asking.kept, asking.passive, asking.granted⟩
  | fault reason => exact ⟨asking.kept, asking.passive, asking.granted⟩

theorem asks_map {pins : List GpioInfo} {program : Program interface State Value}
    (asks : Asks keeps pins program) (convert : Value → Result) :
    Asks keeps pins (program >>= fun value => Pure.pure (convert value)) := by
  intro environment state position initial
  have asking := asks environment state position initial
  rw [run_bind]
  generalize program.run environment state position = run at asking ⊢
  rcases run with ⟨outcome, after, calls⟩
  cases outcome with
  | value value =>
      rw [andThen_value, run_pure, List.append_nil]
      exact ⟨asking.kept, asking.passive, asking.granted⟩
  | thrown exception => exact ⟨asking.kept, asking.passive, asking.granted⟩
  | fault reason => exact ⟨asking.kept, asking.passive, asking.granted⟩

theorem asks_forEach {body : Element → Program interface State Unit} (elements : List Element)
    (each : ∀ element, Asks keeps [] (body element)) :
    Asks keeps [] (forEach body elements) := by
  induction elements with
  | nil => exact (reads_pure ()).asks
  | cons element rest ih => exact asks_quiet (each element) fun _ => ih

section Runs

variable (environment : Environment interface) (state : State) (position : Nat)

/-- A call that succeeds goes on one position further, and a call that fails throws. -/
theorem run_attempt (op : Boot.Op) (answer : op.Answer → Bool) (exception : Boot.Exception)
    (rest : Unit → Program interface State Value) :
    (attempt op answer exception >>= rest).run environment state position =
      if answer (environment position op) then
        let later := (rest ()).run environment state (position + 1)
        { later with calls := ⟨state, op, environment position op⟩ :: later.calls }
      else ⟨.thrown exception, state, [⟨state, op, environment position op⟩]⟩ := by
  rw [attempt, run_bind, run_bind, run_ask, andThen_value]
  cases answer (environment position op) with
  | false => rfl
  | true => rfl

theorem run_fetch (op : Boot.Op) (answer : op.Answer → Option Value)
    (exception : Boot.Exception) (rest : Value → Program interface State Result) :
    (fetch op answer exception >>= rest).run environment state position =
      match answer (environment position op) with
      | some value =>
          let later := (rest value).run environment state (position + 1)
          { later with calls := ⟨state, op, environment position op⟩ :: later.calls }
      | none => ⟨.thrown exception, state, [⟨state, op, environment position op⟩]⟩ := by
  rw [fetch, run_bind, run_bind, run_ask, andThen_value]
  cases answer (environment position op) with
  | none => rfl
  | some value => rfl

theorem run_record (update : State → State) (rest : Unit → Program interface State Value) :
    (modify update >>= rest).run environment state position =
      (rest ()).run environment (update state) position := rfl

end Runs

/-- Every run of the program asks for the lines, makes the calls of their span, and does not fault. -/
def Tries (keeps : State → Prop) (pins : List GpioInfo)
    (program : Program interface State Value) : Prop :=
  ∀ environment state position, keeps state →
    Asking keeps environment pins position (program.run environment state position) ∧
      (program.run environment state position).calls.length = span environment pins position ∧
      ∀ reason, (program.run environment state position).outcome ≠ .fault reason

/-- The five calls of a read are split in the order in which they may fail. -/
theorem tries_readLine (gpio : GpioInfo) {record : Int → State → State}
    (preserved : ∀ value state, keeps state → keeps (record value state)) :
    Tries keeps [gpio] (readLine gpio record) := by
  intro environment state position initial
  unfold readLine
  simp only [run_attempt, run_fetch, run_record, run_pure, id, Nat.add_assoc, Nat.reduceAdd]
  cases opened : environment position (.openChip gpio.chip) with
  | false =>
      refine ⟨⟨initial, rfl, ?_⟩, ?_, nofun⟩
      · rw [grants, GpioInfo.granted, opened]
        rfl
      · rw [span, GpioInfo.span, opened]
        rfl
  | true =>
  cases found : environment (position + 1) (.getLine gpio.chip gpio.line) with
  | false =>
      refine ⟨⟨initial, rfl, ?_⟩, ?_, nofun⟩
      · rw [grants, GpioInfo.granted, opened, found]
        rfl
      · rw [span, GpioInfo.span, opened, found]
        rfl
  | true =>
  cases requested : environment (position + 2) (.requestInput gpio.chip gpio.line) with
  | false =>
      refine ⟨⟨initial, rfl, ?_⟩, ?_, nofun⟩
      · rw [grants, GpioInfo.granted, opened, found, requested]
        rfl
      · rw [span, GpioInfo.span, opened, found, requested]
        rfl
  | true =>
  cases read : environment (position + 3) (.getValue gpio.chip gpio.line) with
  | none =>
      refine ⟨⟨initial, rfl, ?_⟩, ?_, nofun⟩
      · rw [grants, GpioInfo.granted, opened, found, requested]
        rfl
      · rw [span, GpioInfo.span, opened, found, requested, read]
        rfl
  | some value =>
  cases freed : environment (position + 4) (.release gpio.chip gpio.line) with
  | false =>
      refine ⟨⟨preserved value state initial, rfl, ?_⟩, ?_, nofun⟩
      · rw [grants, GpioInfo.granted, opened, found, requested]
        rfl
      · rw [span, GpioInfo.span, opened, found, requested, read]
        rfl
  | true =>
      refine ⟨⟨preserved value state initial, rfl, ?_⟩, ?_, nofun⟩
      · rw [grants, GpioInfo.granted, opened, found, requested]
        rfl
      · rw [span, GpioInfo.span, opened, found, requested, read]
        rfl

theorem tries_map {pins : List GpioInfo} {program : Program interface State Value}
    (tries : Tries keeps pins program) (convert : Value → Result) :
    Tries keeps pins (program >>= fun value => Pure.pure (convert value)) := by
  intro environment state position initial
  obtain ⟨_, length, faultless⟩ := tries environment state position initial
  have asks : Asks keeps pins program :=
    fun environment state position initial => (tries environment state position initial).1
  refine ⟨asks_map asks convert environment state position initial, ?_⟩
  rw [run_bind]
  generalize program.run environment state position = run at length faultless ⊢
  rcases run with ⟨outcome, after, calls⟩
  cases outcome with
  | value value =>
      rw [andThen_value, run_pure, List.append_nil]
      exact ⟨length, nofun⟩
  | thrown exception => exact ⟨length, nofun⟩
  | fault reason => exact absurd rfl (faultless reason)

theorem reads_catch {pins : List GpioInfo} {program : Program interface State Value}
    (tries : Tries keeps pins program) (handled : Value) :
    Reads keeps pins (program.tryCatch fun _ => Pure.pure handled) := by
  intro environment state position initial
  have tried := tries environment state position initial
  rw [run_tryCatch]
  generalize program.run environment state position = run at tried ⊢
  obtain ⟨asking, length, faultless⟩ := tried
  rcases run with ⟨outcome, after, calls⟩
  cases outcome with
  | value value => exact ⟨asking, ⟨value, rfl⟩, length⟩
  | thrown exception =>
      simp only [Run.orElse, run_pure, List.append_nil]
      exact ⟨⟨asking.kept, asking.passive, asking.granted⟩, ⟨handled, rfl⟩, length⟩
  | fault reason => exact absurd rfl (faultless reason)

end Chassis.Gpio
