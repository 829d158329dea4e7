import Chassis.Effect.Exchange

namespace Chassis.Effect

variable {I : Interface} {State Inner Value Result : Type} {environment : Environment I}
  {position count more : Nat} {value : Value} {result : Result}

/-- From this position on the program returns the value after so many calls, whatever the state is,
and leaves the state alone. -/
def Senses (environment : Environment I) (position : Nat) (program : Program I State Value)
    (value : Value) (count : Nat) : Prop :=
  ∀ state, (program.run environment state position).outcome = .value value ∧
    (program.run environment state position).state = state ∧
    (program.run environment state position).calls.length = count

theorem senses_pure (value : Value) :
    Senses environment position (Pure.pure value : Program I State Value) value 0 :=
  fun _ => ⟨rfl, rfl, rfl⟩

theorem senses_ask_bind {op : I.Op} {rest : I.Answer op → Program I State Value}
    (later : Senses environment (position + 1) (rest (environment position op)) value count) :
    Senses environment position (Program.ask op >>= rest) value (count + 1) := by
  intro state
  obtain ⟨outcome, same, length⟩ := later state
  exact ⟨outcome, same, congrArg (· + 1) length⟩

/-- The rest goes on from the same state behind the calls of a program that senses. -/
theorem Senses.andThen {program : Program I State Value} {rest : Value → Program I State Result}
    (first : Senses environment position program value count) (state : State) :
    ((program >>= rest).run environment state position).outcome =
        ((rest value).run environment state (position + count)).outcome ∧
      ((program >>= rest).run environment state position).state =
        ((rest value).run environment state (position + count)).state ∧
      ((program >>= rest).run environment state position).calls.length =
        count + ((rest value).run environment state (position + count)).calls.length := by
  obtain ⟨outcome, same, length⟩ := first state
  rw [Program.run_bind]
  generalize program.run environment state position = run at outcome same length
  rcases run with ⟨_, _, calls⟩
  cases outcome
  cases same
  cases length
  exact ⟨rfl, rfl, by rw [andThen_value, List.length_append]⟩

theorem Senses.bind {program : Program I State Value} {rest : Value → Program I State Result}
    (first : Senses environment position program value count)
    (second : Senses environment (position + count) (rest value) result more) :
    Senses environment position (program >>= rest) result (count + more) := by
  intro state
  obtain ⟨outcome, same, length⟩ := @Senses.andThen _ _ _ _ _ _ _ _ _ rest first state
  obtain ⟨outcome', same', length'⟩ := second state
  exact ⟨outcome.trans outcome', same.trans same', length.trans (congrArg (count + ·) length')⟩

/-- A program that senses a part of a state senses the whole state as well. -/
theorem Senses.focus {program : Program I Inner Value} {replace : Inner → State → State}
    {inner : State → Inner} (back : ∀ state, replace (inner state) state = state)
    (overwrite : ∀ first second state, replace second (replace first state) = replace second state)
    (senses : Senses environment position program value count) :
    Senses environment position
      (Program.read >>= fun state => program.focus replace (inner state)) value count := by
  intro state
  obtain ⟨_, ops, kept, ended⟩ :=
    Program.run_focus overwrite program (inner state) environment state position
  rw [back state] at ops kept ended
  obtain ⟨outcome, same, length⟩ := senses (inner state)
  have lengths := congrArg List.length ops
  simp only [Run.ops, List.length_map] at lengths
  exact ⟨ended.trans outcome, kept.trans (by rw [same, back]), lengths.trans length⟩

end Chassis.Effect
