namespace Chassis.Effect

variable {Error Value Result : Type}

@[simp] theorem ok_bind (value : Value) (next : Value → Except Error Result) :
    (Except.ok value >>= next) = next value := rfl

@[simp] theorem pure_eq_ok (value : Value) : (pure value : Except Error Value) = .ok value := rfl

@[simp] theorem error_bind (error : Error) (next : Value → Except Error Result) :
    (Except.error error >>= next) = .error error := rfl

/-- A sequence returns exactly when both parts do. -/
theorem bind_eq_ok {first : Except Error Value} {next : Value → Except Error Result}
    {result : Result} :
    (first >>= next) = .ok result ↔ ∃ value, first = .ok value ∧ next value = .ok result := by
  cases first with
  | error error => simp
  | ok value => simp

/-- A sequence throws exactly when its first part does, or the second one after it. -/
theorem bind_eq_error {first : Except Error Value} {next : Value → Except Error Result}
    {error : Error} :
    (first >>= next) = .error error ↔
      first = .error error ∨ ∃ value, first = .ok value ∧ next value = .error error := by
  cases first with
  | error other => simp
  | ok value => simp

end Chassis.Effect
