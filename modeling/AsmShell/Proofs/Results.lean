/-!
# Results of steps

A computation that may fail is made of steps, and is taken apart by what it ends with:
it succeeds where each step does, and fails where the first step that fails does.
-/

namespace AsmShell

section

variable
    {Error Other First Second : Type}
    {result : Except Error First}

/-- A sequence succeeds with a value if both its parts do, the second one with this value. -/
theorem bind_eq_ok
    {next : First → Except Error Second}
    {value : Second} :
    result >>= next = .ok value ↔ ∃ between, result = .ok between ∧ next between = .ok value := by
  cases result <;> simp [bind, Except.bind]

/-- A sequence fails in its first part, or in its second behind a first one that succeeds. -/
theorem bind_eq_error
    {next : First → Except Error Second}
    {error : Error} :
    result >>= next = .error error ↔
      result = .error error ∨ ∃ between, result = .ok between ∧ next between = .error error := by
  cases result <;> simp [bind, Except.bind]

/-- A changed value comes from a value. -/
theorem map_eq_ok
    {change : First → Second}
    {value : Second} :
    result.map change = .ok value ↔ ∃ between, result = .ok between ∧ change between = value := by
  cases result <;> simp [Except.map]

/-- Changing the value leaves an error as it is. -/
theorem map_eq_error
    {change : First → Second}
    {error : Error} :
    result.map change = .error error ↔ result = .error error := by
  cases result <;> simp [Except.map]

/-- Changing the error leaves a value as it is. -/
theorem mapError_eq_ok
    {change : Error → Other}
    {value : First} :
    result.mapError change = .ok value ↔ result = .ok value := by
  cases result with
  | ok found =>
      constructor
      · intro same
        exact congrArg Except.ok (Except.ok.inj same)
      · rintro ⟨⟩
        rfl
  | error reason => exact ⟨nofun, nofun⟩

/-- A changed error comes from an error. -/
theorem mapError_eq_error
    {change : Error → Other}
    {error : Other} :
    result.mapError change = .error error ↔
      ∃ reason, result = .error reason ∧ change reason = error := by
  cases result with
  | ok found => exact ⟨nofun, fun ⟨_, impossible, _⟩ => nomatch impossible⟩
  | error reason =>
      constructor
      · intro same
        exact ⟨reason, rfl, Except.error.inj same⟩
      · rintro ⟨_, ⟨⟩, rfl⟩
        rfl

/-- The error of a sequence can be changed in each of its parts. -/
theorem mapError_bind
    (change : Error → Other)
    (first : Except Error First)
    (next : First → Except Error Second) :
    (first >>= next).mapError change =
      first.mapError change >>= fun value => (next value).mapError change := by
  cases first <;> rfl

end

end AsmShell
