import Mathlib.Logic.Basic

/-!
# Outcomes of steps that can fail

When a step that is made from others succeeds, and what it fails with.
-/

namespace AssessmentRequest.Outcome

variable {α β ε φ : Type}

/-- A mapped result is a result of the map. -/
theorem map_eq_ok_iff {change : α → β} {step : Except ε α} {value : β} :
    step.map change = .ok value ↔ ∃ source, step = .ok source ∧ change source = value := by
  cases step <;> simp [Except.map]

/-- A map changes no failure. -/
theorem map_eq_error_iff {change : α → β} {step : Except ε α} {failure : ε} :
    step.map change = .error failure ↔ step = .error failure := by
  cases step <;> simp [Except.map]

/-- A change of failures changes no result. -/
theorem mapError_eq_ok_iff {change : ε → φ} {step : Except ε α} {value : α} :
    step.mapError change = .ok value ↔ step = .ok value := by
  cases step with
  | ok taken =>
    show (Except.ok taken : Except φ α) = .ok value ↔ _
    simp
  | error failure =>
    show (Except.error (change failure) : Except φ α) = .ok value ↔ _
    simp

/-- A changed failure is a failure of the step. -/
theorem mapError_eq_error_iff {change : ε → φ} {step : Except ε α} {failure : φ} :
    step.mapError change = .error failure ↔
      ∃ source, step = .error source ∧ change source = failure := by
  cases step with
  | ok taken =>
    show (Except.ok taken : Except φ α) = .error failure ↔ _
    simp
  | error source =>
    show (Except.error (change source) : Except φ α) = .error failure ↔ _
    simp

/-- A sequence of two steps succeeds if both do. -/
theorem bind_eq_ok_iff {first : Except ε α} {second : α → Except ε β} {result : β} :
    first >>= second = .ok result ↔ ∃ value, first = .ok value ∧ second value = .ok result := by
  cases first <;> simp [bind, Except.bind]

/-- A sequence of two steps fails if the first does, or the second after it. -/
theorem bind_eq_error_iff {first : Except ε α} {second : α → Except ε β} {failure : ε} :
    first >>= second = .error failure ↔
      first = .error failure ∨ ∃ value, first = .ok value ∧ second value = .error failure := by
  cases first <;> simp [bind, Except.bind]

end AssessmentRequest.Outcome
