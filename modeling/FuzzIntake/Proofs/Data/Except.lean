import Mathlib.Logic.Basic

/-!
# Steps that may fail

A step that may fail gives a result or an error.  A result of steps that are chained, converted
or reworded is there exactly if the results are there that it is made of.
-/

namespace Except

variable {α β ε φ : Type} {value : α} {error : ε}

/-- A result that goes into another step is there, and the step has the result. -/
theorem bind_eq_ok_iff
    {first : Except ε β}
    {second : β → Except ε α} :
    (first >>= second) = .ok value ↔ ∃ found, first = .ok found ∧ second found = .ok value := by
  cases first with
  | error fault =>
      apply iff_of_false
      · intro bound
        cases bound
      · rintro ⟨found, failed, -⟩
        cases failed
  | ok found =>
      constructor
      · intro bound
        exact ⟨found, rfl, bound⟩
      · rintro ⟨other, same, bound⟩
        cases same
        exact bound

/-- Two checks pass if the first one does and then the second one. -/
theorem check_eq_ok_iff
    {first : Except ε Unit}
    {second : Unit → Except ε Unit} :
    (first >>= second) = .ok () ↔ first = .ok () ∧ second () = .ok () := by
  rw [bind_eq_ok_iff]
  constructor
  · rintro ⟨⟨⟩, passed, rest⟩
    exact ⟨passed, rest⟩
  · rintro ⟨passed, rest⟩
    exact ⟨(), passed, rest⟩

/-- A result is there with its errors reworded exactly if it is there. -/
theorem mapError_eq_ok_iff {result : Except ε α} {wording : ε → φ} :
    result.mapError wording = .ok value ↔ result = .ok value := by
  cases result with
  | error fault =>
      change Except.error (wording fault) = .ok value ↔ Except.error fault = .ok value
      simp
  | ok found =>
      change Except.ok found = .ok value ↔ Except.ok found = .ok value
      simp

/-- A reworded error is one of the errors reworded. -/
theorem mapError_eq_error_iff {result : Except φ α} {wording : φ → ε} :
    result.mapError wording = .error error ↔
      ∃ fault, result = .error fault ∧ wording fault = error := by
  cases result with
  | error found =>
      change Except.error (wording found) = .error error ↔ _
      simp
  | ok found =>
      change Except.ok found = .error error ↔ _
      simp

/-- A result that is converted is there exactly if it was, and an error stays what it was. -/
theorem map_eq_ok_iff {result : Except ε β} {convert : β → α} :
    result.map convert = .ok value ↔ ∃ found, result = .ok found ∧ convert found = value := by
  cases result with
  | error fault => simp [Except.map]
  | ok found => simp [Except.map]

theorem map_eq_error_iff {result : Except ε β} {convert : β → α} :
    result.map convert = .error error ↔ result = .error error := by
  cases result with
  | error fault => simp [Except.map]
  | ok found => simp [Except.map]

/-- A result that can be read as a value is that value. -/
theorem eq_ok_of_toOption
    {result : Except ε α}
    (read : result.toOption = some value) :
    result = .ok value := by
  cases result with
  | error fault => cases read
  | ok found => rw [Option.some.inj read]

end Except
