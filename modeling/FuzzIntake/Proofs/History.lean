import Mathlib.Data.List.Basic

/-!
# What is told of a run

A run tells what happens in it as a list, oldest first.  Most of what is to be said about such a
list is that each of its items fits what was told before it.
-/

namespace FuzzIntake
namespace History

variable {α : Type} {fits : List α → α → Prop} {told news : List α}

/-- Everything told fits what was told before it. -/
def Each (fits : List α → α → Prop) (told : List α) : Prop :=
  ∀ before item after, told = before ++ item :: after → fits before item

theorem each_nil (fits : List α → α → Prop) : Each fits [] := by
  intro before item after split
  simp at split

/-- Everything told fits if the earlier items fit, and the later ones after the earlier ones. -/
theorem Each.append
    (each : Each fits told)
    (further : Each (fun before => fits (told ++ before)) news) :
    Each fits (told ++ news) := by
  intro before item after split
  rcases List.append_eq_append_iff.mp split with ⟨between, rfl, later⟩ | ⟨between, same, later⟩
  · exact further between item after later
  · cases between with
    | nil =>
        rw [List.append_nil] at same
        have now : fits (told ++ []) item := further [] item after later.symm
        rwa [List.append_nil, same] at now
    | cons other rest =>
        obtain ⟨rfl, rfl⟩ := List.cons.inj later
        exact each before item rest same

/-- One more item fits if it fits everything told before it. -/
theorem Each.concat
    {item : α}
    (each : Each fits told)
    (fit : fits told item) :
    Each fits (told ++ [item]) := by
  apply each.append
  intro before other after split
  cases before with
  | nil =>
      obtain ⟨rfl, -⟩ := List.cons.inj split
      rwa [List.append_nil]
  | cons first rest => simp at split

/-- Items that fit whatever was told before them fit anywhere. -/
theorem Each.append_of_forall
    (each : Each fits told)
    (always : ∀ item ∈ news, ∀ before, fits before item) :
    Each fits (told ++ news) := by
  apply each.append
  rintro before item after rfl
  exact always item (by simp) _

end History
end FuzzIntake
