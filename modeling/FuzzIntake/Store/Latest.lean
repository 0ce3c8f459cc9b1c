/-!
# The latest row of every key

A statement must not touch one row of a database twice.  Of the rows with one
key only the latest is bound, in the place of the first.
-/

namespace FuzzIntake
namespace Latest

/-- The rows kept of those looked at so far. -/
structure Selection (α κ : Type) where
  /-- The kept rows. -/
  rows : List α
  /-- The keys of the kept rows, each with the place of its row. -/
  places : List (κ × Nat)

/-- No row is kept. -/
def Selection.empty {α κ : Type} : Selection α κ :=
  ⟨[], []⟩

/-- Keep a row, in the place of the kept row with its key or behind all if there is none. -/
def Selection.keep {α κ : Type} [DecidableEq κ] (key : α → κ) (selection : Selection α κ)
    (row : α) : Selection α κ :=
  match selection.places.lookup (key row) with
  | some place => { selection with rows := selection.rows.set place row }
  | none => ⟨selection.rows ++ [row], (key row, selection.rows.length) :: selection.places⟩

/-- The latest row of every key, in the order in which the keys first occur. -/
def rows {α κ : Type} [DecidableEq κ] (key : α → κ) (all : List α) : List α :=
  (all.foldl (Selection.keep key) Selection.empty).rows

end Latest
end FuzzIntake
