import FuzzIntake.Span
import FuzzIntake.Store.Local

/-!
# Slow and crashing stores

A store in memory behind two switches: how long it takes to answer, and how many
of the next plans make it crash.
-/

namespace FuzzIntake

/-- A store in memory behind switches. -/
structure SwitchedStore where
  /-- The store. -/
  store : LocalStore
  /-- How long it takes to answer. -/
  delay : Span
  /-- How many of the next plans make it crash. -/
  crashes : Nat

namespace SwitchedStore

/-- An empty store that answers at once. -/
def empty : SwitchedStore :=
  ⟨.empty, ⟨0⟩, 0⟩

instance : PlanStore SwitchedStore where
  apply plan switched :=
    let (result, store) := switched.store.apply plan
    (result, { switched with store := store })
  close switched := { switched with store := switched.store.close }

end SwitchedStore
end FuzzIntake
