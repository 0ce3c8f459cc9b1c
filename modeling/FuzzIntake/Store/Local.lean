import FuzzIntake.Store
import FuzzIntake.Store.Tables

/-!
# Stores in memory

A store in memory applies a plan to its tables at once.  It keeps a journal of
the groups it wrote, can be told to fail a number of plans that reach a group,
and a failed plan leaves tables and journal as they were.
-/

namespace FuzzIntake

/-- A store in memory. -/
structure LocalStore where
  /-- The stored rows. -/
  tables : Tables
  /-- The groups of the committed plans, in the order they were written. -/
  journal : List RowGroup
  /-- How many of the next plans that reach a group fail there. -/
  failures : RowGroup → Nat
  /-- The plans taken while the store was open. -/
  plansTaken : Nat
  /-- Whether every later plan is refused. -/
  closed : Bool

namespace LocalStore

/-- An open store without rows. -/
def empty : LocalStore :=
  ⟨.empty, [], fun _ => 0, 0, false⟩

/-- Make the next `times` plans that reach `group` fail there. -/
def injectFailures (store : LocalStore) (group : RowGroup) (times : Nat) : LocalStore :=
  { store with
    failures := fun other => if other = group then times else store.failures other }

/-- The first group of a plan that is told to fail. -/
def failingGroup? (store : LocalStore) (plan : Plan) : Option RowGroup :=
  plan.groups.find? fun group => 0 < store.failures group

/-- Write a plan; a failing group uses up one of its failures and writes nothing. -/
def apply (plan : Plan) (store : LocalStore) :
    Except StoreError Receipt × LocalStore :=
  if store.closed then
    (.error .closed, store)
  else
    let store := { store with plansTaken := store.plansTaken + 1 }
    match store.failingGroup? plan with
    | some group =>
        (.error (.group group "injected failure"),
          store.injectFailures group (store.failures group - 1))
    | none =>
        (.ok (plan.receipt (store.tables.nextFuzzers plan.fuzzers)),
          { store with
            tables := store.tables.applyPlan plan
            journal := store.journal ++ plan.groups })

/-- Refuse every later plan. -/
def close (store : LocalStore) : LocalStore :=
  { store with closed := true }

instance : PlanStore LocalStore where
  apply := apply
  close := close

end LocalStore
end FuzzIntake
