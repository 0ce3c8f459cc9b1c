import FuzzIntake.Store
import FuzzIntake.Store.Statement

/-!
# Stores in relational databases

A plan is written in one transaction.  The first statement that fails ends it:
nothing but the rollback follows.  A transaction whose commit or rollback fails
is rolled back once more.
-/

namespace FuzzIntake

/-- Why a database did not carry out a request. -/
inductive DatabaseError
  | reported (message : String)
  | unreachable (detail : String)
deriving DecidableEq, Repr

/-- The wording of a database error. -/
def DatabaseError.message : DatabaseError → String
  | .reported message => "error returned from database: " ++ message
  | .unreachable detail => "error communicating with database: " ++ detail

/-- Databases that carry out statements. -/
class Database (σ : Type) where
  /-- Carry out a statement; the number is that of the new fuzzer, if one was asked for. -/
  answer : Statement → σ → Except DatabaseError Int64 × σ

/-- A store in a relational database. -/
structure RelationalStore (σ : Type) where
  /-- The database. -/
  database : σ
  /-- The statements sent so far. -/
  sent : List Statement
  /-- Whether every later plan is refused. -/
  closed : Bool

namespace RelationalStore

variable {σ : Type} [Database σ]

/-- A store on the database that a login reached. -/
def connect {σ : Type} : Except DatabaseError σ → Except StoreError (RelationalStore σ)
  | .ok database => .ok ⟨database, [], false⟩
  | .error error => .error (.connect error.message)

/-- Send a statement. -/
def send (statement : Statement) (store : RelationalStore σ) :
    Except DatabaseError Int64 × RelationalStore σ :=
  let (answer, database) := Database.answer statement store.database
  (answer, { store with database := database, sent := store.sent ++ [statement] })

/-- Send statements up to the first that fails; `fuzzerIds` are those handed out before. -/
def write : (fuzzerIds : List Int) → List (RowGroup × Statement) → RelationalStore σ →
    Except (RowGroup × DatabaseError) (List Int) × RelationalStore σ
  | fuzzerIds, [], store => (.ok fuzzerIds, store)
  | fuzzerIds, (group, statement) :: rest, store =>
      match store.send statement with
      | (.error error, store) => (.error (group, error), store)
      | (.ok id, store) =>
          match statement with
          | .createFuzzer => write (fuzzerIds ++ [id.toInt]) rest store
          | _ => write fuzzerIds rest store

/-- End a transaction; if that fails, roll it back once more. -/
def finish (statement : Statement) (store : RelationalStore σ) :
    Except DatabaseError Int64 × RelationalStore σ :=
  match store.send statement with
  | (.ok id, store) => (.ok id, store)
  | (.error error, store) => (.error error, (store.send .rollback).2)

/-- Write a plan in one transaction. -/
def apply (plan : Plan) (store : RelationalStore σ) :
    Except StoreError Receipt × RelationalStore σ :=
  if store.closed then
    (.error .closed, store)
  else
    match store.send .start with
    | (.error error, store) => (.error (.transaction error.message), store)
    | (.ok _, store) =>
        match store.write [] plan.statements with
        | (.error (group, error), store) =>
            (.error (.group group error.message), (store.finish .rollback).2)
        | (.ok fuzzerIds, store) =>
            match store.finish .commit with
            | (.error error, store) => (.error (.transaction error.message), store)
            | (.ok _, store) => (.ok (plan.receipt fuzzerIds), store)

/-- Refuse every later plan. -/
def close {σ : Type} (store : RelationalStore σ) : RelationalStore σ :=
  { store with closed := true }

instance : PlanStore (RelationalStore σ) where
  apply := apply
  close := close

end RelationalStore
end FuzzIntake
