import FuzzIntake.Store.Relational

/-!
# Rehearsing a database

A database that hands out given fuzzer numbers in turn, then zero, and can be
told to let one of the next statements fail.
-/

namespace FuzzIntake

/-- A database that follows a script. -/
structure ScriptedDatabase where
  /-- The numbers of the next fuzzers. -/
  fuzzerIds : List Int64
  /-- How many statements succeed before one fails, if one is to fail. -/
  beforeFailure : Option Nat
  /-- What the failing statement is told. -/
  message : String

namespace ScriptedDatabase

/-- Hand out the next fuzzer if the statement asks for one. -/
def carryOut (statement : Statement) (database : ScriptedDatabase) :
    Int64 × ScriptedDatabase :=
  match statement, database.fuzzerIds with
  | .createFuzzer, id :: rest => (id, { database with fuzzerIds := rest })
  | _, _ => (0, database)

instance : Database ScriptedDatabase where
  answer statement database :=
    match database.beforeFailure with
    | some 0 => (.error (.reported database.message), { database with beforeFailure := none })
    | some (before + 1) =>
        let (id, database) := database.carryOut statement
        (.ok id, { database with beforeFailure := some before })
    | none =>
        let (id, database) := database.carryOut statement
        (.ok id, database)

end ScriptedDatabase
end FuzzIntake
