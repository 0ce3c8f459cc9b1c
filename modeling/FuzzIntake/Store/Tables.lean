import FuzzIntake.Plan
import Std.Data.ExtTreeMap

/-!
# Tables

The stored rows: programs by their key, runs by program and category, and the
number of fuzzers handed out.  Inserting a program that is there leaves its
fuzzer and counts the write; a run is overwritten; feedback changes all runs of
its program; deleting a program deletes its runs.
-/

namespace FuzzIntake

/-- What is stored of a program. -/
structure ProgramRecord where
  /-- The fuzzer that first reported the program. -/
  fuzzerId : Int64
  /-- How many inserts touched the row. -/
  writes : Nat
deriving DecidableEq, Repr

/-- The key of a run: its program and its category. -/
abbrev RunKey : Type :=
  String × Int64

/-- Runs are ordered by program, then by category. -/
abbrev RunKey.order : RunKey → RunKey → Ordering :=
  @compare RunKey lexOrd

/-- The rows of a store. -/
structure Tables where
  /-- The number of fuzzers handed out, which is the newest fuzzer's number. -/
  fuzzers : Nat
  /-- The programs. -/
  programs : Std.ExtTreeMap String ProgramRecord
  /-- The runs. -/
  executions : Std.ExtTreeMap RunKey ExecutionRecord RunKey.order

namespace Tables

/-- Tables without rows. -/
def empty : Tables :=
  ⟨0, ∅, ∅⟩

/-- Insert a program, or count one more write of the one that is there. -/
def insertProgram (tables : Tables) (row : ProgramRow) : Tables :=
  { tables with
    programs := tables.programs.alter row.program fun held =>
      match held with
      | some record => some { record with writes := record.writes + 1 }
      | none => some ⟨row.fuzzerId, 1⟩ }

/-- Insert a run or overwrite it. -/
def insertExecution (tables : Tables) (row : ExecutionRow) : Tables :=
  { tables with
    executions := tables.executions.insert (row.program, row.categoryId) row.record }

/-- Set the feedback of all runs of a program. -/
def setFeedback (tables : Tables) (row : FeedbackRow) : Tables :=
  { tables with
    executions := tables.executions.map fun key record =>
      if key.1 = row.program then { record with feedback := row.feedback } else record }

/-- Delete a program and its runs. -/
def deleteProgram (tables : Tables) (program : String) : Tables :=
  { tables with
    programs := tables.programs.erase program
    executions := tables.executions.filter fun key _ => key.1 ≠ program }

/-- Hand out the fuzzers a plan asks for. -/
def addFuzzers (tables : Tables) (count : Nat) : Tables :=
  { tables with fuzzers := tables.fuzzers + count }

/-- Write one group of a plan. -/
def applyGroup (plan : Plan) (tables : Tables) : RowGroup → Tables
  | .programs => plan.programs.foldl insertProgram (tables.addFuzzers plan.fuzzers)
  | .executions => plan.executions.foldl insertExecution tables
  | .feedback => plan.feedback.foldl setFeedback tables
  | .deletes => plan.deletes.foldl deleteProgram tables

/-- Write all groups of a plan. -/
def applyPlan (plan : Plan) (tables : Tables) : Tables :=
  plan.groups.foldl (applyGroup plan) tables

/-- The numbers of the next fuzzers. -/
def nextFuzzers (tables : Tables) (count : Nat) : List Int :=
  (List.range count).map fun index => (tables.fuzzers + index + 1 : Nat)

end Tables
end FuzzIntake
