import FuzzIntake.Operation

/-!
# Write plans

A batch is written as four groups in a fixed order: programs (with the requests
for new fuzzers), executions, feedback and deletes.  A plan holds the rows of
one batch split by group, each group in the order of arrival.
-/

namespace FuzzIntake

/-- The groups of a plan. -/
inductive RowGroup
  | programs
  | executions
  | feedback
  | deletes
deriving DecidableEq, Repr

namespace RowGroup

/-- The groups in the order they are written. -/
def order : List RowGroup :=
  [.programs, .executions, .feedback, .deletes]

/-- The name of a group. -/
def name : RowGroup → String
  | .programs => "programs"
  | .executions => "executions"
  | .feedback => "feedback"
  | .deletes => "deletes"

/-- The group of a name. -/
def ofName? (text : String) : Option RowGroup :=
  order.find? fun group => group.name = text

end RowGroup

/-- A program to insert. -/
structure ProgramRow where
  /-- The program. -/
  program : String
  /-- The fuzzer that reported it. -/
  fuzzerId : Int64
deriving DecidableEq, Repr

/-- What is stored of a run besides its key. -/
structure ExecutionRecord where
  /-- The feedback of the run, if any. -/
  feedback : Option Json.Value
  /-- The intermediate code of the program. -/
  intermediateCode : String
  /-- The coverage the run reached. -/
  coverage : Double
  /-- The build flags of the run. -/
  flags : List String
deriving BEq, Repr

/-- What is stored of a reported run besides its key. -/
def ExecutionRecord.ofRun (run : Execution) : ExecutionRecord :=
  ⟨run.feedback, run.intermediateCode, run.coverage, run.flags⟩

/-- A run to insert or overwrite. -/
structure ExecutionRow where
  /-- The program that ran. -/
  program : String
  /-- The category of the run. -/
  categoryId : Int64
  /-- What is stored of the run. -/
  record : ExecutionRecord
deriving BEq, Repr

/-- Feedback to set on all runs of a program. -/
structure FeedbackRow where
  /-- The program whose runs change. -/
  program : String
  /-- The new feedback, if any. -/
  feedback : Option Json.Value
deriving BEq, Repr

/-- The rows of one batch, split by group. -/
structure Plan where
  /-- The number of new fuzzers asked for. -/
  fuzzers : Nat
  /-- The programs to insert. -/
  programs : List ProgramRow
  /-- The runs to insert or overwrite. -/
  executions : List ExecutionRow
  /-- The feedback to set. -/
  feedback : List FeedbackRow
  /-- The programs to delete with their runs. -/
  deletes : List String
deriving BEq, Repr

namespace Plan

/-- The plan without rows. -/
def empty : Plan :=
  ⟨0, [], [], [], []⟩

/-- A plan that asks for nothing. -/
def isEmpty (plan : Plan) : Bool :=
  plan.fuzzers == 0 && plan.programs.isEmpty && plan.executions.isEmpty &&
    plan.feedback.isEmpty && plan.deletes.isEmpty

/-- The number of rows in a group; requests for fuzzers count with the programs. -/
def rows (plan : Plan) : RowGroup → Nat
  | .programs => plan.fuzzers + plan.programs.length
  | .executions => plan.executions.length
  | .feedback => plan.feedback.length
  | .deletes => plan.deletes.length

/-- The groups with rows, in the order they are written. -/
def groups (plan : Plan) : List RowGroup :=
  RowGroup.order.filter fun group => 0 < plan.rows group

/-- A plan with one more operation at its end. -/
def add (plan : Plan) : Operation → Plan
  | .createFuzzer => { plan with fuzzers := plan.fuzzers + 1 }
  | .fuzzerProgram program fuzzerId =>
      { plan with programs := plan.programs ++ [⟨program, fuzzerId⟩] }
  | .testProgram program fuzzerId =>
      { plan with programs := plan.programs ++ [⟨program, fuzzerId⟩] }
  | .execution run =>
      let row := ⟨run.program, run.categoryId, .ofRun run⟩
      { plan with executions := plan.executions ++ [row] }
  | .updateFeedback program feedback =>
      { plan with feedback := plan.feedback ++ [⟨program, feedback⟩] }
  | .delete program => { plan with deletes := plan.deletes ++ [program] }

/-- The operations split by group, in the order of arrival within each. -/
def ofOperations (operations : List Operation) : Plan :=
  operations.foldl add empty

end Plan

/-- What a committed plan produced. -/
structure Receipt where
  /-- The numbers of the new fuzzers. -/
  fuzzerIds : List Int
  /-- The program rows of the plan. -/
  programs : Nat
  /-- The execution rows of the plan. -/
  executions : Nat
  /-- The feedback rows of the plan. -/
  feedback : Nat
  /-- The deletes of the plan. -/
  deletes : Nat
deriving DecidableEq, Repr

/-- The summary of a plan without rows. -/
def Receipt.empty : Receipt :=
  ⟨[], 0, 0, 0, 0⟩

/-- The row counts of a plan, and the fuzzers it produced. -/
def Plan.receipt (plan : Plan) (fuzzerIds : List Int) : Receipt :=
  ⟨fuzzerIds, plan.programs.length, plan.executions.length, plan.feedback.length,
    plan.deletes.length⟩

end FuzzIntake
