import FuzzIntake.Store.Tables

/-!
# Writes that change places

Single writes to the tables, and the pairs of them whose order does not matter.
A write of programs only touches programs, writes of runs and feedback only touch
runs, and writes about different programs never meet.
-/

namespace FuzzIntake

namespace Tables

/-- The tables after one operation. -/
def perform (tables : Tables) : Operation → Tables
  | .createFuzzer => tables.addFuzzers 1
  | .fuzzerProgram program fuzzerId => tables.insertProgram ⟨program, fuzzerId⟩
  | .testProgram program fuzzerId => tables.insertProgram ⟨program, fuzzerId⟩
  | .execution run => tables.insertExecution ⟨run.program, run.categoryId, .ofRun run⟩
  | .updateFeedback program feedback => tables.setFeedback ⟨program, feedback⟩
  | .delete program => tables.deleteProgram program

/-- Deletions leave the number of fuzzers alone. -/
@[simp] theorem fuzzers_deleteProgram (tables : Tables) (program : String) :
    (tables.deleteProgram program).fuzzers = tables.fuzzers := rfl

@[simp] theorem fuzzers_insertProgram (tables : Tables) (row : ProgramRow) :
    (tables.insertProgram row).fuzzers = tables.fuzzers := rfl

@[simp] theorem fuzzers_insertExecution (tables : Tables) (row : ExecutionRow) :
    (tables.insertExecution row).fuzzers = tables.fuzzers := rfl

@[simp] theorem fuzzers_setFeedback (tables : Tables) (row : FeedbackRow) :
    (tables.setFeedback row).fuzzers = tables.fuzzers := rfl

@[simp] theorem fuzzers_addFuzzers (tables : Tables) (count : Nat) :
    (tables.addFuzzers count).fuzzers = tables.fuzzers + count := rfl

@[simp] theorem addFuzzers_zero (tables : Tables) : tables.addFuzzers 0 = tables := rfl

/-- Fuzzers are handed out one at a time or several at once. -/
theorem addFuzzers_addFuzzers (tables : Tables) (first second : Nat) :
    (tables.addFuzzers first).addFuzzers second = tables.addFuzzers (first + second) := by
  simp only [addFuzzers, Nat.add_assoc]

/-- An insert and a deletion of another program change places. -/
theorem insertProgram_deleteProgram
    (tables : Tables)
    {row : ProgramRow}
    {program : String}
    (different : row.program ≠ program) :
    (tables.insertProgram row).deleteProgram program =
      (tables.deleteProgram program).insertProgram row := by
  simp only [insertProgram, deleteProgram, Tables.mk.injEq, true_and, and_true]
  apply Std.ExtTreeMap.ext_getElem?
  intro key
  by_cases same : row.program = key
  · subst same
    simp [Std.ExtTreeMap.getElem?_erase, Ne.symm different]
  · simp [Std.ExtTreeMap.getElem?_erase, Std.ExtTreeMap.getElem?_alter, same]

/-- A run and feedback for another program change places. -/
theorem insertExecution_setFeedback
    (tables : Tables)
    {row : ExecutionRow}
    {change : FeedbackRow}
    (different : row.program ≠ change.program) :
    (tables.insertExecution row).setFeedback change =
      (tables.setFeedback change).insertExecution row := by
  simp only [insertExecution, setFeedback, Tables.mk.injEq, true_and]
  apply Std.ExtTreeMap.ext_getElem?
  intro key
  rw [Std.ExtTreeMap.getElem?_map, Std.ExtTreeMap.getElem?_insert,
    Std.ExtTreeMap.getElem?_insert, Std.ExtTreeMap.getElem?_map]
  by_cases same : (row.program, row.categoryId) = key
  · subst same
    simp [different]
  · simp [same]

/-- A run and the deletion of another program change places. -/
theorem insertExecution_deleteProgram
    (tables : Tables)
    {row : ExecutionRow}
    {program : String}
    (different : row.program ≠ program) :
    (tables.insertExecution row).deleteProgram program =
      (tables.deleteProgram program).insertExecution row := by
  simp only [insertExecution, deleteProgram, Tables.mk.injEq, true_and]
  apply Std.ExtTreeMap.ext_getElem?
  intro key
  rw [Std.ExtTreeMap.getElem?_filter', Std.ExtTreeMap.getElem?_insert,
    Std.ExtTreeMap.getElem?_insert, Std.ExtTreeMap.getElem?_filter']
  by_cases same : (row.program, row.categoryId) = key
  · subst same
    simp [different]
  · simp [same]

/-- Feedback and a deletion change places, also for the same program. -/
theorem setFeedback_deleteProgram
    (tables : Tables)
    (change : FeedbackRow)
    (program : String) :
    (tables.setFeedback change).deleteProgram program =
      (tables.deleteProgram program).setFeedback change := by
  simp only [setFeedback, deleteProgram, Tables.mk.injEq, true_and]
  apply Std.ExtTreeMap.ext_getElem?
  intro key
  rw [Std.ExtTreeMap.getElem?_filter', Std.ExtTreeMap.getElem?_map,
    Std.ExtTreeMap.getElem?_map, Std.ExtTreeMap.getElem?_filter']
  by_cases kept : key.1 = program
  · simp [kept]
  · cases tables.executions[key]? with
    | none => rfl
    | some record => simp [kept, Option.filter]

end Tables
end FuzzIntake
