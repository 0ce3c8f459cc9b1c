import FuzzIntake.Store.Statement
import FuzzIntake.Store.Tables

/-!
# Tables key by key

What rows of one group leave under a key depends on what was held under it and on the rows about
it alone: a program keeps its fuzzer or gets that of its first row, a run is that of its last row,
the last feedback of a program is set on all its runs, and a deletion leaves nothing.
-/

namespace FuzzIntake
namespace Tables

/-- Inserts count, and leave the fuzzer of a program or give it that of its first row. -/
theorem getElem?_foldl_insertProgram
    (rows : List ProgramRow)
    (tables : Tables)
    (program : String) :
    (rows.foldl insertProgram tables).programs[program]? =
      (tables.programs[program]?.or
          ((rows.find? fun row => row.program = program).map fun row => ⟨row.fuzzerId, 0⟩)).map
        fun record =>
          { record with
            writes := record.writes + rows.countP fun row => row.program = program } := by
  induction rows generalizing tables with
  | nil => simp
  | cons row rest inductionHypothesis =>
      rw [List.foldl_cons, inductionHypothesis, List.find?_cons, List.countP_cons, insertProgram,
        Std.ExtTreeMap.getElem?_alter]
      by_cases same : row.program = program
      · subst same
        cases tables.programs[row.program]? with
        | none => simp [Nat.add_comm]
        | some record => simp [Nat.add_assoc, Nat.add_comm 1]
      · simp [same]

/-- Runs that are inserted leave the last one of every key, which hides the earlier ones. -/
theorem getElem?_foldl_insertExecution
    (rows : List ExecutionRow)
    (tables : Tables)
    (key : RunKey) :
    (rows.foldl insertExecution tables).executions[key]? =
      ((rows.reverse.find? fun row => row.key = key).map ExecutionRow.record).or
        tables.executions[key]? := by
  induction rows generalizing tables with
  | nil => exact Option.none_or.symm
  | cons row rest inductionHypothesis =>
      have inserted : (tables.insertExecution row).executions[key]? =
          if row.key = key then some row.record else tables.executions[key]? := by
        rw [insertExecution, Std.ExtTreeMap.getElem?_insert]
        simp only [Std.LawfulEqCmp.compare_eq_iff_eq]
        rfl
      rw [List.foldl_cons, inductionHypothesis, inserted, List.reverse_cons, List.find?_append]
      cases rest.reverse.find? fun row => row.key = key with
      | some later => rfl
      | none =>
          by_cases same : row.key = key
          · simp [same]
          · simp [same]

/-- Feedback that is set leaves the last one of every program on all its runs. -/
theorem getElem?_foldl_setFeedback
    (rows : List FeedbackRow)
    (tables : Tables)
    (key : RunKey) :
    (rows.foldl setFeedback tables).executions[key]? =
      tables.executions[key]?.map fun record =>
        { record with
          feedback := ((rows.reverse.find? fun row => row.program = key.1).map
            FeedbackRow.feedback).getD record.feedback } := by
  induction rows generalizing tables with
  | nil => exact Option.map_id'.symm
  | cons row rest inductionHypothesis =>
      rw [List.foldl_cons, inductionHypothesis, setFeedback, Std.ExtTreeMap.getElem?_map,
        Option.map_map, List.reverse_cons, List.find?_append]
      congr 1
      funext record
      cases rest.reverse.find? fun row => row.program = key.1 with
      | some later =>
          by_cases same : key.1 = row.program
          · simp [same]
          · simp [same]
      | none =>
          by_cases same : key.1 = row.program
          · simp [same]
          · simp [same, Ne.symm same]

theorem getElem?_programs_foldl_deleteProgram
    (deleted : List String)
    (tables : Tables)
    (program : String) :
    (deleted.foldl deleteProgram tables).programs[program]? =
      if program ∈ deleted then none else tables.programs[program]? := by
  induction deleted generalizing tables with
  | nil => simp
  | cons first rest inductionHypothesis =>
      rw [List.foldl_cons, inductionHypothesis, deleteProgram, Std.ExtTreeMap.getElem?_erase]
      by_cases same : first = program
      · simp [same]
      · simp [same, Ne.symm same]

/-- The runs of a deleted program go with it. -/
theorem getElem?_executions_foldl_deleteProgram
    (deleted : List String)
    (tables : Tables)
    (key : RunKey) :
    (deleted.foldl deleteProgram tables).executions[key]? =
      if key.1 ∈ deleted then none else tables.executions[key]? := by
  induction deleted generalizing tables with
  | nil => simp
  | cons first rest inductionHypothesis =>
      rw [List.foldl_cons, inductionHypothesis, deleteProgram, Std.ExtTreeMap.getElem?_filter']
      by_cases same : key.1 = first
      · simp [same]
      · cases tables.executions[key]? with
        | none => simp [same]
        | some record => simp [same, Option.filter]

end Tables
end FuzzIntake
