import FuzzIntake.Proofs.Data.List
import FuzzIntake.Proofs.Store.Atomicity
import FuzzIntake.Proofs.Store.Reporters
import FuzzIntake.Proofs.Store.Writing

/-!
# What a plan leaves

The four groups of a plan write to the same tables one after the other, each row by row.  All of
it comes to a rule for every key: what is left under it is told by what was held and by a few rows
of the plan, the first insert of a program, the last run of a key, the last feedback of a program,
and whether the program is deleted.
-/

namespace FuzzIntake

namespace Plan

/-- The last run of a plan under a key. -/
def lastRun? (plan : Plan) (key : RunKey) : Option ExecutionRecord :=
  (plan.executions.reverse.find? fun row => row.key = key).map ExecutionRow.record

/-- The last feedback of a plan for a program. -/
def lastFeedback? (plan : Plan) (program : String) : Option (Option Json.Value) :=
  (plan.feedback.reverse.find? fun row => row.program = program).map FeedbackRow.feedback

/-- How many rows of a plan insert a program. -/
def inserts (plan : Plan) (program : String) : Nat :=
  plan.programs.countP fun row => row.program = program

/-- What a plan leaves under the key of a run. -/
def runAfter? (plan : Plan) (key : RunKey) (held : Option ExecutionRecord) :
    Option ExecutionRecord :=
  if key.1 ∈ plan.deletes then
    none
  else
    ((plan.lastRun? key).or held).map fun record =>
      { record with feedback := (plan.lastFeedback? key.1).getD record.feedback }

/-- What a plan leaves of a program. -/
def programAfter? (plan : Plan) (program : String) (held : Option ProgramRecord) :
    Option ProgramRecord :=
  if program ∈ plan.deletes then
    none
  else
    (held.or ((plan.firstReporter? program).map (⟨·, 0⟩))).map fun record =>
      { record with writes := record.writes + plan.inserts program }

/-- What a plan leaves in tables, row by row. -/
structure Leaves (plan : Plan) (before after : Tables) : Prop where
  /-- A run is there if its program is not deleted, and it was there or the plan has it. -/
  mem_executions : ∀ key, key ∈ after.executions ↔
    key.1 ∉ plan.deletes ∧ (key ∈ before.executions ∨ ∃ row ∈ plan.executions, row.key = key)
  /-- A run is the last one of the plan, or else the one held, with the last feedback of the plan
  for its program, if there is any. -/
  executions : ∀ key record, after.executions[key]? = some record →
    ∃ source, (plan.lastRun? key).or before.executions[key]? = some source ∧
      record.intermediateCode = source.intermediateCode ∧
      record.coverage = source.coverage ∧
      record.flags = source.flags ∧
      record.feedback = (plan.lastFeedback? key.1).getD source.feedback
  /-- A program is there if it is not deleted, and it was there or the plan inserts it. -/
  mem_programs : ∀ program, program ∈ after.programs ↔
    program ∉ plan.deletes ∧
      (program ∈ before.programs ∨ ∃ row ∈ plan.programs, row.program = program)
  /-- A program that was there keeps its fuzzer, and every insert is one more write. -/
  programs_of_held : ∀ program held record, before.programs[program]? = some held →
    after.programs[program]? = some record →
      record.fuzzerId = held.fuzzerId ∧ record.writes = held.writes + plan.inserts program
  /-- A new program has the fuzzer of the first row that inserts it. -/
  programs_of_new : ∀ program record, program ∉ before.programs →
    after.programs[program]? = some record →
      plan.firstReporter? program = some record.fuzzerId ∧ record.writes = plan.inserts program
  /-- As many fuzzers are handed out as the plan asks for. -/
  fuzzers : after.fuzzers = before.fuzzers + plan.fuzzers

variable {plan : Plan}

theorem isSome_lastRun?_iff (plan : Plan) (key : RunKey) :
    (plan.lastRun? key).isSome = true ↔ ∃ row ∈ plan.executions, row.key = key := by
  unfold lastRun?
  simp [List.find?_isSome]

theorem isSome_firstReporter?_iff (plan : Plan) (program : String) :
    (plan.firstReporter? program).isSome = true ↔
      ∃ row ∈ plan.programs, row.program = program := by
  unfold firstReporter?
  simp [List.find?_isSome]

end Plan

namespace Tables

/-! ## The four groups together -/

@[simp] theorem programs_insertExecution (tables : Tables) (row : ExecutionRow) :
    (tables.insertExecution row).programs = tables.programs := rfl

@[simp] theorem programs_setFeedback (tables : Tables) (row : FeedbackRow) :
    (tables.setFeedback row).programs = tables.programs := rfl

@[simp] theorem programs_addFuzzers (tables : Tables) (count : Nat) :
    (tables.addFuzzers count).programs = tables.programs := rfl

@[simp] theorem executions_insertProgram (tables : Tables) (row : ProgramRow) :
    (tables.insertProgram row).executions = tables.executions := rfl

@[simp] theorem executions_addFuzzers (tables : Tables) (count : Nat) :
    (tables.addFuzzers count).executions = tables.executions := rfl

theorem fuzzers_applyPlan (plan : Plan) (tables : Tables) :
    (tables.applyPlan plan).fuzzers = tables.fuzzers + plan.fuzzers := by
  rw [applyPlan_eq, List.foldl_of_keeps fuzzers_deleteProgram,
    List.foldl_of_keeps fuzzers_setFeedback, List.foldl_of_keeps fuzzers_insertExecution,
    List.foldl_of_keeps fuzzers_insertProgram, fuzzers_addFuzzers]

/-- Of a program only its inserts and its deletion are left. -/
theorem getElem?_programs_applyPlan (plan : Plan) (tables : Tables) (program : String) :
    (tables.applyPlan plan).programs[program]? =
      plan.programAfter? program tables.programs[program]? := by
  rw [applyPlan_eq, getElem?_programs_foldl_deleteProgram, List.foldl_of_keeps programs_setFeedback,
    List.foldl_of_keeps programs_insertExecution, getElem?_foldl_insertProgram, programs_addFuzzers,
    Plan.programAfter?, Plan.firstReporter?, Option.map_map]
  rfl

/-- Of a run only its last row, the last feedback and the deletion of its program are left. -/
theorem getElem?_executions_applyPlan (plan : Plan) (tables : Tables) (key : RunKey) :
    (tables.applyPlan plan).executions[key]? =
      plan.runAfter? key tables.executions[key]? := by
  rw [applyPlan_eq, getElem?_executions_foldl_deleteProgram, getElem?_foldl_setFeedback,
    getElem?_foldl_insertExecution, List.foldl_of_keeps executions_insertProgram,
    executions_addFuzzers]
  rfl

/-- A plan leaves in tables what it says. -/
theorem leaves_applyPlan (plan : Plan) (tables : Tables) :
    plan.Leaves tables (tables.applyPlan plan) where
  mem_executions key := by
    rw [Std.ExtTreeMap.mem_iff_isSome_getElem?, getElem?_executions_applyPlan, Plan.runAfter?,
      Std.ExtTreeMap.mem_iff_isSome_getElem?, ← plan.isSome_lastRun?_iff]
    by_cases deleted : key.1 ∈ plan.deletes
    · simp [deleted]
    · simp [deleted, or_comm]
  executions key record found := by
    rw [getElem?_executions_applyPlan, Plan.runAfter?] at found
    split at found
    · simp at found
    · obtain ⟨source, isSource, rfl⟩ := Option.map_eq_some_iff.mp found
      exact ⟨source, isSource, rfl, rfl, rfl, rfl⟩
  mem_programs program := by
    rw [Std.ExtTreeMap.mem_iff_isSome_getElem?, getElem?_programs_applyPlan, Plan.programAfter?,
      Std.ExtTreeMap.mem_iff_isSome_getElem?, ← plan.isSome_firstReporter?_iff]
    by_cases deleted : program ∈ plan.deletes
    · simp [deleted]
    · simp [deleted]
  programs_of_held program held record wasHeld found := by
    rw [getElem?_programs_applyPlan, wasHeld, Plan.programAfter?] at found
    split at found
    · simp at found
    · obtain rfl := Option.some.inj found
      exact ⟨rfl, rfl⟩
  programs_of_new program record isNew found := by
    rw [getElem?_programs_applyPlan, Std.ExtTreeMap.getElem?_eq_none isNew,
      Plan.programAfter?] at found
    split at found
    · simp at found
    · rw [Option.none_or, Option.map_map] at found
      obtain ⟨fuzzerId, first, rfl⟩ := Option.map_eq_some_iff.mp found
      exact ⟨first, Nat.zero_add _⟩
  fuzzers := fuzzers_applyPlan plan tables

end Tables

namespace Batch

variable {batch : Batch} {worker : Nat} {store next : LocalStore} {receipt : Receipt}

/-- A batch that is written leaves the rows of its plan and hands out the next fuzzers.  A batch
without rows does not reach the store, and nobody asked for a fuzzer in it. -/
theorem written_of_writeTo (written : batch.writeTo worker store = (.ok receipt, next)) :
    next.tables = store.tables.applyBatch batch ∧
      receipt.fuzzerIds =
        store.tables.nextFuzzers (Plan.ofOperations batch.operations).fuzzers := by
  unfold writeTo at written
  cases rowless : (Plan.ofOperations batch.operations).isEmpty with
  | true =>
      simp only [rowless, if_true, Prod.mk.injEq, Except.ok.injEq] at written
      obtain ⟨rfl, rfl⟩ := written
      have noFuzzer : (Plan.ofOperations batch.operations).fuzzers = 0 := by
        simp_all [Plan.isEmpty]
      rw [Tables.applyBatch_of_isEmpty rowless, noFuzzer]
      exact ⟨rfl, rfl⟩
  | false =>
      obtain ⟨⟨answer, after⟩, applied⟩ :
          ∃ result, store.apply (Plan.ofOperations batch.operations) = result := ⟨_, rfl⟩
      simp only [rowless, Bool.false_eq_true, if_false] at written
      change ((store.apply _).1.mapError _, (store.apply _).2) = _ at written
      rw [applied, Prod.mk.injEq] at written
      obtain ⟨succeeded, rfl⟩ := written
      cases LocalStore.attempt_of_apply applied with
      | refuse closed => simp [Except.mapError] at succeeded
      | fail opened first => simp [Except.mapError] at succeeded
      | commit opened passes =>
          obtain rfl := Except.ok.inj succeeded
          exact ⟨rfl, rfl⟩

/--
A batch that is written leaves in the tables of its store what its plan says, row by row,
whatever the store held and however often a key comes back.  It hands out the fuzzers that
follow the last one handed out before.
-/
theorem leaves_of_writeTo (written : batch.writeTo worker store = (.ok receipt, next)) :
    (Plan.ofOperations batch.operations).Leaves store.tables next.tables ∧
      receipt.fuzzerIds = (List.range (Plan.ofOperations batch.operations).fuzzers).map
        fun index => ((store.tables.fuzzers + 1 + index : Nat) : Int) := by
  obtain ⟨rows, numbered⟩ := written_of_writeTo written
  rw [rows, numbered]
  refine ⟨Tables.leaves_applyPlan _ _, ?_⟩
  apply List.map_congr_left
  intro index _
  rw [Nat.add_right_comm]

/--
Programs and runs that come twice, one of them deleted, and feedback for a run that was there:
the first insert names the fuzzer, the last run and the last feedback stay.
-/
theorem leaves_of_repeated_keys :
    let run : Execution := ⟨"b", 1, 2, none, "first", .nan, []⟩
    let store : LocalStore :=
      { LocalStore.empty with
        tables := (((Tables.empty.addFuzzers 4).insertProgram ⟨"a", 1⟩).insertProgram
          ⟨"c", 1⟩).insertExecution ⟨"a", 3, .ofRun run⟩ }
    let batch : Batch :=
      ⟨[.updateFeedback "a" none, .createFuzzer, .testProgram "b" 7, .testProgram "a" 8,
        .fuzzerProgram "b" 9, .execution run, .updateFeedback "a" (some .null), .delete "c",
        .execution { run with intermediateCode := "second" }, .testProgram "c" 7,
        .createFuzzer]⟩
    let next := (batch.writeTo 0 store).2
    batch.writeTo 0 store = (.ok ⟨[5, 6], 4, 2, 2, 1⟩, next) ∧
      (Plan.ofOperations batch.operations).Leaves store.tables next.tables ∧
      ["a", "b", "c"].map (fun program => next.tables.programs[program]?) =
        [some ⟨1, 2⟩, some ⟨7, 2⟩, none] ∧
      [("a", 3), ("b", 2), ("b", 3)].map (fun key : RunKey => next.tables.executions[key]?.map
          fun record => (record.feedback.isSome, record.intermediateCode)) =
        [some (true, "first"), some (false, "second"), none] := by
  intro run store batch next
  have written : batch.writeTo 0 store = (.ok ⟨[5, 6], 4, 2, 2, 1⟩, next) := rfl
  refine ⟨written, (leaves_of_writeTo written).1, rfl, ?_⟩
  decide +kernel

end Batch
end FuzzIntake
