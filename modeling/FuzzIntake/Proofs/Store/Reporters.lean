import FuzzIntake.Proofs.Store.KeyByKey
import FuzzIntake.Proofs.Store.Latest

/-!
# Who first reported a program

Both kinds of stores leave the fuzzer of a program that is there.  A store in memory takes
the rows of a plan one after the other, so a new program gets the fuzzer of its first row.
A relational store binds only the last row of every program to its statement, so a new
program gets the fuzzer of its last row.  The two agree exactly where these are the same.
-/

namespace FuzzIntake

/-- The fuzzers of the stored programs. -/
abbrev Reporters : Type :=
  Std.ExtTreeMap String Int64

/-- The fuzzers of the programs in the tables. -/
def Tables.reporters (tables : Tables) : Reporters :=
  tables.programs.map fun _ record => record.fuzzerId

/--
The fuzzers of the programs after a statement of a committed transaction.  A program that is
there when its row is inserted keeps its fuzzer, since the conflict sets only its time.
-/
def Statement.changeReporters (reporters : Reporters) : Statement → Reporters
  | .insertPrograms rows =>
      rows.foldl (fun held row => held.insertIfNew row.program row.fuzzerId) reporters
  | .deletePrograms programs => programs.foldl (fun held program => held.erase program) reporters
  | _ => reporters

namespace Plan

/-- The fuzzers of the programs after the statements that write the programs of a plan. -/
def writeReporters (plan : Plan) (reporters : Reporters) : Reporters :=
  (plan.groupStatements .programs).foldl Statement.changeReporters reporters

/-- The programs of a plan as plans of one row each. -/
def rowByRow (plan : Plan) : List Plan :=
  plan.programs.map fun row => { empty with programs := [row] }

/-- The fuzzer in the first row of a program. -/
def firstReporter? (plan : Plan) (program : String) : Option Int64 :=
  (plan.programs.find? fun row => row.program = program).map ProgramRow.fuzzerId

/-- The fuzzer in the last row of a program. -/
def lastReporter? (plan : Plan) (program : String) : Option Int64 :=
  (plan.programs.reverse.find? fun row => row.program = program).map ProgramRow.fuzzerId

end Plan

/-! ## What the rows of a plan leave -/

/-- Rows inserted by a statement give a new program the fuzzer of its first row. -/
theorem Statement.getElem?_changeReporters_insertPrograms
    (rows : List ProgramRow)
    (reporters : Reporters)
    (program : String) :
    (changeReporters reporters (.insertPrograms rows))[program]? =
      reporters[program]?.or
        ((rows.find? fun row => row.program = program).map ProgramRow.fuzzerId) := by
  induction rows generalizing reporters with
  | nil => exact (Option.or_none).symm
  | cons row rest inductionHypothesis =>
      change (changeReporters (reporters.insertIfNew row.program row.fuzzerId)
        (.insertPrograms rest))[program]? = _
      rw [inductionHypothesis, List.find?_cons, Std.ExtTreeMap.getElem?_insertIfNew]
      by_cases same : row.program = program
      · subst same
        cases held : reporters[row.program]? with
        | none =>
            have absent : row.program ∉ reporters := by simpa using held
            simp [absent]
        | some fuzzerId =>
            have present : row.program ∈ reporters := by
              rw [Std.ExtTreeMap.mem_iff_isSome_getElem?, held, Option.isSome_some]
            simp [present]
      · simp [same]

/-- Rows inserted one after the other give a new program the fuzzer of its first row. -/
theorem Tables.getElem?_reporters_foldl_insertProgram
    (rows : List ProgramRow)
    (tables : Tables)
    (program : String) :
    (rows.foldl insertProgram tables).reporters[program]? =
      tables.reporters[program]?.or
        ((rows.find? fun row => row.program = program).map ProgramRow.fuzzerId) := by
  unfold reporters
  rw [Std.ExtTreeMap.getElem?_map, getElem?_foldl_insertProgram, Std.ExtTreeMap.getElem?_map]
  cases tables.programs[program]? with
  | some record => rfl
  | none =>
      cases rows.find? fun row => row.program = program with
      | some row => rfl
      | none => rfl

namespace Plan

/-- A relational store gives a new program the fuzzer of its last row. -/
theorem getElem?_writeReporters
    (plan : Plan)
    (reporters : Reporters)
    (program : String) :
    (plan.writeReporters reporters)[program]? =
      reporters[program]?.or (plan.lastReporter? program) := by
  have noFuzzer : (List.replicate plan.fuzzers Statement.createFuzzer).foldl
      Statement.changeReporters reporters = reporters := by
    induction plan.fuzzers with
    | zero => rfl
    | succ count inductionHypothesis => exact inductionHypothesis
  unfold writeReporters groupStatements lastReporter?
  rw [List.foldl_append, noFuzzer]
  cases rows : plan.programs with
  | nil => exact (Option.or_none).symm
  | cons row rest =>
      change (Statement.changeReporters reporters (.insertPrograms _))[program]? = _
      rw [Statement.getElem?_changeReporters_insertPrograms, Latest.find?_rows]

/-- A store in memory gives a new program the fuzzer of its first row. -/
theorem getElem?_reporters_applyGroup
    (plan : Plan)
    (tables : Tables)
    (program : String) :
    (Tables.applyGroup plan tables .programs).reporters[program]? =
      tables.reporters[program]?.or (plan.firstReporter? program) :=
  Tables.getElem?_reporters_foldl_insertProgram plan.programs _ program

/-- A plan of one row is one insert of a store in memory. -/
theorem foldl_applyGroup_rowByRow (plan : Plan) (tables : Tables) :
    plan.rowByRow.foldl (fun written single => Tables.applyGroup single written .programs) tables =
      plan.programs.foldl Tables.insertProgram tables := by
  unfold rowByRow
  rw [List.foldl_map]
  rfl

/-- A plan of one row is one insert of a relational store. -/
theorem foldl_writeReporters_rowByRow (plan : Plan) (reporters : Reporters) :
    plan.rowByRow.foldl (fun held single => single.writeReporters held) reporters =
      Statement.changeReporters reporters (.insertPrograms plan.programs) := by
  unfold rowByRow
  rw [List.foldl_map]
  rfl

/--
Both kinds of stores keep the same fuzzers for the programs of a plan exactly if every
program that is new has the same fuzzer in its first row and in its last.  Row by row both
of them keep what a store in memory keeps of the whole plan.
-/
theorem writeReporters_eq_iff (plan : Plan) (tables : Tables) :
    (plan.writeReporters tables.reporters =
        (Tables.applyGroup plan tables .programs).reporters ↔
      ∀ program, program ∉ tables.programs →
        plan.lastReporter? program = plan.firstReporter? program) ∧
    plan.rowByRow.foldl (fun held single => single.writeReporters held) tables.reporters =
      (Tables.applyGroup plan tables .programs).reporters ∧
    (plan.rowByRow.foldl
        (fun written single => Tables.applyGroup single written .programs) tables).reporters =
      (Tables.applyGroup plan tables .programs).reporters := by
  refine ⟨⟨fun same program new => ?_, fun agree => ?_⟩, ?_, ?_⟩
  · have held : tables.reporters[program]? = none := by
      unfold Tables.reporters
      rw [Std.ExtTreeMap.getElem?_map, Std.ExtTreeMap.getElem?_eq_none new, Option.map_none]
    have relational := plan.getElem?_writeReporters tables.reporters program
    have inMemory := plan.getElem?_reporters_applyGroup tables program
    rw [held, Option.none_or] at relational inMemory
    rw [← relational, same, inMemory]
  · ext1 program
    rw [getElem?_writeReporters, getElem?_reporters_applyGroup]
    by_cases new : program ∈ tables.programs
    · have held : (tables.reporters[program]?).isSome := by
        unfold Tables.reporters
        rw [Std.ExtTreeMap.getElem?_map, Option.isSome_map]
        exact Std.ExtTreeMap.mem_iff_isSome_getElem?.mp new
      rw [Option.or_of_isSome held, Option.or_of_isSome held]
    · rw [agree program new]
  · rw [foldl_writeReporters_rowByRow]
    ext1 program
    rw [Statement.getElem?_changeReporters_insertPrograms, getElem?_reporters_applyGroup]
    rfl
  · rw [foldl_applyGroup_rowByRow]
    ext1 program
    rw [Tables.getElem?_reporters_foldl_insertProgram, getElem?_reporters_applyGroup]
    rfl

/-- A new program with two rows that name different fuzzers tells the two kinds of stores apart. -/
theorem reporters_differ_of_two_fuzzers :
    let plan : Plan := { empty with programs := [⟨"AQID", 1⟩, ⟨"AQID", 2⟩] }
    (plan.writeReporters Tables.empty.reporters)["AQID"]? = some 2 ∧
      (Tables.applyGroup plan Tables.empty .programs).reporters["AQID"]? = some 1 ∧
      (plan.rowByRow.foldl (fun held single => single.writeReporters held)
        Tables.empty.reporters)["AQID"]? = some 1 :=
  ⟨rfl, rfl, rfl⟩

end Plan
end FuzzIntake
