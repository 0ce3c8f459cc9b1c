import FuzzIntake.Proofs.Store.KeyByKey
import FuzzIntake.Proofs.Store.Latest
import Mathlib.Data.List.Nodup

/-!
# Runs in both kinds of stores

A relational store binds one row of every key to the statement of a group, and nothing but the
columns of the statement reaches the database.  Runs and their feedback come out as in a store
in memory, which takes all rows one after the other: the last row of a key decides in both.
-/

namespace FuzzIntake

/-- What a database holds of a run, its documents as the texts that were bound. -/
structure StoredRun where
  /-- The feedback of the run, if any. -/
  feedback : Option String
  /-- The intermediate code of the program. -/
  intermediateCode : String
  /-- The coverage the run reached. -/
  coverage : Double
  /-- The build flags of the run. -/
  flags : String

/-- What a database holds of a run that a store in memory keeps as a record. -/
def StoredRun.ofRecord (record : ExecutionRecord) : StoredRun where
  feedback := record.feedback.map Json.Value.toText
  intermediateCode := record.intermediateCode
  coverage := record.coverage
  flags := (Json.Value.list (record.flags.map .text)).toText

/-- A run with the feedback of a row, if there is a row. -/
def StoredRun.withFeedback (run : StoredRun) (row : Option (Option String)) : StoredRun :=
  row.elim run fun feedback => { run with feedback := feedback }

/-- The runs that a database holds. -/
abbrev StoredRuns : Type :=
  Std.ExtTreeMap RunKey StoredRun RunKey.order

/-- The runs of the tables as a database holds them. -/
def Tables.storedRuns (tables : Tables) : StoredRuns :=
  tables.executions.map fun _ record => .ofRecord record

namespace Statement

/-- The keys of the rows bound to a statement: the programs, and for runs their categories. -/
def keys (statement : Statement) : List (String × Option Int64) :=
  match statement.columns with
  | .texts programs :: .integers categories :: .optionalTexts _ :: _ =>
      programs.zip (categories.map some)
  | .texts programs :: _ => programs.map (·, none)
  | _ => []

/-- A statement whose columns make rows, no two of them with one key. -/
def IsWellBound (statement : Statement) : Prop :=
  statement.keys.Nodup ∧ ∀ column ∈ statement.columns, column.size = statement.keys.length

instance (statement : Statement) : Decidable statement.IsWellBound :=
  inferInstanceAs (Decidable (_ ∧ _))

/--
The runs after a statement that writes runs or their feedback.  The rows are read off the bound
columns.  A row of a run is inserted, or overwrites the run with its key; a row of feedback is
joined with all runs of its program.  A statement that touches a run twice has no meaning.
-/
def changeRuns? (runs : StoredRuns) (statement : Statement) : Option StoredRuns :=
  if statement.IsWellBound then
    match statement, statement.columns with
    | .insertExecutions _, [.texts programs, .integers categories, .optionalTexts feedback,
        .texts codes, .doubles coverage, .texts flags] =>
        let values := feedback.zip (codes.zip (coverage.zip flags))
        let rows := (programs.zip categories).zip values
        some <| rows.foldl (fun held (key, feedback, code, coverage, flags) =>
          held.insert key ⟨feedback, code, coverage, flags⟩) runs
    | .setFeedback _, [.texts programs, .optionalTexts feedback] =>
        let rows := programs.zip feedback
        some <| runs.map fun key run =>
          run.withFeedback ((rows.find? fun row => row.1 = key.1).map Prod.snd)
    | _, _ => none
  else
    none

end Statement

/-- The statements of a plan that write runs or their feedback. -/
def Plan.runStatements (plan : Plan) : List Statement :=
  (plan.statements.filter fun sent => sent.1 = .executions ∨ sent.1 = .feedback).map Prod.snd

/-! ## All rows of a plan, one after the other -/

namespace Tables

theorem storedRuns_insertExecution (tables : Tables) (row : ExecutionRow) :
    (tables.insertExecution row).storedRuns =
      tables.storedRuns.insert row.key (.ofRecord row.record) := by
  unfold storedRuns insertExecution
  ext1 key
  rw [Std.ExtTreeMap.getElem?_map, Std.ExtTreeMap.getElem?_insert, Std.ExtTreeMap.getElem?_insert,
    Std.ExtTreeMap.getElem?_map]
  exact apply_ite (Option.map _) _ _ _

theorem storedRuns_foldl_insertExecution (rows : List ExecutionRow) (tables : Tables) :
    (rows.foldl insertExecution tables).storedRuns =
      rows.foldl (fun held row => held.insert row.key (.ofRecord row.record))
        tables.storedRuns := by
  induction rows generalizing tables with
  | nil => rfl
  | cons row rest inductionHypothesis =>
      rw [List.foldl_cons, inductionHypothesis, storedRuns_insertExecution, List.foldl_cons]

/-- Rows inserted one after the other leave the last one of every key. -/
theorem getElem?_storedRuns_foldl_insertExecution
    (rows : List ExecutionRow)
    (tables : Tables)
    (key : RunKey) :
    (rows.foldl insertExecution tables).storedRuns[key]? =
      ((rows.reverse.find? fun row => row.key = key).map fun row => .ofRecord row.record).or
        tables.storedRuns[key]? := by
  unfold storedRuns
  rw [Std.ExtTreeMap.getElem?_map, getElem?_foldl_insertExecution, Std.ExtTreeMap.getElem?_map,
    Option.map_or, Option.map_map]
  rfl

/-- Feedback set row by row is that of the last row of every program. -/
theorem getElem?_storedRuns_foldl_setFeedback
    (rows : List FeedbackRow)
    (tables : Tables)
    (key : RunKey) :
    (rows.foldl setFeedback tables).storedRuns[key]? =
      tables.storedRuns[key]?.map fun run => run.withFeedback
        ((rows.reverse.find? fun row => row.program = key.1).map fun row =>
          row.feedback.map Json.Value.toText) := by
  unfold storedRuns
  rw [Std.ExtTreeMap.getElem?_map, getElem?_foldl_setFeedback, Std.ExtTreeMap.getElem?_map,
    Option.map_map, Option.map_map]
  congr 1
  funext record
  cases rows.reverse.find? fun row => row.program = key.1 with
  | some row => rfl
  | none => rfl

end Tables

/-! ## The statements of a plan -/

namespace Statement

/-- Programs without repetition are keys without repetition. -/
private theorem nodup_programKeys
    {programs : List String}
    (distinct : programs.Nodup) :
    (programs.map fun program => (program, (none : Option Int64))).Nodup :=
  List.Nodup.map (fun _ _ same => congrArg Prod.fst same) distinct

theorem isWellBound_insertPrograms (all : List ProgramRow) :
    (insertPrograms (Latest.rows ProgramRow.program all)).IsWellBound := by
  constructor
  · exact nodup_programKeys (Latest.nodup_map_rows all)
  · simp [columns, keys, Column.size]

theorem isWellBound_insertExecutions (all : List ExecutionRow) :
    (insertExecutions (Latest.rows ExecutionRow.key all)).IsWellBound := by
  have keysOfRows : (insertExecutions (Latest.rows ExecutionRow.key all)).keys =
      ((Latest.rows ExecutionRow.key all).map ExecutionRow.key).map (Prod.map id some) := by
    simp only [keys, columns, List.map_map, List.zip_map']
    rfl
  constructor
  · rw [keysOfRows]
    refine List.Nodup.map ?_ (Latest.nodup_map_rows all)
    rintro ⟨program, category⟩ ⟨other, another⟩ same
    obtain ⟨rfl, rfl⟩ : program = other ∧ category = another := by simpa using same
    rfl
  · rw [keysOfRows]
    simp [columns, Column.size]

theorem isWellBound_setFeedback (all : List FeedbackRow) :
    (setFeedback (Latest.rows FeedbackRow.program all)).IsWellBound := by
  constructor
  · exact nodup_programKeys (Latest.nodup_map_rows all)
  · simp [columns, keys, Column.size]

/-- The statement that inserts the runs of a plan does what all its rows do in memory. -/
theorem changeRuns?_insertExecutions (all : List ExecutionRow) (tables : Tables) :
    changeRuns? tables.storedRuns (.insertExecutions (Latest.rows ExecutionRow.key all)) =
      some (all.foldl Tables.insertExecution tables).storedRuns := by
  have bound : changeRuns? tables.storedRuns
        (.insertExecutions (Latest.rows ExecutionRow.key all)) =
      some ((Latest.rows ExecutionRow.key all).foldl (fun held row =>
        held.insert row.key (StoredRun.ofRecord row.record)) tables.storedRuns) := by
    simp only [changeRuns?, if_pos (isWellBound_insertExecutions all), columns, List.zip_map',
      List.foldl_map]
    rfl
  rw [bound, ← Tables.storedRuns_foldl_insertExecution]
  congr 1
  ext1 key
  rw [Tables.getElem?_storedRuns_foldl_insertExecution,
    Tables.getElem?_storedRuns_foldl_insertExecution, Latest.find?_reverse_rows]

/-- The statement that sets the feedback of a plan does what all its rows do in memory. -/
theorem changeRuns?_setFeedback (all : List FeedbackRow) (tables : Tables) :
    changeRuns? tables.storedRuns (.setFeedback (Latest.rows FeedbackRow.program all)) =
      some (all.foldl Tables.setFeedback tables).storedRuns := by
  simp only [changeRuns?, if_pos (isWellBound_setFeedback all), columns, List.zip_map',
    List.find?_map, Option.map_map]
  congr 1
  ext1 key
  rw [Std.ExtTreeMap.getElem?_map, Tables.getElem?_storedRuns_foldl_setFeedback]
  congr 1
  funext run
  rw [← Latest.find?_rows]
  rfl

end Statement

namespace Plan

/-- The statements that write runs or their feedback are those of the two groups, where a group
without rows is not written. -/
theorem runStatements_eq (plan : Plan) :
    plan.runStatements =
      (if plan.executions = [] then [] else plan.groupStatements .executions) ++
        if plan.feedback = [] then [] else plan.groupStatements .feedback := by
  have sent (group : RowGroup) :
      (((plan.groupStatements group).map (group, ·)).filter fun sent =>
          sent.1 = .executions ∨ sent.1 = .feedback).map Prod.snd =
        if group = .executions ∨ group = .feedback then plan.groupStatements group else [] := by
    rw [List.filter_map]
    split
    · next kept => simp [Function.comp_def, kept]
    · next dropped => simp [Function.comp_def, dropped]
  simp only [runStatements, statements, List.filter_flatMap, List.map_flatMap, sent]
  have written (group : RowGroup) (rest : List RowGroup) (sent : RowGroup → List Statement) :
      ((group :: rest).filter fun group => 0 < plan.rows group).flatMap sent =
        (if plan.rows group = 0 then [] else sent group) ++
          (rest.filter fun group => 0 < plan.rows group).flatMap sent := by
    by_cases noRow : plan.rows group = 0
    · simp [noRow]
    · simp [noRow, Nat.pos_of_ne_zero noRow]
  rw [groups, RowGroup.order, written, written, written, written]
  simp [rows]

/--
The statements of a plan leave the runs that its rows leave in a store in memory, where they
are taken one after the other however often a key comes back.  Every statement that the plan
sends for its programs, runs and feedback binds columns of one size and no key twice.
-/
theorem storedRuns_of_runStatements (plan : Plan) (tables : Tables) :
    plan.runStatements.foldlM Statement.changeRuns? tables.storedRuns =
        some ([.executions, .feedback].foldl (Tables.applyGroup plan) tables).storedRuns ∧
      ∀ sent ∈ plan.statements, sent.1 ≠ .deletes → sent.2.IsWellBound := by
  constructor
  · have runs : (if plan.executions = [] then []
          else plan.groupStatements .executions).foldlM Statement.changeRuns? tables.storedRuns =
        some (Tables.applyGroup plan tables .executions).storedRuns := by
      split
      · next none => simp [none, Tables.applyGroup]
      · exact (bind_pure _).trans (Statement.changeRuns?_insertExecutions plan.executions tables)
    have feedback (written : Tables) : (if plan.feedback = [] then []
          else plan.groupStatements .feedback).foldlM Statement.changeRuns? written.storedRuns =
        some (Tables.applyGroup plan written .feedback).storedRuns := by
      split
      · next none => simp [none, Tables.applyGroup]
      · exact (bind_pure _).trans (Statement.changeRuns?_setFeedback plan.feedback written)
    rw [runStatements_eq, List.foldlM_append, runs]
    exact feedback _
  · intro sent present kept
    obtain ⟨group, -, ofGroup⟩ := List.mem_flatMap.mp present
    obtain ⟨statement, bound, rfl⟩ := List.mem_map.mp ofGroup
    cases group with
    | programs =>
        rcases List.mem_append.mp bound with asked | inserted
        · rw [List.eq_of_mem_replicate asked]
          exact ⟨List.nodup_nil, fun _ absent => absurd absent List.not_mem_nil⟩
        · split at inserted
          · exact absurd inserted List.not_mem_nil
          · rw [List.mem_singleton.mp inserted]
            exact Statement.isWellBound_insertPrograms plan.programs
    | executions =>
        rw [List.mem_singleton.mp bound]
        exact Statement.isWellBound_insertExecutions plan.executions
    | feedback =>
        rw [List.mem_singleton.mp bound]
        exact Statement.isWellBound_setFeedback plan.feedback
    | deletes => exact absurd rfl kept

end Plan
end FuzzIntake
