import FuzzIntake.Json.Writer
import FuzzIntake.Plan
import FuzzIntake.Store.Latest

/-!
# Statements

The statements that write a plan to a relational database.  A group is one
statement that carries its rows column by column, and every requested fuzzer is
a statement of its own.
-/

namespace FuzzIntake

/-- A column of values bound to a statement. -/
inductive Column
  | texts (values : List String)
  | optionalTexts (values : List (Option String))
  | integers (values : List Int64)
  | doubles (values : List Double)
deriving BEq, Repr

/-- The number of values in a column. -/
def Column.size : Column → Nat
  | .texts values => values.length
  | .optionalTexts values => values.length
  | .integers values => values.length
  | .doubles values => values.length

/-- A statement sent to a relational database. -/
inductive Statement
  | start
  | commit
  | rollback
  | createFuzzer
  | insertPrograms (rows : List ProgramRow)
  | insertExecutions (rows : List ExecutionRow)
  | setFeedback (rows : List FeedbackRow)
  | deletePrograms (programs : List String)
deriving BEq, Repr

namespace Statement

/-- The text of a statement. -/
def sql : Statement → String
  | .start => "BEGIN"
  | .commit => "COMMIT"
  | .rollback => "ROLLBACK"
  | .createFuzzer => "SELECT get_or_create_fuzzer()::bigint"
  | .insertPrograms _ =>
      "INSERT INTO program (program_base64, fuzzer_id, created_at) " ++
      "SELECT t.program_base64, t.fuzzer_id, NOW() " ++
      "FROM UNNEST($1::text[], $2::bigint[]) AS t(program_base64, fuzzer_id) " ++
      "ON CONFLICT (program_base64) DO UPDATE SET created_at = NOW()"
  | .insertExecutions _ =>
      "INSERT INTO execution (program_base64, execution_type_id, feedback_vector, " ++
      "turboshaft_ir, coverage_total, execution_flags, created_at) " ++
      "SELECT t.program_base64, t.execution_type_id, t.feedback_vector::jsonb, " ++
      "t.turboshaft_ir, t.coverage_total, " ++
      "ARRAY(SELECT jsonb_array_elements_text(t.execution_flags::jsonb)), NOW() " ++
      "FROM UNNEST($1::text[], $2::bigint[], $3::text[], $4::text[], $5::float8[], " ++
      "$6::text[]) AS t(program_base64, execution_type_id, feedback_vector, " ++
      "turboshaft_ir, coverage_total, execution_flags) " ++
      "ON CONFLICT (program_base64, execution_type_id) DO UPDATE SET " ++
      "feedback_vector = EXCLUDED.feedback_vector, " ++
      "turboshaft_ir = EXCLUDED.turboshaft_ir, " ++
      "coverage_total = EXCLUDED.coverage_total, " ++
      "execution_flags = EXCLUDED.execution_flags, created_at = NOW()"
  | .setFeedback _ =>
      "UPDATE execution AS e SET feedback_vector = t.feedback_vector::jsonb " ++
      "FROM UNNEST($1::text[], $2::text[]) AS t(program_base64, feedback_vector) " ++
      "WHERE e.program_base64 = t.program_base64"
  | .deletePrograms _ => "DELETE FROM program WHERE program_base64 = ANY($1::text[])"

/-- The columns bound to a statement. -/
def columns : Statement → List Column
  | .start | .commit | .rollback | .createFuzzer => []
  | .insertPrograms rows =>
      [.texts (rows.map ProgramRow.program), .integers (rows.map ProgramRow.fuzzerId)]
  | .insertExecutions rows =>
      [.texts (rows.map ExecutionRow.program),
        .integers (rows.map ExecutionRow.categoryId),
        .optionalTexts (rows.map fun row => row.record.feedback.map Json.Value.toText),
        .texts (rows.map fun row => row.record.intermediateCode),
        .doubles (rows.map fun row => row.record.coverage),
        .texts (rows.map fun row => (Json.Value.list (row.record.flags.map .text)).toText)]
  | .setFeedback rows =>
      [.texts (rows.map FeedbackRow.program),
        .optionalTexts (rows.map fun row => row.feedback.map Json.Value.toText)]
  | .deletePrograms programs => [.texts programs]

/-- Whether a statement opens or ends a transaction. -/
def isControl : Statement → Bool
  | .start | .commit | .rollback => true
  | _ => false

end Statement

/-- The key of a run to insert or overwrite. -/
def ExecutionRow.key (row : ExecutionRow) : String × Int64 :=
  (row.program, row.categoryId)

namespace Plan

/-- The statements that write one group of a plan. -/
def groupStatements (plan : Plan) : RowGroup → List Statement
  | .programs =>
      List.replicate plan.fuzzers .createFuzzer ++
        if plan.programs.isEmpty then []
        else [.insertPrograms (Latest.rows ProgramRow.program plan.programs)]
  | .executions => [.insertExecutions (Latest.rows ExecutionRow.key plan.executions)]
  | .feedback => [.setFeedback (Latest.rows FeedbackRow.program plan.feedback)]
  | .deletes => [.deletePrograms plan.deletes]

/-- The statements that write a plan, each with its group. -/
def statements (plan : Plan) : List (RowGroup × Statement) :=
  plan.groups.flatMap fun group => (plan.groupStatements group).map (group, ·)

end Plan
end FuzzIntake
