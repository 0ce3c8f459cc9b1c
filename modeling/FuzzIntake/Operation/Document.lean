import FuzzIntake.Json.Writer
import FuzzIntake.Operation

/-!
# Operations as JSON documents

A document is a record whose member `op` names the kind and whose other members
are the fields, or a list of the kind's name and the fields in order.  Members
of other names are ignored; a repeated field is refused.
-/

namespace FuzzIntake
namespace Operation
namespace Document

open Json (Value)

/-- A string. -/
def text? : Value → Option String
  | .text s => some s
  | _ => none

/-- An integer of 64 bits with sign. -/
def int64? : Value → Option Int64
  | .integer n =>
      if -(Nat.pow 2 63 : Int) ≤ n ∧ n < Nat.pow 2 63 then some (Int64.ofInt n) else none
  | _ => none

/-- Any number, rounded to a double. -/
def double? : Value → Option Double
  | .integer n => some (Double.ofInt n)
  | .double x => some x
  | _ => none

/-- Any value; null stands for none. -/
def optional : Value → Option Value
  | .null => none
  | value => some value.canonical

/-- A list of strings. -/
def texts? : Value → Option (List String)
  | .list items => items.mapM text?
  | _ => none

/-- The fields of a kind in the order of list documents. -/
def fieldNames : OperationKind → List String
  | .createFuzzer => []
  | .fuzzerProgram => ["program", "fuzzer_id"]
  | .testProgram => ["program", "fuzzer_id"]
  | .execution =>
      ["program", "fuzzer_id", "execution_type_id", "feedback_vector", "execution_ir",
        "coverage_total", "execution_flags"]
  | .updateFeedback => ["program", "feedback_vector"]
  | .delete => ["program"]

/-- The fields of a record document; only feedback may be absent, and no field may repeat. -/
def fieldsOfMembers? (names : List String) (members : List (String × Value)) :
    Option (List Value) :=
  names.mapM fun name =>
    match members.filter fun member => member.1 = name with
    | [(_, value)] => some value
    | [] => if name = "feedback_vector" then some .null else none
    | _ => none

/-- The operation of a kind with the given fields in order. -/
def build? : OperationKind → List Value → Option Operation
  | .createFuzzer, [] => some .createFuzzer
  | .fuzzerProgram, [program, fuzzerId] => do
      return .fuzzerProgram (← text? program) (← int64? fuzzerId)
  | .testProgram, [program, fuzzerId] => do
      return .testProgram (← text? program) (← int64? fuzzerId)
  | .execution, [program, fuzzerId, typeId, feedback, ir, coverage, flags] => do
      return .execution
        { program := ← text? program
          fuzzerId := ← int64? fuzzerId
          categoryId := ← int64? typeId
          feedback := optional feedback
          intermediateCode := ← text? ir
          coverage := ← double? coverage
          flags := ← texts? flags }
  | .updateFeedback, [program, feedback] => do
      return .updateFeedback (← text? program) (optional feedback)
  | .delete, [program] => do
      return .delete (← text? program)
  | _, _ => none

/-- The operation of a document, if it is one. -/
def read? : Value → Option Operation
  | .record members =>
      match members.filter fun member => member.1 = "op" with
      | [(_, .text name)] => do
          let kind ← OperationKind.ofDocumentName? name
          build? kind (← fieldsOfMembers? (fieldNames kind) members)
      | _ => none
  | .list (.text name :: fields) => do
      build? (← OperationKind.ofDocumentName? name) fields
  | _ => none

/-- Feedback as a document value. -/
def writeFeedback (feedback : Option Value) : Value :=
  feedback.getD .null

/-- The members of a document: the kind first, then the fields in order. -/
def members : Operation → List (String × Value)
  | .createFuzzer => [("op", .text "create_fuzzer")]
  | .fuzzerProgram program fuzzerId =>
      [("op", .text "fuzzer_program"), ("program", .text program),
        ("fuzzer_id", .integer fuzzerId.toInt)]
  | .testProgram program fuzzerId =>
      [("op", .text "test_program"), ("program", .text program),
        ("fuzzer_id", .integer fuzzerId.toInt)]
  | .execution run =>
      [("op", .text "execution"), ("program", .text run.program),
        ("fuzzer_id", .integer run.fuzzerId.toInt),
        ("execution_type_id", .integer run.categoryId.toInt),
        ("feedback_vector", writeFeedback run.feedback),
        ("execution_ir", .text run.intermediateCode), ("coverage_total", .double run.coverage),
        ("execution_flags", .list (run.flags.map .text))]
  | .updateFeedback program feedback =>
      [("op", .text "update_feedback"), ("program", .text program),
        ("feedback_vector", writeFeedback feedback)]
  | .delete program => [("op", .text "delete"), ("program", .text program)]

/-- An operation as a document. -/
def write (operation : Operation) : Value :=
  .record (members operation)

end Document
end Operation
end FuzzIntake
