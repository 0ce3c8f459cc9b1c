import FuzzIntake.Entry
import FuzzIntake.Json.Writer
import FuzzIntake.Number.Notation

/-!
# Encoding operations as entries

The fields a reporter publishes for an operation: the kind, the program, and the
fields of the kind in a fixed order.
-/

namespace FuzzIntake
namespace Entry

/-- Feedback as a field; no feedback is written `null`. -/
def writeFeedback : Option Json.Value → String
  | none => "null"
  | some value => value.toText

/-- Build flags as a JSON list of strings. -/
def writeFlags (flags : List String) : String :=
  (Json.Value.list (flags.map Json.Value.text)).toText

/-- A 64-bit integer as a field. -/
def writeInt64 (n : Int64) : String :=
  String.ofList (Integer.writeInt n.toInt)

/-- The fields an operation is published with, in order. -/
def encode : Operation → Fields
  | .createFuzzer => [("op", "create_fuzzer")]
  | .fuzzerProgram program fuzzerId =>
      [("op", "fuzzer_program"), ("program_base64", program),
        ("fuzzer_id", writeInt64 fuzzerId)]
  | .testProgram program fuzzerId =>
      [("op", "test_program"), ("program_base64", program),
        ("fuzzer_id", writeInt64 fuzzerId)]
  | .execution run =>
      [("op", "execution"), ("program_base64", run.program),
        ("fuzzer_id", writeInt64 run.fuzzerId),
        ("execution_type_id", writeInt64 run.categoryId),
        ("feedback_vector", writeFeedback run.feedback),
        ("turboshaft_ir", run.intermediateCode),
        ("coverage_total", String.ofList run.coverage.plain),
        ("execution_flags", writeFlags run.flags)]
  | .updateFeedback program feedback =>
      [("op", "update_feedback"), ("program_base64", program),
        ("feedback_vector", writeFeedback feedback)]
  | .delete program => [("op", "del"), ("program_base64", program)]

end Entry
end FuzzIntake
