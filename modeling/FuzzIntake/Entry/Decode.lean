import FuzzIntake.Entry
import FuzzIntake.Json.Reader
import FuzzIntake.Json.Writer
import FuzzIntake.Number.Reading
import FuzzIntake.Text.Blank
import FuzzIntake.Text.Pieces

/-!
# Decoding entries

Decoding never fails: a malformed optional field reads as its default, and an
entry without a usable kind or program is dropped with its cause.  Fields are
read without the blanks around them, except the intermediate code, which is
taken as it stands.
-/

namespace FuzzIntake
namespace Entry

/-- A field of an entry without the blanks around it. -/
def trimmed? (fields : Fields) (name : String) : Option String :=
  (fields.lookup name).map Text.trim

/-- A field that is present and not blank, without the blanks around it. -/
def present? (fields : Fields) (name : String) : Option String :=
  (trimmed? fields name).filter fun text => text ≠ ""

/-- The program key, under its own name or else under its short name. -/
def programField? (fields : Fields) : Option String :=
  (present? fields "program_base64").or (present? fields "program")

/-- A 64-bit integer field, if it is present and well-formed. -/
def int64Field? (fields : Fields) (name : String) : Option Int64 :=
  (trimmed? fields name).bind fun text => (Integer.readInt64 text.toList).toOption

/-- The category of a run: its number, else the number of its name, else the default. -/
def categoryId (fields : Fields) : Int64 :=
  match int64Field? fields "execution_type_id" with
  | some id => id
  | none =>
      (((trimmed? fields "execution_type").bind RunCategory.ofName?).map
        RunCategory.id).getD RunCategory.standardId

/-- The coverage of a run; anything that is no finite number reads as zero. -/
def coverage (fields : Fields) : Double :=
  (((trimmed? fields "coverage_total").bind fun text => Double.read? text.toList).filter
    Double.isFinite).getD Double.zero

/-- Feedback text; absent, blank and malformed text and null all mean no feedback. -/
def readFeedback (raw : Option String) : Option Json.Value :=
  match (raw.map Text.trim).bind Json.read? with
  | some .null => none
  | other => other

/-- A member of a JSON list of flags: strings as they are, anything else as its text. -/
def flagOfJson : Json.Value → String
  | .text s => s
  | other => other.toText

/-- The flags of a comma list; blank pieces are skipped. -/
def commaFlags (text : List Char) : List String :=
  (((Text.pieces ',' text).map Text.trimChars).filter fun piece => !piece.isEmpty).map
    String.ofList

/-- Build flags: the default ones for blank text, a JSON list, or a comma list. -/
def readFlags (raw : Option String) : List String :=
  match raw.map fun text => Text.trimChars text.toList with
  | none => defaultFlags
  | some [] => defaultFlags
  | some ('[' :: rest) =>
      match Json.read? (String.ofList ('[' :: rest)) with
      | some (.list items) => items.map flagOfJson
      | _ => []
  | some text => commaFlags text

/-- The operation of a kind that is about `program`. -/
def operationOf (fields : Fields) (program : String) : OperationKind → Operation
  | .createFuzzer => .createFuzzer
  | .fuzzerProgram => .fuzzerProgram program ((int64Field? fields "fuzzer_id").getD 0)
  | .testProgram => .testProgram program ((int64Field? fields "fuzzer_id").getD 0)
  | .execution =>
      .execution
        { program := program
          fuzzerId := (int64Field? fields "fuzzer_id").getD 0
          categoryId := categoryId fields
          feedback := readFeedback (fields.lookup "feedback_vector")
          intermediateCode := (fields.lookup "turboshaft_ir").getD ""
          coverage := coverage fields
          flags := readFlags (fields.lookup "execution_flags") }
  | .updateFeedback =>
      .updateFeedback program (readFeedback (fields.lookup "feedback_vector"))
  | .delete => .delete program

/-- The operation an entry stands for, or the cause of its being dropped. -/
def decode (fields : Fields) : Meaning :=
  match present? fields "op" with
  | none => .dropped .missingOp
  | some name =>
      match OperationKind.ofEntryName? name with
      | none => .dropped (.unknownOp name)
      | some .createFuzzer => .operation .createFuzzer
      | some kind =>
          match programField? fields with
          | none => .dropped (.missingProgram kind)
          | some program => .operation (operationOf fields program kind)

end Entry
end FuzzIntake
