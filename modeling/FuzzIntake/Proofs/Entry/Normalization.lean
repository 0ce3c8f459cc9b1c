import FuzzIntake.Proofs.Data.List
import FuzzIntake.Proofs.Entry.NormalForm

/-!
# What decoding does not see

Decoding looks at ten fields.  Nine of them it reads without the blanks around them, and a
blank one as if it were absent; the intermediate code it takes as it stands, and as empty if
it is absent.  Entries that are the same up to this have the same meaning, whether they stand
for an operation or are dropped.
-/

namespace FuzzIntake
namespace Entry

/-- The field that is taken as it stands. -/
def codeName : String :=
  "turboshaft_ir"

/-- The fields that are read without the blanks around them. -/
def paddedNames : List String :=
  ["op", "program_base64", "program", "fuzzer_id", "execution_type", "execution_type_id",
    "feedback_vector", "coverage_total", "execution_flags"]

/-- What normalising keeps of a field. -/
def kept? (fields : Fields) (name : String) : Option String :=
  if name = codeName then
    (fields.lookup name).filter fun text => text ≠ ""
  else
    present? fields name

/--
An entry without the fields nobody reads, with the others trimmed and without the blank
ones, and with its intermediate code as it stands unless that is empty.
-/
def normalize (fields : Fields) : Fields :=
  (paddedNames ++ [codeName]).filterMap fun name => (kept? fields name).map (name, ·)

/-- Entries that differ at most in blanks around fields, blank fields and fields nobody reads. -/
structure Agree (first second : Fields) : Prop where
  present : ∀ name ∈ paddedNames, present? first name = present? second name
  code : (first.lookup codeName).getD "" = (second.lookup codeName).getD ""

/-! ## Absent, blank and padded fields -/

section

variable {fields first second : Fields} {name : String}

/-- A reader that makes nothing of the empty text does not tell blank from absent. -/
theorem bind_present?
    {α : Type}
    {read? : String → Option α}
    (nothing : read? "" = none)
    (fields : Fields)
    (name : String) :
    (present? fields name).bind read? = (trimmed? fields name).bind read? := by
  unfold present?
  cases trimmed? fields name with
  | none => rfl
  | some text =>
      by_cases empty : text = ""
      · rw [Option.filter_some, empty, Option.bind_some, nothing]
        rfl
      · rw [Option.filter_some, if_pos (decide_eq_true empty)]

/-- Flags are read without the blanks around them, and blank ones as if they were absent. -/
theorem readFlags_present? (fields : Fields) (name : String) :
    readFlags (present? fields name) = readFlags (fields.lookup name) := by
  unfold present? trimmed?
  cases fields.lookup name with
  | none => rfl
  | some text =>
      have solid : Text.trimChars (Text.trim text).toList = Text.trimChars text.toList := by
        rw [Text.toList_trim, Text.trimChars_trimChars]
      rw [Option.map_some, Option.filter_some]
      by_cases empty : Text.trim text = ""
      · rw [empty] at solid
        simp only [readFlags, empty, Option.map_some, ← solid]
        rfl
      · rw [if_pos (decide_eq_true empty)]
        simp only [readFlags, Option.map_some, solid]

namespace Agree

/-- Entries that agree are the same to a reader that makes nothing of the empty text. -/
theorem bind_trimmed?
    {α : Type}
    {read? : String → Option α}
    (agree : Agree first second)
    (nothing : read? "" = none)
    (listed : name ∈ paddedNames) :
    (trimmed? first name).bind read? = (trimmed? second name).bind read? := by
  rw [← bind_present? nothing, ← bind_present? nothing, agree.present name listed]

theorem int64Field?_eq (agree : Agree first second) (listed : name ∈ paddedNames) :
    int64Field? first name = int64Field? second name :=
  agree.bind_trimmed? rfl listed

theorem programField?_eq (agree : Agree first second) :
    programField? first = programField? second := by
  unfold programField?
  rw [agree.present "program_base64" (by decide), agree.present "program" (by decide)]

theorem categoryId_eq (agree : Agree first second) : categoryId first = categoryId second := by
  unfold categoryId
  rw [agree.int64Field?_eq (by decide), agree.bind_trimmed? rfl (by decide)]

theorem coverage_eq (agree : Agree first second) : coverage first = coverage second := by
  unfold coverage
  rw [agree.bind_trimmed? rfl (by decide)]

theorem readFeedback_eq (agree : Agree first second) :
    readFeedback (first.lookup "feedback_vector") =
      readFeedback (second.lookup "feedback_vector") := by
  have same : (trimmed? first "feedback_vector").bind Json.read? =
      (trimmed? second "feedback_vector").bind Json.read? :=
    agree.bind_trimmed? rfl (by decide)
  unfold trimmed? at same
  unfold readFeedback
  rw [same]

theorem readFlags_eq (agree : Agree first second) :
    readFlags (first.lookup "execution_flags") = readFlags (second.lookup "execution_flags") := by
  rw [← readFlags_present?, ← readFlags_present?, agree.present "execution_flags" (by decide)]

/-- Entries that agree tell the same about a program. -/
theorem operationOf_eq (agree : Agree first second) (program : String) (kind : OperationKind) :
    operationOf first program kind = operationOf second program kind := by
  have code := agree.code
  unfold codeName at code
  unfold operationOf
  rw [agree.int64Field?_eq (by decide), agree.categoryId_eq, agree.coverage_eq,
    agree.readFeedback_eq, agree.readFlags_eq, code]

/-- Entries that agree have the same meaning. -/
theorem decode_eq (agree : Agree first second) : decode first = decode second := by
  unfold decode
  simp only [agree.present "op" (by decide), agree.programField?_eq, agree.operationOf_eq]

end Agree

/-! ## Normalised entries -/

theorem lookup_normalize
    (fields : Fields)
    (listed : name ∈ paddedNames ++ [codeName]) :
    (normalize fields).lookup name = kept? fields name := by
  unfold normalize
  rw [List.lookup_filterMap_value, if_pos listed]

/-- A present field is present in the same way when it is all that is kept of a field. -/
theorem filter_trim_present? (fields : Fields) (name : String) :
    ((present? fields name).map Text.trim).filter (fun text => text ≠ "") =
      present? fields name := by
  cases found : present? fields name with
  | none => rfl
  | some text =>
      have solid := (Option.filter_eq_some_iff.mp found).2
      rw [Option.map_some, (trim_of_present? found).1, Option.filter_some, if_pos solid]

/-- Normalising an entry changes nothing that decoding sees. -/
theorem agree_normalize (fields : Fields) : Agree (normalize fields) fields where
  present name listed := by
    have other : name ≠ codeName := by
      rintro rfl
      exact absurd listed (by decide)
    unfold present? trimmed?
    rw [lookup_normalize fields (List.mem_append_left _ listed), kept?, if_neg other]
    exact filter_trim_present? fields name
  code := by
    rw [lookup_normalize fields (by decide), kept?, if_pos rfl]
    cases fields.lookup codeName with
    | none => rfl
    | some text =>
        by_cases empty : text = ""
        · rw [empty]
          rfl
        · rw [Option.filter_some, if_pos (decide_eq_true empty)]

end

/--
Entries with the same normalised form have the same meaning: they stand for the same
operation, or they are dropped for the same cause in the same words.
-/
theorem decode_eq_of_normalize_eq
    {first second : Fields}
    (same : normalize first = normalize second) :
    decode first = decode second := by
  rw [← (agree_normalize first).decode_eq, same, (agree_normalize second).decode_eq]

/-- The padded entry without its padding, with a blank field and one that nobody reads. -/
def bareEntry : Fields :=
  [("note", "second attempt"), ("op", "execution"), ("program", "p"), ("program_base64", " "),
    ("coverage_total", "NaN"), ("execution_type", "delta_analysis"), ("fuzzer_id", "+07"),
    ("execution_flags", "[1, \"x\"]\n"), ("turboshaft_ir", ""),
    ("feedback_vector", "\x7b\"b\":[1],\"a\":2,\"b\":-3\x7d")]

/-- Without its padding the padded entry stands for the same run; a kind nobody knows is told
without the blanks around it. -/
theorem decode_eq_of_normalize_eq_bare :
    bareEntry ≠ paddedEntry ∧ normalize bareEntry = normalize paddedEntry ∧
      decode bareEntry = .operation (.execution paddedRun) ∧
      decode [("program", "p"), ("op", "\tsubmit ")] = .dropped (.unknownOp "submit") := by
  have same : normalize bareEntry = normalize paddedEntry := by decide +kernel
  have unknown : decode [("op", "submit"), ("program", " p")] = .dropped (.unknownOp "submit") := by
    rfl
  refine ⟨by decide +kernel, same, ?_, ?_⟩
  · rw [decode_eq_of_normalize_eq same, decode_paddedEntry]
  · rw [← unknown]
    exact decode_eq_of_normalize_eq (by decide +kernel)

end Entry
end FuzzIntake
