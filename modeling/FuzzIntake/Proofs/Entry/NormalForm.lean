import FuzzIntake.Proofs.Entry.RoundTrip
import FuzzIntake.Proofs.Json.Depth

/-!
# What an entry stands for is in normal form

Reporters may pad numbers, use the short name of the program, name a category instead of
numbering it, list flags in two ways and leave fields out or misspell them.  Whatever they do,
the operation that an entry stands for is one that its own entry brings back.
-/

namespace FuzzIntake

/-- An operation that reading its entry would not change. -/
structure Operation.IsNormal (operation : Operation) : Prop where
  /-- Its program, if it is about one, is neither blank nor padded. -/
  program : operation = .createFuzzer ∨
    ∃ program, operation.program? = some program ∧
      Text.isBlankText program = false ∧ Text.trim program = program
  /-- No feedback is absent, not null. -/
  feedback : operation.feedback? ≠ some .null
  /-- The coverage of a run is a finite number. -/
  coverage : ∀ run, operation = .execution run → run.coverage.isFinite = true

namespace Entry

/-! ## The fields -/

theorem trim_of_present?
    {fields : Fields}
    {name text : String}
    (present : present? fields name = some text) :
    Text.trim text = text ∧ Text.isBlankText text = false := by
  obtain ⟨trimmed, nonempty⟩ := Option.filter_eq_some_iff.mp present
  obtain ⟨raw, -, rfl⟩ := Option.map_eq_some_iff.mp trimmed
  have solid := Text.trim_trim raw
  refine ⟨solid, Bool.eq_false_iff.mpr fun blank => of_decide_eq_true nonempty ?_⟩
  rw [← solid]
  exact (Text.isBlankText_iff _).mp blank

theorem trim_of_programField?
    {fields : Fields}
    {program : String}
    (named : programField? fields = some program) :
    Text.trim program = program ∧ Text.isBlankText program = false := by
  rcases Option.or_eq_some_iff.mp named with long | ⟨-, short⟩
  · exact trim_of_present? long
  · exact trim_of_present? short

theorem isFinite_coverage (fields : Fields) : (coverage fields).isFinite = true := by
  rw [coverage]
  cases found : ((trimmed? fields "coverage_total").bind fun text =>
      Double.read? text.toList).filter Double.isFinite with
  | none => rfl
  | some x => exact (Option.filter_eq_some_iff.mp found).2

/-- Feedback that an entry brings is not null and is stored as it was read. -/
theorem read?_of_readFeedback
    {raw : Option String}
    {value : Json.Value}
    (read : readFeedback raw = some value) :
    value ≠ .null ∧ ∃ text, Json.read? text = some value := by
  rw [readFeedback] at read
  split at read
  · cases read
  · next notNull =>
      obtain ⟨text, -, parsed⟩ := Option.bind_eq_some_iff.mp read
      refine ⟨?_, text, parsed⟩
      rintro rfl
      exact notNull read

/-! ## The operation -/

/-- An operation about a program takes its program from the entry. -/
theorem operation_of_decode
    {fields : Fields}
    {operation : Operation}
    (decoded : decode fields = .operation operation) :
    operation = .createFuzzer ∨
      ∃ program kind, programField? fields = some program ∧ kind ≠ .createFuzzer ∧
        operation = operationOf fields program kind := by
  unfold decode at decoded
  split at decoded
  · cases decoded
  · split at decoded
    · cases decoded
    · exact .inl (Meaning.operation.inj decoded).symm
    · next kind about _ =>
        split at decoded
        · cases decoded
        · next program named =>
            exact .inr ⟨program, kind, named, about, (Meaning.operation.inj decoded).symm⟩

theorem program?_operationOf
    (fields : Fields)
    (program : String)
    {kind : OperationKind}
    (about : kind ≠ .createFuzzer) :
    (operationOf fields program kind).program? = some program := by
  cases kind with
  | createFuzzer => exact absurd rfl about
  | _ => rfl

/-- The feedback of an operation is that of its entry. -/
theorem readFeedback_of_feedback?
    {fields : Fields}
    {program : String}
    {kind : OperationKind}
    {value : Json.Value}
    (carried : (operationOf fields program kind).feedback? = some value) :
    readFeedback (fields.lookup "feedback_vector") = some value := by
  cases kind with
  | execution | updateFeedback => exact carried
  | _ => cases carried

theorem isFinite_of_operationOf
    {fields : Fields}
    {program : String}
    {kind : OperationKind}
    {run : Execution}
    (about : operationOf fields program kind = .execution run) :
    run.coverage.isFinite = true := by
  cases kind with
  | execution =>
      obtain rfl := Operation.execution.inj about
      exact isFinite_coverage fields
  | _ => cases about

/-- The feedback of an operation that an entry stands for is not null and is stored as it was
read. -/
theorem read?_of_decode
    {fields : Fields}
    {operation : Operation}
    {value : Json.Value}
    (decoded : decode fields = .operation operation)
    (carried : operation.feedback? = some value) :
    value ≠ .null ∧ ∃ text, Json.read? text = some value := by
  rcases operation_of_decode decoded with rfl | ⟨program, kind, -, -, rfl⟩
  · cases carried
  · exact read?_of_readFeedback (readFeedback_of_feedback? carried)

/-- What an entry stands for is in normal form. -/
theorem isNormal_of_decode
    {fields : Fields}
    {operation : Operation}
    (decoded : decode fields = .operation operation) :
    operation.IsNormal where
  program := by
    rcases operation_of_decode decoded with creation | ⟨program, kind, named, about, rfl⟩
    · exact .inl creation
    · obtain ⟨trimmed, solid⟩ := trim_of_programField? named
      exact .inr ⟨program, program?_operationOf fields program about, solid, trimmed⟩
  feedback := fun isNull => (read?_of_decode decoded isNull).1 rfl
  coverage := by
    rintro run rfl
    rcases operation_of_decode decoded with creation | ⟨program, kind, -, -, about⟩
    · cases creation
    · exact isFinite_of_operationOf about.symm

/-- A padded entry under short names, with a repeated key and a coverage that is no number. -/
def paddedEntry : Fields :=
  [("op", " execution "), ("program", "\tp "), ("fuzzer_id", " +07 "),
    ("execution_type", "delta_analysis"), ("coverage_total", "NaN"),
    ("feedback_vector", " \x7b\"b\":[1],\"a\":2,\"b\":-3\x7d\n"),
    ("execution_flags", "[1, \"x\"]")]

/-- The run that the padded entry reports. -/
def paddedRun : Execution where
  program := "p"
  fuzzerId := 7
  categoryId := 2
  feedback := some (.record [("a", .integer 2), ("b", .integer (-3))])
  intermediateCode := ""
  coverage := Double.zero
  flags := ["1", "x"]

/-- A padded entry is read as a run.  The text of its feedback is that of a record with a repeated
key. -/
theorem decode_paddedEntry : decode paddedEntry = .operation (.execution paddedRun) := by
  have kind : present? paddedEntry "op" = some "execution" := by decide +kernel
  have program : programField? paddedEntry = some "p" := by decide +kernel
  have fuzzer : int64Field? paddedEntry "fuzzer_id" = some 7 := by decide +kernel
  have category : categoryId paddedEntry = 2 := by decide +kernel
  have flags : readFlags (paddedEntry.lookup "execution_flags") = ["1", "x"] := by
    decide +kernel
  have coverage : coverage paddedEntry = Double.zero := by rfl
  have trimmed : (paddedEntry.lookup "feedback_vector").map Text.trim =
      some (Json.Value.record [("b", .list [.integer 1]), ("a", .integer 2),
        ("b", .integer (-3))]).toText := by
    decide +kernel
  have feedback : readFeedback (paddedEntry.lookup "feedback_vector") = paddedRun.feedback := by
    rw [readFeedback, trimmed, Option.bind_some, Json.read?_toText (by decide) (by decide)]
    rfl
  have named : OperationKind.ofEntryName? "execution" = some .execution := by decide +kernel
  unfold decode
  simp only [kind, named, program, operationOf, fuzzer, category, flags, coverage, feedback]
  rfl

end Entry
end FuzzIntake
