import FuzzIntake.Entry.Decode
import FuzzIntake.Entry.Encode
import FuzzIntake.Proofs.Json.RoundTrip
import FuzzIntake.Proofs.Number.Plain
import Mathlib.Data.List.Perm.Basic

/-!
# Operations are read back from their entries

`Operation.received` is what an operation with a program becomes when the entry it was
published with is read: the blanks around the program go, null feedback goes, and a coverage
that is not finite becomes zero.  Everything else comes back as it was, each field by the
round trip of its own notation.  The operation comes back whole exactly if none of the three
changes anything.
-/

namespace FuzzIntake

/-- In a list with distinct keys the order does not matter for a look-up. -/
theorem lookup_of_perm
    {fields others : Fields}
    (same : fields.Perm others)
    (distinct : (fields.map Prod.fst).Nodup)
    (name : String) :
    fields.lookup name = others.lookup name := by
  induction same with
  | nil => rfl
  | cons field _ inductionHypothesis =>
      have fewer := (List.nodup_cons.mp distinct).2
      rw [List.lookup_cons, List.lookup_cons, inductionHypothesis fewer]
  | swap first second rest =>
      have unequal : first.1 ≠ second.1 := by
        rintro equal
        simp [equal] at distinct
      rw [List.lookup_cons, List.lookup_cons, List.lookup_cons, List.lookup_cons]
      by_cases found : name = first.1
      · subst found
        rw [beq_self_eq_true, beq_eq_false_iff_ne.mpr unequal]
      · rw [beq_eq_false_iff_ne.mpr found]
  | trans one _ firstHypothesis secondHypothesis =>
      rw [firstHypothesis distinct, secondHypothesis ((one.map Prod.fst).nodup distinct)]

namespace Operation

/-- The feedback that an operation carries, if any. -/
def feedback? : Operation → Option Json.Value
  | .execution run => run.feedback
  | .updateFeedback _ feedback => feedback
  | _ => none

/-- Feedback that is null is no feedback. -/
def feedbackOrNone : Option Json.Value → Option Json.Value
  | some .null => none
  | other => other

/-- What is left of an operation with a program when its entry is read. -/
def received : Operation → Operation
  | .createFuzzer => .createFuzzer
  | .fuzzerProgram program fuzzerId => .fuzzerProgram (Text.trim program) fuzzerId
  | .testProgram program fuzzerId => .testProgram (Text.trim program) fuzzerId
  | .execution run =>
      .execution
        { run with
          program := Text.trim run.program
          feedback := feedbackOrNone run.feedback
          coverage := if run.coverage.isFinite then run.coverage else Double.zero }
  | .updateFeedback program feedback =>
      .updateFeedback (Text.trim program) (feedbackOrNone feedback)
  | .delete program => .delete (Text.trim program)

theorem feedbackOrNone_eq_iff (feedback : Option Json.Value) :
    feedbackOrNone feedback = feedback ↔ feedback ≠ some .null := by
  unfold feedbackOrNone
  split
  · simp
  · next notNull => simpa using notNull

/-- Reading changes nothing of an operation whose program has no blanks around it, whose
feedback is not null and whose coverage is finite. -/
theorem received_eq_iff
    {operation : Operation}
    {program : String}
    (about : operation.program? = some program) :
    operation.received = operation ↔
      Text.trim program = program ∧
        operation.feedback? ≠ some .null ∧
        ∀ run, operation = .execution run → run.coverage.isFinite = true := by
  cases operation with
  | createFuzzer => cases about
  | fuzzerProgram _ _ | testProgram _ _ | delete _ =>
      cases about
      simp [received, feedback?]
  | updateFeedback _ feedback =>
      cases about
      simp [received, feedback?, feedbackOrNone_eq_iff]
  | execution run =>
      cases about
      have covered : (if run.coverage.isFinite then run.coverage else Double.zero) = run.coverage ↔
          run.coverage.isFinite = true := by
        constructor
        · intro same
          rw [← same]
          split
          · assumption
          · rfl
        · intro finite
          rw [if_pos finite]
      obtain ⟨program, fuzzerId, categoryId, feedback, code, coverage, flags⟩ := run
      simp only [received, feedback?, execution.injEq, Execution.mk.injEq, forall_eq', true_and,
        and_true, feedbackOrNone_eq_iff, covered]

end Operation

namespace Text

theorem isBlankText_iff (text : String) : isBlankText text = true ↔ trim text = "" := by
  rw [isBlankText, trim, List.isEmpty_iff]
  constructor
  · intro empty
    rw [empty]
  · intro empty
    rw [← String.toList_ofList (l := trimChars text.toList), empty]
    rfl

end Text

namespace Entry

theorem nodup_encode (operation : Operation) : ((encode operation).map Prod.fst).Nodup := by
  cases operation <;> simp [encode]

theorem decode_congr
    {fields others : Fields}
    (same : ∀ name, fields.lookup name = others.lookup name) :
    decode fields = decode others := by
  simp only [decode, present?, programField?, operationOf, int64Field?, categoryId, coverage,
    trimmed?, same]

theorem trim_ofList
    {cs : List Char}
    (trimmed : Text.trimChars cs = cs) :
    Text.trim (String.ofList cs) = String.ofList cs := by
  rw [Text.trim, String.toList_ofList, trimmed]

theorem int64Field?_writeInt64
    {fields : Fields}
    {name : String}
    (number : Int64)
    (written : fields.lookup name = some (writeInt64 number)) :
    int64Field? fields name = some number := by
  have solid : Text.trimChars (Integer.writeInt number.toInt) = Integer.writeInt number.toInt := by
    apply Text.trimChars_of_forall
    intro c present
    rcases Integer.minus_or_isDigit_of_mem_writeInt present with rfl | isDigit
    · rfl
    · exact Text.isBlank_of_isDigit isDigit
  rw [int64Field?, trimmed?, written, Option.map_some, Option.bind_some, writeInt64,
    trim_ofList solid, String.toList_ofList, Integer.readInt64_writeInt]
  rfl

theorem coverage_plain
    {fields : Fields}
    {x : Double}
    (written : fields.lookup "coverage_total" = some (String.ofList x.plain)) :
    coverage fields = if x.isFinite then x else Double.zero := by
  rw [coverage, trimmed?, written, Option.map_some, Option.bind_some]
  by_cases finite : x.isFinite = true
  · have solid := Text.trimChars_of_forall (Double.isBlank_of_mem_plain finite)
    rw [trim_ofList solid, String.toList_ofList, Double.read?_plain finite, if_pos finite,
      Option.filter_some, if_pos finite]
    rfl
  · rw [if_neg finite]
    cases x with
    | finite negative rank => exact absurd rfl finite
    | infinite negative => cases negative <;> rfl
    | nan => rfl

theorem readFeedback_writeFeedback
    {feedback : Option Json.Value}
    (integral : ∀ value ∈ feedback, value.isIntegral = true)
    (shallow : ∀ value ∈ feedback, value.nesting ≤ Json.nestingLimit)
    (canonical : ∀ value ∈ feedback, value.canonical = value) :
    readFeedback (some (writeFeedback feedback)) = Operation.feedbackOrNone feedback := by
  cases feedback with
  | none => rfl
  | some value =>
      have solid := Json.trimChars_write (integral value rfl)
      have read := Json.read?_toText (integral value rfl) (shallow value rfl)
      rw [canonical value rfl] at read
      rw [readFeedback, Option.map_some, Option.bind_some, writeFeedback, Json.Value.toText,
        trim_ofList solid, ← Json.Value.toText, read]
      cases value <;> rfl

theorem canonicalItems_texts (flags : List String) :
    Json.Value.canonicalItems (flags.map Json.Value.text) = flags.map Json.Value.text := by
  induction flags with
  | nil => rfl
  | cons flag others inductionHypothesis =>
      simp [Json.Value.canonicalItems, Json.Value.canonical, inductionHypothesis]

theorem areIntegral_texts (flags : List String) :
    Json.Value.areIntegral (flags.map Json.Value.text) = true := by
  induction flags with
  | nil => rfl
  | cons flag others inductionHypothesis => exact inductionHypothesis

theorem nestingOfItems_texts (flags : List String) :
    Json.Value.nestingOfItems (flags.map Json.Value.text) = 0 := by
  induction flags with
  | nil => rfl
  | cons flag others inductionHypothesis =>
      rw [List.map_cons, Json.Value.nestingOfItems, inductionHypothesis]
      rfl

theorem readFlags_writeFlags (flags : List String) :
    readFlags (some (writeFlags flags)) = flags := by
  let texts := flags.map Json.Value.text
  have integral : (Json.Value.list texts).isIntegral = true := areIntegral_texts flags
  have shallow : (Json.Value.list texts).nesting ≤ Json.nestingLimit := by
    rw [Json.Value.nesting, nestingOfItems_texts]
    decide
  have read := Json.read?_toText integral shallow
  rw [Json.Value.canonical, canonicalItems_texts] at read
  have solid := Json.trimChars_write integral
  obtain ⟨rest, opened⟩ : ∃ rest, (Json.Value.list texts).write = '[' :: rest := by
    cases flags with
    | nil => exact ⟨_, rfl⟩
    | cons flag others => exact ⟨_, rfl⟩
  rw [Json.Value.toText, opened] at read
  rw [readFlags, writeFlags, Option.map_some, Json.Value.toText, String.toList_ofList, solid,
    opened]
  simp only [read, List.map_map]
  exact List.map_id _

theorem present?_op (operation : Operation) :
    present? (encode operation) "op" = some operation.kind.entryName := by
  have named : (encode operation).lookup "op" = some operation.kind.entryName := by
    cases operation <;> rfl
  have solid (kind : OperationKind) :
      Text.trim kind.entryName = kind.entryName ∧ kind.entryName ≠ "" := by
    cases kind <;> decide
  rw [present?, trimmed?, named, Option.map_some, (solid operation.kind).1, Option.filter_some,
    if_pos (decide_eq_true (solid operation.kind).2)]

theorem ofEntryName?_entryName (kind : OperationKind) :
    OperationKind.ofEntryName? kind.entryName = some kind := by
  cases kind <;> decide

theorem decode_encode_of_program?
    {operation : Operation}
    {program : String}
    (about : operation.program? = some program) :
    decode (encode operation) =
      match programField? (encode operation) with
      | none => .dropped (.missingProgram operation.kind)
      | some program => .operation (operationOf (encode operation) program operation.kind) := by
  rw [decode, present?_op]
  simp only [ofEntryName?_entryName]
  cases operation with
  | createFuzzer => cases about
  | fuzzerProgram _ _ | testProgram _ _ | execution _ | updateFeedback _ _ | delete _ => rfl

theorem programField?_encode
    {operation : Operation}
    {program : String}
    (about : operation.program? = some program) :
    programField? (encode operation) =
      if Text.trim program = "" then none else some (Text.trim program) := by
  have written : (encode operation).lookup "program_base64" = some program ∧
      (encode operation).lookup "program" = none := by
    cases operation <;> cases about <;> exact ⟨rfl, rfl⟩
  rw [programField?, present?, present?, trimmed?, trimmed?, written.1, written.2]
  by_cases blank : Text.trim program = ""
  · simp [blank]
  · simp [blank]

theorem operationOf_encode
    {operation : Operation}
    {program : String}
    (about : operation.program? = some program)
    (integral : ∀ value ∈ operation.feedback?, value.isIntegral = true)
    (shallow : ∀ value ∈ operation.feedback?, value.nesting ≤ Json.nestingLimit)
    (canonical : ∀ value ∈ operation.feedback?, value.canonical = value) :
    operationOf (encode operation) (Text.trim program) operation.kind = operation.received := by
  cases operation with
  | createFuzzer => cases about
  | fuzzerProgram _ fuzzerId | testProgram _ fuzzerId =>
      cases about
      simp only [operationOf, Operation.kind, Operation.received]
      rw [int64Field?_writeInt64 fuzzerId rfl, Option.getD_some]
  | execution run =>
      cases about
      have fuzzer : int64Field? (encode (.execution run)) "fuzzer_id" = some run.fuzzerId :=
        int64Field?_writeInt64 run.fuzzerId rfl
      have category : int64Field? (encode (.execution run)) "execution_type_id" =
          some run.categoryId := int64Field?_writeInt64 run.categoryId rfl
      have covered : coverage (encode (.execution run)) =
          if run.coverage.isFinite then run.coverage else Double.zero := coverage_plain rfl
      have feedback : readFeedback ((encode (.execution run)).lookup "feedback_vector") =
          Operation.feedbackOrNone run.feedback :=
        readFeedback_writeFeedback integral shallow canonical
      have code : (encode (.execution run)).lookup "turboshaft_ir" =
          some run.intermediateCode := rfl
      have flags : readFlags ((encode (.execution run)).lookup "execution_flags") = run.flags :=
        readFlags_writeFlags run.flags
      simp only [operationOf, Operation.kind, Operation.received, categoryId, fuzzer, category,
        covered, feedback, code, flags, Option.getD_some]
  | updateFeedback _ feedback =>
      cases about
      have read : readFeedback ((encode (.updateFeedback program feedback)).lookup
          "feedback_vector") = Operation.feedbackOrNone feedback :=
        readFeedback_writeFeedback integral shallow canonical
      simp only [operationOf, Operation.kind, Operation.received, read]
  | delete _ =>
      cases about
      rfl

end Entry
end FuzzIntake
