import FuzzIntake.Entry.Decode
import FuzzIntake.Proofs.Text.Cuts
import FuzzIntake.Proofs.Text.Trim

/-!
# Comma lists of flags

Between its commas a list has flags with blanks around them and pieces of nothing but blanks.  A
text that begins neither with a bracket nor as blank text ends is read as the one list of flags
that it is a comma list of, whatever its blanks are.
-/

namespace FuzzIntake
namespace Entry

/-- A flag that a comma list can have. -/
structure IsListable (flag : String) : Prop where
  filled : Text.isBlankText flag = false
  trimmed : Text.trim flag = flag
  solid : ',' ∉ flag.toList

/-- Pieces that have flags in order, each with blanks around it, between pieces that are blank. -/
inductive Spells : List (List Char) → List String → Prop
  | nil : Spells [] []
  | blank {piece : List Char} {rest : List (List Char)} {flags : List String} :
      (∀ c ∈ piece, Text.isBlank c = true) → Spells rest flags → Spells (piece :: rest) flags
  | flag {lead trail : List Char} {flag : String} {rest : List (List Char)}
      {flags : List String} :
      (∀ c ∈ lead, Text.isBlank c = true) → IsListable flag →
      (∀ c ∈ trail, Text.isBlank c = true) → Spells rest flags →
      Spells ((lead ++ flag.toList ++ trail) :: rest) (flag :: flags)

/-- A text that has flags between commas. -/
def IsCommaList (flags : List String) (text : String) : Prop :=
  ∃ pieces, text.toList = [','].intercalate pieces ∧ Spells pieces flags

/-- The flags of the pieces between commas. -/
def flagsOfPieces (pieces : List (List Char)) : List String :=
  ((pieces.map Text.trimChars).filter fun piece => !piece.isEmpty).map String.ofList

theorem not_mem_of_forall_isBlank
    {cs : List Char}
    (blank : ∀ c ∈ cs, Text.isBlank c = true) :
    ',' ∉ cs := by
  intro within
  have comma : Text.isBlank ',' = false := by decide
  exact Bool.noConfusion ((blank ',' within).symm.trans comma)

/-! ## Pieces -/

theorem flagsOfPieces_cons_of_nil
    {piece : List Char}
    (nothing : Text.trimChars piece = [])
    (rest : List (List Char)) :
    flagsOfPieces (piece :: rest) = flagsOfPieces rest := by
  simp only [flagsOfPieces, List.map_cons, nothing, List.isEmpty_nil, Bool.not_true,
    Bool.false_eq_true, not_false_eq_true, List.filter_cons_of_neg]

theorem flagsOfPieces_cons_of_ne_nil
    {piece : List Char}
    (something : Text.trimChars piece ≠ [])
    (rest : List (List Char)) :
    flagsOfPieces (piece :: rest) =
      String.ofList (Text.trimChars piece) :: flagsOfPieces rest := by
  have kept : (Text.trimChars piece).isEmpty = false := by
    rwa [List.isEmpty_eq_false_iff]
  simp only [flagsOfPieces, List.map_cons, kept, Bool.not_false, List.filter_cons_of_pos]

theorem flagsOfPieces_eq_nil_iff {pieces : List (List Char)} :
    flagsOfPieces pieces = [] ↔ ∀ piece ∈ pieces, ∀ c ∈ piece, Text.isBlank c = true := by
  rw [flagsOfPieces, List.map_eq_nil_iff, List.filter_eq_nil_iff, List.forall_mem_map]
  simp only [← Text.trimChars_eq_nil_iff, Bool.not_eq_true', Bool.not_eq_false,
    List.isEmpty_iff]

/-- A flag between blanks is its own trim, and something is left of it. -/
theorem IsListable.trimChars_eq
    {flag : String}
    (listable : IsListable flag)
    {lead trail : List Char}
    (before : ∀ c ∈ lead, Text.isBlank c = true)
    (after : ∀ c ∈ trail, Text.isBlank c = true) :
    Text.trimChars (lead ++ flag.toList ++ trail) = flag.toList := by
  rw [Text.trimChars_append before after, ← Text.toList_trim, listable.trimmed]

theorem IsListable.toList_ne_nil {flag : String} (listable : IsListable flag) :
    flag.toList ≠ [] := by
  intro nothing
  have filled := listable.filled
  rw [Text.isBlankText, nothing] at filled
  cases filled

/-- What is left of a piece without commas is a flag. -/
theorem isListable_ofList
    {piece : List Char}
    (something : Text.trimChars piece ≠ [])
    (solid : ',' ∉ piece) :
    IsListable (String.ofList (Text.trimChars piece)) where
  filled := Text.isBlankText_ofList_trimChars something
  trimmed := by
    rw [Text.trim, String.toList_ofList, Text.trimChars_trimChars]
  solid := by
    rw [String.toList_ofList]
    exact fun within => solid (Text.mem_of_mem_trimChars within)

/-- The flags that pieces spell are read off them. -/
theorem Spells.flagsOfPieces_eq
    {pieces : List (List Char)}
    {flags : List String}
    (spells : Spells pieces flags) :
    flagsOfPieces pieces = flags := by
  induction spells with
  | nil => rfl
  | blank blank _ inductionHypothesis =>
      rw [flagsOfPieces_cons_of_nil (Text.trimChars_eq_nil_iff.mpr blank), inductionHypothesis]
  | flag before listable after _ inductionHypothesis =>
      have trim := listable.trimChars_eq before after
      have something := trim.trans_ne listable.toList_ne_nil
      rw [flagsOfPieces_cons_of_ne_nil something, trim, String.ofList_toList,
        inductionHypothesis]

/-- Pieces that spell flags have no commas. -/
theorem Spells.not_mem
    {pieces : List (List Char)}
    {flags : List String}
    (spells : Spells pieces flags) :
    ∀ piece ∈ pieces, ',' ∉ piece := by
  induction spells with
  | nil => exact fun _ within => absurd within List.not_mem_nil
  | blank blank _ inductionHypothesis =>
      exact List.forall_mem_cons.mpr ⟨not_mem_of_forall_isBlank blank, inductionHypothesis⟩
  | flag before listable after _ inductionHypothesis =>
      refine List.forall_mem_cons.mpr ⟨?_, inductionHypothesis⟩
      rw [List.mem_append, List.mem_append, not_or, not_or]
      exact ⟨⟨not_mem_of_forall_isBlank before, listable.solid⟩, not_mem_of_forall_isBlank after⟩

/-- Flags of a list are all of the kind that a comma list can have. -/
theorem Spells.isListable
    {pieces : List (List Char)}
    {flags : List String}
    (spells : Spells pieces flags) :
    ∀ flag ∈ flags, IsListable flag := by
  induction spells with
  | nil => exact fun _ within => absurd within List.not_mem_nil
  | blank _ _ inductionHypothesis => exact inductionHypothesis
  | flag _ listable _ _ inductionHypothesis =>
      exact List.forall_mem_cons.mpr ⟨listable, inductionHypothesis⟩

/-- Pieces without commas spell the flags that are read off them. -/
theorem spells_flagsOfPieces
    {pieces : List (List Char)}
    (solid : ∀ piece ∈ pieces, ',' ∉ piece) :
    Spells pieces (flagsOfPieces pieces) := by
  induction pieces with
  | nil => exact .nil
  | cons piece rest inductionHypothesis =>
      obtain ⟨pieceSolid, restSolid⟩ := List.forall_mem_cons.mp solid
      by_cases nothing : Text.trimChars piece = []
      · rw [flagsOfPieces_cons_of_nil nothing]
        exact .blank (Text.trimChars_eq_nil_iff.mp nothing) (inductionHypothesis restSolid)
      · rw [flagsOfPieces_cons_of_ne_nil nothing]
        obtain ⟨lead, trail, whole, before, after⟩ := Text.exists_append_trimChars piece
        have spelled := Spells.flag before (isListable_ofList nothing pieceSolid) after
          (inductionHypothesis restSolid)
        rwa [String.toList_ofList, ← whole] at spelled

/-! ## Texts -/

theorem commaFlags_eq (text : List Char) :
    commaFlags text = flagsOfPieces (Text.pieces ',' text) :=
  rfl

/-- The flags of a comma list are those that it has between its commas. -/
theorem isCommaList_iff {flags : List String} {text : String} :
    IsCommaList flags text ↔ commaFlags text.toList = flags := by
  rw [commaFlags_eq, Text.pieces_eq_splitOn]
  constructor
  · rintro ⟨pieces, whole, spells⟩
    rw [whole]
    cases pieces with
    | nil => exact spells.flagsOfPieces_eq
    | cons piece rest =>
        rw [List.splitOn_intercalate _ spells.not_mem (List.cons_ne_nil _ _)]
        exact spells.flagsOfPieces_eq
  · rintro rfl
    refine ⟨text.toList.splitOn ',', (List.intercalate_splitOn _).symm, ?_⟩
    exact spells_flagsOfPieces fun piece cut => Text.not_mem_of_mem_splitOn cut

/-- Blanks in front of a comma list are blanks in front of its first piece. -/
theorem commaFlags_append_left
    {lead : List Char}
    (blank : ∀ c ∈ lead, Text.isBlank c = true)
    (text : List Char) :
    commaFlags (lead ++ text) = commaFlags text := by
  obtain ⟨first, rest, cut, longer⟩ :=
    Text.pieces_append_left (not_mem_of_forall_isBlank blank) text
  have trim := Text.trimChars_append blank (List.forall_mem_nil _) first
  rw [List.append_nil] at trim
  rw [commaFlags_eq, commaFlags_eq, cut, longer, flagsOfPieces, flagsOfPieces, List.map_cons,
    List.map_cons, trim]

/-- Blanks behind a comma list are blanks behind its last piece. -/
theorem commaFlags_append_right
    {trail : List Char}
    (blank : ∀ c ∈ trail, Text.isBlank c = true)
    (text : List Char) :
    commaFlags (text ++ trail) = commaFlags text := by
  obtain ⟨front, last, cut, longer⟩ :=
    Text.pieces_append_right (not_mem_of_forall_isBlank blank) text
  have trim : Text.trimChars (last ++ trail) = Text.trimChars last :=
    Text.trimChars_append (List.forall_mem_nil _) blank last
  rw [commaFlags_eq, commaFlags_eq, cut, longer, flagsOfPieces, flagsOfPieces, List.map_append,
    List.map_append, List.map_singleton, List.map_singleton, trim]

/-- Trimming a comma list changes none of its flags. -/
theorem commaFlags_trimChars (text : List Char) :
    commaFlags (Text.trimChars text) = commaFlags text := by
  obtain ⟨lead, trail, whole, before, after⟩ := Text.exists_append_trimChars text
  conv => rhs; rw [whole]
  rw [commaFlags_append_right after, commaFlags_append_left before]

/-- A text has no flags if it has nothing but commas and blanks. -/
theorem commaFlags_eq_nil_iff {text : List Char} :
    commaFlags text = [] ↔ ∀ c ∈ text, c = ',' ∨ Text.isBlank c = true := by
  rw [← Text.forall_mem_pieces_iff, commaFlags_eq, flagsOfPieces_eq_nil_iff]

/-- Text that is not blank and does not begin with a bracket is read as a comma list. -/
theorem readFlags_eq_commaFlags
    {text : String}
    (filled : Text.isBlankText text = false)
    (unbracketed : text.toList.find? (fun c => !Text.isBlank c) ≠ some '[') :
    readFlags (some text) = commaFlags text.toList := by
  rw [← Text.head?_trimChars] at unbracketed
  rw [← commaFlags_trimChars]
  rw [Text.isBlankText] at filled
  rw [readFlags, Option.map_some]
  cases trimmed : Text.trimChars text.toList with
  | nil =>
      rw [trimmed] at filled
      cases filled
  | cons c rest =>
      rw [trimmed] at unbracketed
      split
      · next begins => cases begins
      · next begins => cases begins
      · next begins =>
          cases begins
          exact absurd rfl unbracketed
      · next begins =>
          cases begins
          rfl

/--
A comma list of flags whose first character that is not blank is no bracket is read as its flags.
Any text that begins like this and is not blank is a comma list of the flags read from it, each of
which could be in such a list, and only a text of commas and blanks has none.
-/
theorem readFlags_of_unbracketed
    (text : String)
    (unbracketed : text.toList.find? (fun c => !Text.isBlank c) ≠ some '[') :
    (∀ flags, flags ≠ [] → IsCommaList flags text → readFlags (some text) = flags) ∧
      (Text.isBlankText text = false →
        IsCommaList (readFlags (some text)) text ∧
        (∀ flag ∈ readFlags (some text), IsListable flag) ∧
        (readFlags (some text) = [] ↔
          ∀ c ∈ text.toList, c = ',' ∨ Text.isBlank c = true)) := by
  constructor
  · intro flags some_flag isList
    rw [isCommaList_iff] at isList
    have filled : Text.isBlankText text = false := by
      rw [Text.isBlankText, List.isEmpty_eq_false_iff]
      intro nothing
      have blank := Text.trimChars_eq_nil_iff.mp nothing
      have none : commaFlags text.toList = [] :=
        commaFlags_eq_nil_iff.mpr fun c within => .inr (blank c within)
      exact some_flag (isList.symm.trans none)
    rw [readFlags_eq_commaFlags filled unbracketed, isList]
  · intro filled
    rw [readFlags_eq_commaFlags filled unbracketed]
    obtain ⟨pieces, whole, spells⟩ : IsCommaList (commaFlags text.toList) text :=
      isCommaList_iff.mpr rfl
    exact ⟨⟨pieces, whole, spells⟩, spells.isListable, commaFlags_eq_nil_iff⟩

/-- Two flags between pieces that are blank, one with a blank in it and a wide blank behind it. -/
theorem readFlags_of_unbracketed_twoFlags :
    let text := ",a=1 , ,\u00a0b c\u3000,"
    text.toList.find? (fun c => !Text.isBlank c) ≠ some '[' ∧
      Text.isBlankText text = false ∧
      IsCommaList ["a=1", "b c"] text ∧
      readFlags (some text) = ["a=1", "b c"] ∧
      ∀ flag ∈ readFlags (some text), IsListable flag := by
  intro text
  have unbracketed : text.toList.find? (fun c => !Text.isBlank c) ≠ some '[' := by decide
  have filled : Text.isBlankText text = false := by decide
  obtain ⟨reads, readable⟩ := readFlags_of_unbracketed text unbracketed
  have first : IsListable "a=1" := ⟨by decide, by decide, by decide⟩
  have second : IsListable "b c" := ⟨by decide, by decide, by decide⟩
  have isList : IsCommaList ["a=1", "b c"] text := by
    refine ⟨[[], [] ++ "a=1".toList ++ [' '], [' '], ['\u00a0'] ++ "b c".toList ++ ['\u3000'], []],
      by decide, ?_⟩
    apply Spells.blank (List.forall_mem_nil _)
    apply Spells.flag (List.forall_mem_nil _) first (List.forall_mem_singleton.mpr rfl)
    apply Spells.blank (List.forall_mem_singleton.mpr rfl)
    apply Spells.flag (List.forall_mem_singleton.mpr rfl) second
      (List.forall_mem_singleton.mpr rfl)
    exact Spells.blank (List.forall_mem_nil _) Spells.nil
  exact ⟨unbracketed, filled, isList, reads _ (List.cons_ne_nil _ _) isList,
    (readable filled).2.1⟩

end Entry
end FuzzIntake
