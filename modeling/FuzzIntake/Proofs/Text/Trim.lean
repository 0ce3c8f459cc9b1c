import FuzzIntake.Text.Blank
import Mathlib.Data.List.Basic
import Mathlib.Data.List.TakeWhile

/-!
# Texts that trimming leaves alone

Trimming removes nothing from a text that neither starts nor ends with a blank, and what it
leaves is such a text.
-/

namespace FuzzIntake
namespace Text

theorem isBlank_of_isDigit
    {c : Char}
    (isDigit : c.isDigit = true) :
    isBlank c = false := by
  have range := Char.isDigit_iff_toNat.mp isDigit
  have code : '0'.toNat = 48 ∧ '9'.toNat = 57 := ⟨rfl, rfl⟩
  simp only [isBlank, Bool.or_eq_false_iff, Bool.and_eq_false_iff, decide_eq_false_iff_not,
    beq_eq_false_iff_ne]
  omega

theorem dropWhile_isBlank
    {cs : List Char}
    (first : ∀ c ∈ cs.head?, isBlank c = false) :
    cs.dropWhile isBlank = cs := by
  cases cs with
  | nil => rfl
  | cons c rest => exact List.dropWhile_cons_of_neg (by simp [first c rfl])

/-- A text with no blank at either end is its own trim. -/
theorem trimChars_of_ends
    {cs : List Char}
    (first : ∀ c ∈ cs.head?, isBlank c = false)
    (last : ∀ c ∈ cs.getLast?, isBlank c = false) :
    trimChars cs = cs := by
  rw [List.getLast?_eq_head?_reverse] at last
  rw [trimChars, dropWhile_isBlank first, dropWhile_isBlank last, List.reverse_reverse]

/-- A text without blanks is its own trim. -/
theorem trimChars_of_forall
    {cs : List Char}
    (solid : ∀ c ∈ cs, isBlank c = false) :
    trimChars cs = cs :=
  trimChars_of_ends
    (fun c first => solid c (List.mem_of_head? first))
    (fun c last => solid c (List.mem_of_getLast? last))

/-- What is left of a text when blanks are removed at its front starts with none. -/
theorem isBlank_of_head?_dropWhile (cs : List Char) :
    ∀ c ∈ (cs.dropWhile isBlank).head?, isBlank c = false := by
  intro c first
  have solid := List.head?_dropWhile_not isBlank cs
  rw [Option.mem_def] at first
  simpa only [first] using solid

theorem isBlank_of_head?_trimChars (cs : List Char) :
    ∀ c ∈ (trimChars cs).head?, isBlank c = false := by
  intro c first
  have within : trimChars cs <+: cs.dropWhile isBlank := by
    rw [← List.reverse_suffix, trimChars, List.reverse_reverse]
    exact List.dropWhile_suffix isBlank
  obtain ⟨removed, front⟩ := within
  apply isBlank_of_head?_dropWhile cs
  rw [← front, List.head?_append, Option.mem_def.mp first]
  rfl

theorem isBlank_of_getLast?_trimChars (cs : List Char) :
    ∀ c ∈ (trimChars cs).getLast?, isBlank c = false := by
  intro c last
  rw [trimChars, List.getLast?_reverse] at last
  exact isBlank_of_head?_dropWhile _ c last

/-- Trimming a text again removes nothing. -/
theorem trimChars_trimChars (cs : List Char) : trimChars (trimChars cs) = trimChars cs :=
  trimChars_of_ends (isBlank_of_head?_trimChars cs) (isBlank_of_getLast?_trimChars cs)

/-- Trimming adds nothing to a text. -/
theorem mem_of_mem_trimChars {c : Char} {cs : List Char} (within : c ∈ trimChars cs) : c ∈ cs := by
  rw [trimChars, List.mem_reverse] at within
  have front := (List.dropWhile_sublist isBlank).subset within
  exact (List.dropWhile_sublist isBlank).subset (List.mem_reverse.mp front)

theorem toList_trim (text : String) : (trim text).toList = trimChars text.toList :=
  String.toList_ofList

theorem trim_trim (text : String) : trim (trim text) = trim text := by
  rw [trim, toList_trim, trimChars_trimChars, trim]

/-- What is left of a text by trimming is not blank if it is anything. -/
theorem isBlankText_ofList_trimChars {cs : List Char} (filled : trimChars cs ≠ []) :
    isBlankText (String.ofList (trimChars cs)) = false := by
  rw [isBlankText, String.toList_ofList, trimChars_trimChars]
  exact List.isEmpty_eq_false_iff.mpr filled

/-! ## Blanks around a text -/

/-- A text is its trim between blanks. -/
theorem exists_append_trimChars (cs : List Char) :
    ∃ lead trail, cs = lead ++ trimChars cs ++ trail ∧
      (∀ c ∈ lead, isBlank c = true) ∧ ∀ c ∈ trail, isBlank c = true := by
  refine ⟨cs.takeWhile isBlank,
    ((cs.dropWhile isBlank).reverse.takeWhile isBlank).reverse, ?_, ?_, ?_⟩
  · rw [trimChars, List.append_assoc, ← List.reverse_append, List.takeWhile_append_dropWhile,
      List.reverse_reverse, List.takeWhile_append_dropWhile]
  · intro c within
    exact List.mem_takeWhile_imp within
  · intro c within
    exact List.mem_takeWhile_imp (List.mem_reverse.mp within)

/-- A text with no blank at either end is the trim of what it is between blanks. -/
theorem trimChars_of_between
    {lead core trail : List Char}
    (before : ∀ c ∈ lead, isBlank c = true)
    (after : ∀ c ∈ trail, isBlank c = true)
    (first : ∀ c ∈ core.head?, isBlank c = false)
    (last : ∀ c ∈ core.getLast?, isBlank c = false) :
    trimChars (lead ++ core ++ trail) = core := by
  rw [trimChars, List.append_assoc, List.dropWhile_append_of_pos before]
  cases core with
  | nil =>
      rw [List.nil_append, List.dropWhile_eq_nil_iff.mpr after]
      rfl
  | cons c rest =>
      have solid : ∀ d ∈ (c :: rest ++ trail).head?, isBlank d = false := first
      rw [List.getLast?_eq_head?_reverse] at last
      rw [dropWhile_isBlank solid, List.reverse_append,
        List.dropWhile_append_of_pos fun d within => after d (List.mem_reverse.mp within),
        dropWhile_isBlank last, List.reverse_reverse]

/-- Blanks that are put around a text do not change its trim. -/
theorem trimChars_append
    {lead trail : List Char}
    (before : ∀ c ∈ lead, isBlank c = true)
    (after : ∀ c ∈ trail, isBlank c = true)
    (cs : List Char) :
    trimChars (lead ++ cs ++ trail) = trimChars cs := by
  obtain ⟨front, back, whole, frontBlank, backBlank⟩ := exists_append_trimChars cs
  have nested : lead ++ cs ++ trail = lead ++ front ++ trimChars cs ++ (back ++ trail) := by
    conv => lhs; rw [whole]
    simp only [List.append_assoc]
  rw [nested]
  apply trimChars_of_between
  · exact List.forall_mem_append.mpr ⟨before, frontBlank⟩
  · exact List.forall_mem_append.mpr ⟨backBlank, after⟩
  · exact isBlank_of_head?_trimChars cs
  · exact isBlank_of_getLast?_trimChars cs

/-- A text is trimmed to nothing if it has nothing but blanks. -/
theorem trimChars_eq_nil_iff {cs : List Char} :
    trimChars cs = [] ↔ ∀ c ∈ cs, isBlank c = true := by
  constructor
  · intro nothing
    obtain ⟨lead, trail, whole, before, after⟩ := exists_append_trimChars cs
    rw [whole, nothing, List.append_nil]
    exact List.forall_mem_append.mpr ⟨before, after⟩
  · intro blank
    rw [trimChars, List.dropWhile_eq_nil_iff.mpr blank]
    rfl

/-- The trim of a text begins with the first character that is not blank. -/
theorem head?_trimChars (cs : List Char) :
    (trimChars cs).head? = cs.find? fun c => !isBlank c := by
  obtain ⟨lead, trail, whole, before, after⟩ := exists_append_trimChars cs
  have none : lead.find? (fun c => !isBlank c) = none := by
    simpa using before
  conv => rhs; rw [whole]
  rw [List.append_assoc, List.find?_append, none, Option.none_or]
  cases core : trimChars cs with
  | nil =>
      symm
      simpa using after
  | cons c rest =>
      have solid := isBlank_of_head?_trimChars cs c (by rw [core]; rfl)
      rw [List.cons_append, List.find?_cons_of_pos (by rw [solid]; rfl)]
      rfl

end Text
end FuzzIntake
