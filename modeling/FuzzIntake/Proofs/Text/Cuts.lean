import FuzzIntake.Text.Pieces
import Mathlib.Data.List.TakeWhile

/-!
# Where a text is cut

A cut at the first separator leaves none before it, a cut at the last one leaves none behind
it, and either is the only cut of its kind.  A marker whose first character stands nowhere else
in it cannot overlap itself, so what is written before it is what the cut leaves before it.
-/

namespace FuzzIntake
namespace Text

/-! ## Cutting at every separator -/

/-- The pieces of a text are those of the library's split. -/
theorem pieces_eq_splitOn (separator : Char) (text : List Char) :
    pieces separator text = text.splitOn separator := by
  induction text with
  | nil => rfl
  | cons c rest inductionHypothesis =>
      rw [pieces, List.splitOn_cons_eq_if_modifyHead, inductionHypothesis]
      by_cases same : c = separator
      · rw [if_pos same, if_pos (beq_iff_eq.mpr same)]
      · rw [if_neg same, if_neg (beq_iff_eq.not.mpr same)]
        cases cut : rest.splitOn separator with
        | nil => exact absurd cut (List.splitOn_ne_nil separator rest)
        | cons piece others => rfl

/-- No piece holds the separator. -/
theorem not_mem_of_mem_splitOn
    {separator : Char}
    {text piece : List Char}
    (cut : piece ∈ text.splitOn separator) :
    separator ∉ piece := by
  induction text generalizing piece with
  | nil =>
      rw [List.splitOn_nil, List.mem_singleton] at cut
      rw [cut]
      exact List.not_mem_nil
  | cons c rest inductionHypothesis =>
      rw [List.splitOn_cons_eq_if_modifyHead] at cut
      by_cases same : c = separator
      · rw [if_pos (beq_iff_eq.mpr same), List.mem_cons] at cut
        obtain rfl | later := cut
        · exact List.not_mem_nil
        · exact inductionHypothesis later
      · rw [if_neg (beq_iff_eq.not.mpr same)] at cut
        cases first : rest.splitOn separator with
        | nil => exact absurd first (List.splitOn_ne_nil separator rest)
        | cons piece others =>
            rw [first, List.modifyHead_cons, List.mem_cons] at cut
            rw [first] at inductionHypothesis
            obtain rfl | later := cut
            · rw [List.mem_cons, not_or]
              exact ⟨Ne.symm same, inductionHypothesis List.mem_cons_self⟩
            · exact inductionHypothesis (List.mem_cons_of_mem _ later)

/-- The pieces of a text have its characters but for the separators. -/
theorem forall_mem_pieces_iff {separator : Char} {text : List Char} {P : Char → Prop} :
    (∀ piece ∈ pieces separator text, ∀ c ∈ piece, P c) ↔
      ∀ c ∈ text, c = separator ∨ P c := by
  induction text with
  | nil => simp [pieces]
  | cons c rest inductionHypothesis =>
      rw [List.forall_mem_cons, ← inductionHypothesis, pieces]
      by_cases same : c = separator
      · rw [if_pos same, List.forall_mem_cons]
        exact and_congr_left fun _ => iff_of_true (List.forall_mem_nil _) (.inl same)
      · rw [if_neg same, or_iff_right same]
        cases cut : pieces separator rest with
        | nil => exact absurd (pieces_eq_splitOn separator rest ▸ cut) (List.splitOn_ne_nil _ _)
        | cons piece others =>
            rw [List.forall_mem_cons, List.forall_mem_cons, List.forall_mem_cons, and_assoc]

/-- Text without separators in front of another text is in front of its first piece. -/
theorem pieces_append_left
    {separator : Char}
    {lead : List Char}
    (absent : separator ∉ lead)
    (text : List Char) :
    ∃ first rest, pieces separator text = first :: rest ∧
      pieces separator (lead ++ text) = (lead ++ first) :: rest := by
  induction lead with
  | nil =>
      cases cut : pieces separator text with
      | nil => exact absurd (pieces_eq_splitOn separator text ▸ cut) (List.splitOn_ne_nil _ _)
      | cons first rest => exact ⟨first, rest, rfl, cut⟩
  | cons c lead inductionHypothesis =>
      rw [List.mem_cons, not_or] at absent
      obtain ⟨first, rest, cut, longer⟩ := inductionHypothesis absent.2
      refine ⟨first, rest, cut, ?_⟩
      rw [List.cons_append, pieces, if_neg (Ne.symm absent.1), longer]
      rfl

/-- Text without separators behind another text is behind its last piece. -/
theorem pieces_append_right
    {separator : Char}
    {trail : List Char}
    (absent : separator ∉ trail)
    (text : List Char) :
    ∃ front last, pieces separator text = front ++ [last] ∧
      pieces separator (text ++ trail) = front ++ [last ++ trail] := by
  induction text with
  | nil =>
      obtain ⟨first, rest, single, whole⟩ := pieces_append_left absent []
      obtain ⟨rfl, rfl⟩ : [] = first ∧ [] = rest := List.cons.inj single
      rw [List.append_nil] at whole
      exact ⟨[], [], rfl, whole⟩
  | cons c text inductionHypothesis =>
      obtain ⟨front, last, cut, longer⟩ := inductionHypothesis
      rw [List.cons_append, pieces, pieces, cut, longer]
      by_cases same : c = separator
      · rw [if_pos same, if_pos same]
        exact ⟨[] :: front, last, rfl, rfl⟩
      · rw [if_neg same, if_neg same]
        cases front with
        | nil => exact ⟨[], c :: last, rfl, rfl⟩
        | cons piece front => exact ⟨(c :: piece) :: front, last, rfl, rfl⟩

/-! ## Cutting at the first separator and at the last -/

theorem cut?_eq_none_iff {separator : Char} {text : List Char} :
    cut? separator text = none ↔ separator ∉ text := by
  induction text with
  | nil => exact iff_of_true rfl List.not_mem_nil
  | cons c rest inductionHypothesis =>
      rw [cut?, List.mem_cons, not_or]
      by_cases same : c = separator
      · rw [if_pos same]
        exact iff_of_false (fun found => by cases found) fun absent => absent.1 same.symm
      · rw [if_neg same, Option.map_eq_none_iff, inductionHypothesis]
        exact (and_iff_right (Ne.symm same)).symm

/-- A text is cut at the separator that has none before it. -/
theorem cut?_eq_some_iff {separator : Char} {text before after : List Char} :
    cut? separator text = some (before, after) ↔
      text = before ++ separator :: after ∧ separator ∉ before := by
  induction text generalizing before with
  | nil =>
      refine iff_of_false (fun found => by cases found) ?_
      rintro ⟨written, -⟩
      exact List.append_ne_nil_of_right_ne_nil before (List.cons_ne_nil _ _) written.symm
  | cons c rest inductionHypothesis =>
      rw [cut?]
      by_cases same : c = separator
      · rw [if_pos same, same, Option.some.injEq, Prod.mk.injEq]
        cases before with
        | nil => simp
        | cons b before =>
            refine iff_of_false (fun found => by cases found.1) ?_
            rintro ⟨written, absent⟩
            rw [List.cons_append, List.cons.injEq] at written
            exact absent (written.1 ▸ List.mem_cons_self)
      · rw [if_neg same, Option.map_eq_some_iff]
        constructor
        · rintro ⟨⟨earlier, later⟩, found, cut⟩
          cases cut
          obtain ⟨written, absent⟩ := inductionHypothesis.mp found
          refine ⟨by rw [written, List.cons_append], ?_⟩
          rw [List.mem_cons, not_or]
          exact ⟨Ne.symm same, absent⟩
        · rintro ⟨written, absent⟩
          cases before with
          | nil => exact absurd (List.cons.inj written).1 same
          | cons b before =>
              rw [List.cons_append, List.cons.injEq] at written
              rw [List.mem_cons, not_or] at absent
              refine ⟨(before, after), inductionHypothesis.mpr ⟨written.2, absent.2⟩, ?_⟩
              rw [written.1]

theorem cutLast?_eq_none_iff {separator : Char} {text : List Char} :
    cutLast? separator text = none ↔ separator ∉ text := by
  induction text with
  | nil => exact iff_of_true rfl List.not_mem_nil
  | cons c rest inductionHypothesis =>
      rw [cutLast?, List.mem_cons, not_or, ← inductionHypothesis]
      cases later : cutLast? separator rest with
      | some found => simp
      | none => simp [eq_comm]

/-- A text is cut at the separator that has none behind it. -/
theorem cutLast?_eq_some_iff {separator : Char} {text before after : List Char} :
    cutLast? separator text = some (before, after) ↔
      text = before ++ separator :: after ∧ separator ∉ after := by
  induction text generalizing before with
  | nil =>
      refine iff_of_false (fun found => by cases found) ?_
      rintro ⟨written, -⟩
      exact List.append_ne_nil_of_right_ne_nil before (List.cons_ne_nil _ _) written.symm
  | cons c rest inductionHypothesis =>
      rw [cutLast?]
      cases later : cutLast? separator rest with
      | none =>
          have absent : separator ∉ rest := cutLast?_eq_none_iff.mp later
          change (if c = separator then some ([], rest) else none) = some (before, after) ↔ _
          rw [Option.ite_none_right_eq_some, Option.some.injEq, Prod.mk.injEq]
          constructor
          · rintro ⟨rfl, rfl, rfl⟩
            exact ⟨rfl, absent⟩
          · rintro ⟨written, -⟩
            cases before with
            | nil => exact ⟨(List.cons.inj written).1, rfl, (List.cons.inj written).2⟩
            | cons b before =>
                rw [List.cons_append, List.cons.injEq] at written
                exact absurd (written.2 ▸ List.mem_append_right _ List.mem_cons_self) absent
      | some found =>
          rw [later] at inductionHypothesis
          cases before with
          | nil =>
              refine iff_of_false (fun found => by simp at found) ?_
              rintro ⟨written, absent⟩
              rw [List.nil_append, List.cons.injEq] at written
              rw [← written.2, ← cutLast?_eq_none_iff, later] at absent
              cases absent
          | cons b before =>
              rw [List.cons_append, List.cons.injEq, and_assoc, ← inductionHypothesis]
              obtain ⟨earlier, rest⟩ := found
              simp [and_assoc]

theorem forall_bne_of_not_mem
    {separator : Char}
    {text : List Char}
    (absent : separator ∉ text) :
    ∀ c ∈ text, (c != separator) = true := by
  intro c within
  rw [bne_iff_ne]
  rintro rfl
  exact absent within

theorem takeWhile_append_cons
    {separator : Char}
    {before : List Char}
    (absent : separator ∉ before)
    (after : List Char) :
    (before ++ separator :: after).takeWhile (· != separator) = before := by
  rw [List.takeWhile_append_of_pos (forall_bne_of_not_mem absent),
    List.takeWhile_cons_of_neg (by simp), List.append_nil]

theorem dropWhile_append_cons
    {separator : Char}
    {before : List Char}
    (absent : separator ∉ before)
    (after : List Char) :
    (before ++ separator :: after).dropWhile (· != separator) = separator :: after := by
  rw [List.dropWhile_append_of_pos (forall_bne_of_not_mem absent),
    List.dropWhile_cons_of_neg (by simp)]

/-- Before what begins with the first separator stands a text that holds none. -/
theorem takeWhile_dropWhile_append
    {separator : Char}
    {before after : List Char}
    (absent : separator ∉ before)
    (rooted : after = [] ∨ ∃ rest, after = separator :: rest) :
    (before ++ after).takeWhile (· != separator) = before ∧
      (before ++ after).dropWhile (· != separator) = after := by
  obtain rfl | ⟨rest, rfl⟩ := rooted
  · rw [List.append_nil, List.takeWhile_eq_self_iff, List.dropWhile_eq_nil_iff]
    exact ⟨forall_bne_of_not_mem absent, forall_bne_of_not_mem absent⟩
  · exact ⟨takeWhile_append_cons absent rest, dropWhile_append_cons absent rest⟩

/-- A text is what stands before the first separator, and what begins with it. -/
theorem exists_append_rooted (separator : Char) (text : List Char) :
    ∃ before after, text = before ++ after ∧ separator ∉ before ∧
      (after = [] ∨ ∃ rest, after = separator :: rest) := by
  by_cases within : separator ∈ text
  · obtain ⟨before, rest, written, absent⟩ := List.eq_append_cons_of_mem within
    exact ⟨before, separator :: rest, written, absent, .inr ⟨rest, rfl⟩⟩
  · exact ⟨text, [], (List.append_nil text).symm, within, .inl rfl⟩

/-! ## Cutting at a marker -/

theorem dropMarker?_eq_some_iff {marker text after : List Char} :
    dropMarker? marker text = some after ↔ text = marker ++ after := by
  induction marker generalizing text with
  | nil => rw [dropMarker?, Option.some.injEq, List.nil_append]
  | cons m marker inductionHypothesis =>
      cases text with
      | nil => exact iff_of_false (fun found => by cases found) fun written => by cases written
      | cons c text =>
          rw [dropMarker?, List.cons_append, List.cons.injEq]
          by_cases same : m = c
          · rw [if_pos same, inductionHypothesis, and_iff_right same.symm]
          · rw [if_neg same]
            exact iff_of_false (fun found => by cases found) fun written => same written.1.symm

/-- What a text is cut into at a marker, and that no marker ends before the cut. -/
theorem eq_of_cutAt?
    {m : Char}
    {marker text before after : List Char}
    (cut : cutAt? (m :: marker) text = some (before, after)) :
    text = before ++ (m :: marker ++ after) ∧ ¬ (m :: marker) <:+: before := by
  have blank : ¬ (m :: marker) <:+: [] := fun within =>
    List.cons_ne_nil m marker (List.infix_nil.mp within)
  induction text generalizing before with
  | nil => cases cut
  | cons c rest inductionHypothesis =>
      rw [cutAt?] at cut
      cases first : dropMarker? (m :: marker) (c :: rest) with
      | some tail =>
          rw [first, Option.some.injEq, Prod.mk.injEq] at cut
          have written := dropMarker?_eq_some_iff.mp first
          rw [← cut.1, ← cut.2]
          exact ⟨written, blank⟩
      | none =>
          rw [first, Option.map_eq_some_iff] at cut
          obtain ⟨⟨earlier, later⟩, found, whole⟩ := cut
          cases whole
          obtain ⟨written, absent⟩ := inductionHypothesis found
          refine ⟨by rw [written]; rfl, fun within => ?_⟩
          obtain ⟨tail, front⟩ | inside := List.infix_cons_iff.mp within
          · have found : c :: rest = m :: marker ++ (tail ++ (m :: marker ++ after)) := by
              rw [written, ← List.append_assoc (m :: marker) tail, front, ← List.cons_append]
            rw [dropMarker?_eq_some_iff.mpr found] at first
            cases first
          · exact absent inside

/-- A marker that cannot overlap itself is found where it is written first: one that begins before
the cut ends before it or runs into the next one. -/
theorem cutAt?_append
    {m : Char}
    {marker before : List Char}
    (solid : m ∉ marker)
    (absent : ¬ (m :: marker) <:+: before)
    (after : List Char) :
    cutAt? (m :: marker) (before ++ (m :: marker ++ after)) = some (before, after) := by
  induction before with
  | nil =>
      have first : dropMarker? (m :: marker) (m :: (marker ++ after)) = some after :=
        dropMarker?_eq_some_iff.mpr rfl
      rw [List.nil_append, List.cons_append, cutAt?, first]
  | cons c rest inductionHypothesis =>
      rw [List.infix_cons_iff, not_or] at absent
      have later : dropMarker? (m :: marker) (c :: (rest ++ (m :: marker ++ after))) = none := by
        rw [Option.eq_none_iff_forall_ne_some]
        intro tail found
        have written : c = m ∧ rest ++ (m :: marker ++ after) = marker ++ tail :=
          List.cons.inj (dropMarker?_eq_some_iff.mp found)
        obtain ⟨between, short, long⟩ | ⟨between, long, -⟩ :=
          List.append_eq_append_iff.mp written.2
        · cases between with
          | nil =>
              rw [List.append_nil] at short
              rw [written.1, short] at absent
              exact absent.1 List.prefix_rfl
          | cons b between =>
              rw [List.cons_append, List.cons_append, List.cons.injEq] at long
              exact solid (by rw [short, long.1]; exact List.mem_append_right _ List.mem_cons_self)
        · exact absent.1 ⟨between, by rw [written.1, long, List.cons_append]⟩
      rw [List.cons_append, cutAt?, later, inductionHypothesis absent.2, Option.map_some]

end Text
end FuzzIntake
