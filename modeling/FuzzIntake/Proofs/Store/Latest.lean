import FuzzIntake.Store.Latest
import Mathlib.Data.List.Basic
import Mathlib.Data.List.Nodup

/-!
# What is kept of every key

Of the rows with one key the last one is kept, and only that one, in the order in which the keys
first occur.  The places of a selection are those of its rows at every moment, so a row is put
over the kept row of its own key and over no other.  To look for a key among the kept rows, from
either end, is to look for it among all rows from their end.
-/

namespace FuzzIntake
namespace Latest

variable {α κ : Type} [DecidableEq κ] {key : α → κ} {all kept : List α}

/-- The last row of every key, in the order in which the keys first occur. -/
structure IsLatest (key : α → κ) (all kept : List α) : Prop where
  /-- No key is kept twice. -/
  distinct : (kept.map key).Nodup
  /-- The keys that are kept are those of all rows. -/
  keys : ∀ wanted, wanted ∈ kept.map key ↔ wanted ∈ all.map key
  /-- A key that is kept in front of another one occurs first. -/
  order : (kept.map key).Pairwise fun earlier later =>
    (all.map key).idxOf earlier < (all.map key).idxOf later
  /-- Behind a kept row there is no row with its key. -/
  latest : ∀ row ∈ kept, ∃ before after, all = before ++ row :: after ∧ key row ∉ after.map key

/-! ## One more row -/

/-- A selection from some rows, each of them under the place that is noted for its key. -/
structure Selection.IsOf (key : α → κ) (all : List α) (selection : Selection α κ) : Prop where
  /-- The place noted for a key is the one where a row with this key is kept. -/
  placed : ∀ wanted place, selection.places.lookup wanted = some place ↔
    (selection.rows.map key)[place]? = some wanted
  isLatest : IsLatest key all selection.rows

variable {selection : Selection α κ} {row : α}

/-- The place of a key is noted exactly if a row with this key is kept. -/
theorem Selection.IsOf.lookup_eq_none_iff
    (selected : selection.IsOf key all)
    (wanted : κ) :
    selection.places.lookup wanted = none ↔ wanted ∉ selection.rows.map key := by
  rw [List.mem_iff_getElem?, not_exists, Option.eq_none_iff_forall_ne_some]
  exact forall_congr' fun place => not_congr (selected.placed wanted place)

/-- The keys that are kept stay in the order of their first occurrences when a row is added. -/
theorem IsLatest.order_concat
    (latest : IsLatest key all kept)
    (row : α) :
    (kept.map key).Pairwise fun earlier later =>
      ((all ++ [row]).map key).idxOf earlier < ((all ++ [row]).map key).idxOf later := by
  refine latest.order.imp_of_mem fun {earlier later} former latter before => ?_
  rwa [List.map_append, List.idxOf_append_of_mem ((latest.keys _).mp former),
    List.idxOf_append_of_mem ((latest.keys _).mp latter)]

/-- A kept row is still the last one of its key when a row with another key is added. -/
theorem IsLatest.latest_concat
    (latest : IsLatest key all kept)
    {held : α}
    (present : held ∈ kept)
    (other : key held ≠ key row) :
    ∃ before after, all ++ [row] = before ++ held :: after ∧ key held ∉ after.map key := by
  obtain ⟨before, after, rfl, absent⟩ := latest.latest held present
  refine ⟨before, after ++ [row], by simp, ?_⟩
  rw [List.map_append, List.mem_append, not_or]
  exact ⟨absent, by simpa using other⟩

/-- A row with a new key is the first and the last one of this key. -/
theorem IsLatest.concat
    (latest : IsLatest key all kept)
    (fresh : key row ∉ kept.map key) :
    IsLatest key (all ++ [row]) (kept ++ [row]) := by
  have unseen : key row ∉ all.map key := fun present => fresh ((latest.keys _).mpr present)
  have keys : (kept ++ [row]).map key = kept.map key ++ [key row] := List.map_append
  constructor
  · rw [keys, List.nodup_append]
    refine ⟨latest.distinct, List.nodup_singleton _, ?_⟩
    rintro wanted present _ isNew rfl
    exact fresh (List.mem_singleton.mp isNew ▸ present)
  · intro wanted
    rw [keys, List.map_append, List.mem_append, List.mem_append, latest.keys]
    rfl
  · rw [keys, List.pairwise_append]
    refine ⟨latest.order_concat row, List.pairwise_singleton _ _, ?_⟩
    intro wanted present last isNew
    obtain rfl := List.mem_singleton.mp isNew
    have seen := (latest.keys wanted).mp present
    rw [List.map_append, List.idxOf_append_of_mem seen, List.idxOf_append_of_notMem unseen]
    exact Nat.lt_add_right _ (List.idxOf_lt_length_iff.mpr seen)
  · intro held present
    rcases List.mem_append.mp present with old | isNew
    · exact latest.latest_concat old fun same => fresh (same ▸ List.mem_map_of_mem old)
    · rw [List.mem_singleton.mp isNew]
      exact ⟨all, [], rfl, List.not_mem_nil⟩

/-- A row takes the place of the kept row with its key, which then is no longer the last one.  Only
the place noted for a key holds a row with this key, so the other rows still are. -/
theorem Selection.IsOf.isLatest_set
    {place : Nat}
    (selected : selection.IsOf key all)
    (noted : selection.places.lookup (key row) = some place) :
    (selection.rows.set place row).map key = selection.rows.map key ∧
      IsLatest key (all ++ [row]) (selection.rows.set place row) := by
  have standing := (selected.placed _ _).mp noted
  have sameKeys : (selection.rows.set place row).map key = selection.rows.map key := by
    obtain ⟨inside, own⟩ := List.getElem?_eq_some_iff.mp standing
    rw [List.map_set, ← own, List.set_getElem_self]
  have present : key row ∈ selection.rows.map key := List.mem_of_getElem? standing
  refine ⟨sameKeys, ?_, ?_, ?_, ?_⟩
  · rw [sameKeys]
    exact selected.isLatest.distinct
  · intro wanted
    rw [sameKeys, selected.isLatest.keys, List.map_append, List.mem_append]
    refine ⟨.inl, fun seen => seen.elim id fun isNew => ?_⟩
    rw [List.mem_singleton.mp isNew]
    exact (selected.isLatest.keys _).mp present
  · rw [sameKeys]
    exact selected.isLatest.order_concat row
  · intro held kept
    obtain ⟨other, found⟩ := List.mem_iff_getElem?.mp kept
    rw [List.getElem?_set] at found
    split at found
    · obtain ⟨-, found⟩ := Option.ite_none_right_eq_some.mp found
      rw [← Option.some.inj found]
      exact ⟨all, [], rfl, List.not_mem_nil⟩
    · next elsewhere =>
        refine selected.isLatest.latest_concat (List.mem_of_getElem? found) fun same => ?_
        have standsElsewhere : (selection.rows.map key)[other]? = some (key row) := by
          rw [List.getElem?_map, found, ← same]
          rfl
        have notedElsewhere := (selected.placed _ _).mpr standsElsewhere
        exact elsewhere (Option.some.inj (noted.symm.trans notedElsewhere))

/-- A new key is noted with the place behind the kept rows, and the others stay where they are. -/
theorem Selection.IsOf.placed_concat
    (selected : selection.IsOf key all)
    (fresh : key row ∉ selection.rows.map key)
    (wanted : κ)
    (place : Nat) :
    List.lookup wanted ((key row, selection.rows.length) :: selection.places) = some place ↔
      ((selection.rows ++ [row]).map key)[place]? = some wanted := by
  have keys : (selection.rows ++ [row]).map key = selection.rows.map key ++ [key row] :=
    List.map_append
  have length : (selection.rows.map key).length = selection.rows.length := List.length_map _
  rw [keys]
  by_cases isNew : wanted = key row
  · subst isNew
    rw [List.lookup_cons_self]
    grind
  · have before := selected.placed wanted place
    rw [List.lookup_cons, beq_eq_false_iff_ne.mpr isNew]
    grind

/-- One more row is kept. -/
theorem Selection.IsOf.keep
    (selected : selection.IsOf key all)
    (row : α) :
    (selection.keep key row).IsOf key (all ++ [row]) := by
  rw [Selection.keep.eq_def]
  cases noted : selection.places.lookup (key row) with
  | some place =>
      obtain ⟨sameKeys, latest⟩ := selected.isLatest_set noted
      refine ⟨fun wanted other => ?_, latest⟩
      rw [sameKeys]
      exact selected.placed wanted other
  | none =>
      have fresh := (selected.lookup_eq_none_iff _).mp noted
      exact ⟨selected.placed_concat fresh, selected.isLatest.concat fresh⟩

/-! ## All rows -/

/-- Of no rows none is selected. -/
theorem isOf_empty : Selection.empty.IsOf key [] where
  placed _ _ := by simp [Selection.empty]
  isLatest :=
    { distinct := List.nodup_nil
      keys := fun _ => Iff.rfl
      order := .nil
      latest := fun _ present => nomatch present }

/-- What is selected from rows one after another is selected from all of them. -/
theorem Selection.IsOf.foldl
    {earlier : List α}
    (selected : selection.IsOf key earlier)
    (later : List α) :
    (later.foldl (Selection.keep key) selection).IsOf key (earlier ++ later) := by
  induction later generalizing selection earlier with
  | nil => rwa [List.append_nil]
  | cons row rest inductionHypothesis =>
      rw [List.append_cons]
      exact inductionHypothesis (selected.keep row)

/-- The kept rows are the latest ones. -/
theorem isLatest_rows (key : α → κ) (all : List α) : IsLatest key all (rows key all) :=
  (isOf_empty.foldl all).isLatest

/-- The last of all rows with the key of a kept row is the kept row. -/
theorem IsLatest.find?_reverse
    (latest : IsLatest key all kept)
    {row : α}
    (present : row ∈ kept) :
    all.reverse.find? (fun held => key held = key row) = some row := by
  obtain ⟨before, after, rfl, absent⟩ := latest.latest row present
  rw [List.find?_eq_some_iff_append]
  refine ⟨by simp, after.reverse, before.reverse, by simp, fun held behind => ?_⟩
  rw [Bool.not_eq_true', decide_eq_false_iff_not]
  rintro same
  exact absent (same ▸ List.mem_map_of_mem (List.mem_reverse.mp behind))

/-- To look for a key among the kept rows, in any order, is to look for the last row with it. -/
theorem IsLatest.find?_eq
    (latest : IsLatest key all kept)
    {arranged : List α}
    (same : ∀ row, row ∈ arranged ↔ row ∈ kept)
    (wanted : κ) :
    arranged.find? (fun held => key held = wanted) =
      all.reverse.find? fun held => key held = wanted := by
  cases found : arranged.find? fun held => key held = wanted with
  | some row =>
      have own : key row = wanted := by simpa using List.find?_some found
      subst own
      exact (latest.find?_reverse ((same row).mp (List.mem_of_find?_eq_some found))).symm
  | none =>
      have absent : wanted ∉ kept.map key := by
        intro present
        obtain ⟨row, held, own⟩ := List.mem_map.mp present
        exact List.find?_eq_none.mp found row ((same row).mpr held) (by simpa using own)
      symm
      rw [List.find?_eq_none]
      intro row present own
      rw [decide_eq_true_eq] at own
      rw [latest.keys] at absent
      exact absent (own ▸ List.mem_map_of_mem (List.mem_reverse.mp present))

/-- The row kept of a key is the last one with that key. -/
theorem find?_rows (all : List α) (wanted : κ) :
    (rows key all).find? (fun held => key held = wanted) =
      all.reverse.find? fun held => key held = wanted :=
  (isLatest_rows key all).find?_eq (fun _ => Iff.rfl) wanted

/-- No key is kept twice. -/
theorem nodup_map_rows (all : List α) : ((rows key all).map key).Nodup :=
  (isLatest_rows key all).distinct

/-- The last row kept of a key is the last one with that key, since only one is kept. -/
theorem find?_reverse_rows (all : List α) (wanted : κ) :
    (rows key all).reverse.find? (fun held => key held = wanted) =
      all.reverse.find? fun held => key held = wanted :=
  (isLatest_rows key all).find?_eq (fun _ => List.mem_reverse) wanted

/-! ## Nothing else is the latest -/

/-- The keys of the latest rows are determined by all rows. -/
theorem IsLatest.map_key_eq
    {others : List α}
    (latest : IsLatest key all kept)
    (alike : IsLatest key all others) :
    kept.map key = others.map key := by
  refine List.Perm.eq_of_pairwise (fun _ _ _ _ before after => ?_) latest.order alike.order ?_
  · exact absurd before (Nat.lt_asymm after)
  · rw [List.perm_ext_iff_of_nodup latest.distinct alike.distinct]
    exact fun wanted => (latest.keys wanted).trans (alike.keys wanted).symm

/-- Every latest row is found under its key. -/
theorem IsLatest.map_some (latest : IsLatest key all kept) :
    kept.map some =
      (kept.map key).map fun wanted => all.reverse.find? fun held => key held = wanted := by
  rw [List.map_map]
  exact List.map_congr_left fun row present => (latest.find?_reverse present).symm

/-- The latest rows are determined by all rows. -/
theorem IsLatest.unique
    {others : List α}
    (latest : IsLatest key all kept)
    (alike : IsLatest key all others) :
    kept = others := by
  apply (List.map_inj_right fun _ _ => Option.some.inj).mp
  rw [latest.map_some, alike.map_some, latest.map_key_eq alike]

/-- Rows of which no two have the same key are the latest ones. -/
theorem isLatest_self (distinct : (all.map key).Nodup) : IsLatest key all all where
  distinct := distinct
  keys _ := Iff.rfl
  order := by
    rw [List.pairwise_iff_getElem]
    intro first second inside within before
    rwa [distinct.idxOf_getElem, distinct.idxOf_getElem]
  latest row present := by
    obtain ⟨before, after, rfl⟩ := List.append_of_mem present
    rw [List.map_append, List.map_cons] at distinct
    exact ⟨before, after, rfl, (List.nodup_cons.mp (List.nodup_append.mp distinct).2.1).1⟩

/-- Rows of which no two have the same key are all kept, as they are. -/
theorem rows_eq_self (distinct : (all.map key).Nodup) : rows key all = all :=
  (isLatest_rows key all).unique (isLatest_self distinct)

/-- The rows that are kept are the last row of every key, in the order in which the keys first
occur, and no other rows are that.  So nothing changes when they are selected again, and all rows
are kept exactly if no two have the same key. -/
theorem selects_last_of_every_key (key : α → κ) (all : List α) :
    (∀ kept, IsLatest key all kept ↔ kept = rows key all) ∧
      rows key (rows key all) = rows key all ∧
      (rows key all = all ↔ (all.map key).Nodup) := by
  refine ⟨fun kept => ⟨fun latest => ?_, ?_⟩, ?_, ⟨fun unchanged => ?_, rows_eq_self⟩⟩
  · exact latest.unique (isLatest_rows key all)
  · rintro rfl
    exact isLatest_rows key all
  · exact rows_eq_self (nodup_map_rows all)
  · rw [← unchanged]
    exact nodup_map_rows all

example : rows Prod.fst [("a", 1), ("b", 2), ("a", 3)] = [("a", 3), ("b", 2)] := by decide

end Latest
end FuzzIntake
