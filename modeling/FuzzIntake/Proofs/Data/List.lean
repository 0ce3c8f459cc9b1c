import Mathlib.Algebra.BigOperators.Group.List.Basic
import Mathlib.Algebra.GroupWithZero.Nat
import Mathlib.Data.List.Basic
import Mathlib.Data.List.DropRight
import Mathlib.Data.List.Perm.Basic

/-!
# Lists that are folded, sorted out and changed at one place

Facts about lists of any items: folds past a change or a part that they leave alone, look-ups in
collected pairs, lists sorted out by places, sums in which one item is replaced, and what one item
more adds at the end.
-/

namespace List

/-- Folding over items commutes with a change that commutes with each of them. -/
theorem foldl_of_commutes
    {σ ρ : Type}
    {write : σ → ρ → σ}
    {items : List ρ}
    (change : σ → σ)
    (commutes : ∀ item ∈ items, ∀ state, write (change state) item = change (write state item))
    (state : σ) :
    items.foldl write (change state) = change (items.foldl write state) := by
  apply foldl_rel (r := fun changed kept => changed = change kept) rfl
  rintro item present changed kept rfl
  exact commutes item present kept

/-- Folding over items leaves a part of the state alone that each of them leaves alone. -/
theorem foldl_of_keeps
    {σ ρ α : Type}
    {write : σ → ρ → σ}
    {part : σ → α}
    (keeps : ∀ state item, part (write state item) = part state)
    (items : List ρ)
    (state : σ) :
    part (items.foldl write state) = part state := by
  induction items generalizing state with
  | nil => rfl
  | cons item rest inductionHypothesis => rw [foldl_cons, inductionHypothesis, keeps]

/-- A key is found among collected pairs if it was to be collected and had a value. -/
theorem lookup_filterMap_value
    {κ α : Type} [BEq κ] [LawfulBEq κ]
    (keys : List κ)
    (value? : κ → Option α)
    (key : κ) :
    (keys.filterMap fun other => (value? other).map (other, ·)).lookup key =
      if key ∈ keys then value? key else none := by
  induction keys with
  | nil => rfl
  | cons other rest inductionHypothesis =>
      by_cases same : key = other
      · subst same
        cases found : value? key with
        | none => simp [found, inductionHypothesis]
        | some value => simp [found]
      · cases found : value? other with
        | none => simp [found, inductionHypothesis, same]
        | some value =>
            have differs : (key == other) = false := beq_eq_false_iff_ne.mpr same
            simp [found, inductionHypothesis, same, lookup_cons, differs]

/-- Things that are all at one place are all or none of those at a place. -/
theorem filter_place
    {α : Type}
    {items : List α}
    {place : α → Nat}
    {index : Nat}
    (together : ∀ item ∈ items, place item = index)
    (other : Nat) :
    (items.filter fun item => place item == other) = if index = other then items else [] := by
  split
  · next same =>
      rw [filter_eq_self]
      intro item present
      rw [together item present, beq_iff_eq, same]
  · next different =>
      rw [filter_eq_nil_iff]
      intro item present
      rwa [together item present, beq_iff_eq]

/-- Things at the first places are the same as the things at each of these places. -/
theorem perm_flatMap_filter {α : Type} (place : α → Nat) (items : List α) (count : Nat) :
    (items.filter fun item => place item < count).Perm
      ((range count).flatMap fun index => items.filter fun item => place item == index) := by
  induction count with
  | zero => simp
  | succ count inductionHypothesis =>
      have parts := filter_append_perm (fun item => decide (place item < count))
        (items.filter fun item => place item < count + 1)
      have before : (fun item => decide (place item < count) && decide (place item < count + 1)) =
          fun item => decide (place item < count) := by
        funext item
        rw [Bool.eq_iff_iff, Bool.and_eq_true, decide_eq_true_eq, decide_eq_true_eq]
        omega
      have last : (fun item =>
            (!decide (place item < count)) && decide (place item < count + 1)) =
          fun item => place item == count := by
        funext item
        rw [Bool.eq_iff_iff, Bool.and_eq_true, Bool.not_eq_true', decide_eq_false_iff_not,
          decide_eq_true_eq, beq_iff_eq]
        omega
      rw [filter_filter, filter_filter, before, last] at parts
      rw [range_succ, flatMap_append, flatMap_singleton]
      exact parts.symm.trans (inductionHypothesis.append_right _)

/-- Things are the same as the things at each of their places. -/
theorem perm_flatMap_of_forall_lt
    {α : Type}
    {items : List α}
    {place : α → Nat}
    {count : Nat}
    (within : ∀ item ∈ items, place item < count) :
    items.Perm
      ((range count).flatMap fun index => items.filter fun item => place item == index) := by
  have parts := perm_flatMap_filter place items count
  rwa [filter_eq_self.mpr fun item present => decide_eq_true (within item present)] at parts

/-- What one item more or less adds to a sum. -/
theorem sum_map_set
    {α : Type}
    (size : α → Nat)
    {items : List α}
    {index : Nat}
    {item : α}
    (found : items[index]? = some item)
    (later : α) :
    ((items.set index later).map size).sum + size item = (items.map size).sum + size later := by
  obtain ⟨inside, rfl⟩ := getElem?_eq_some_iff.mp found
  have placed : index < (items.map size).length := by rwa [length_map]
  have afterwards := sum_set (items.map size) index (size later)
  have beforehand := sum_set (items.map size) index (size items[index])
  rw [← map_set, if_pos placed] at afterwards
  rw [← map_set, set_getElem_self, if_pos placed] at beforehand
  omega

/-- An item repeated one time less, and then once more, is repeated as often. -/
theorem replicate_pred_append
    {α : Type}
    {number : Nat}
    (positive : 1 ≤ number)
    (item : α) :
    replicate (number - 1) item ++ [item] = replicate number item := by
  rw [← replicate_succ', Nat.sub_add_cancel positive]

theorem countP_concat {α : Type} (wanted : α → Bool) (items : List α) (item : α) :
    (items ++ [item]).countP wanted = items.countP wanted + (wanted item).toNat := by
  rw [countP_append, countP_singleton]
  cases wanted item <;> rfl

/-- The last items that fit once one more is added are the last ones of those before, and the new
one. -/
theorem rtake_concat
    {α : Type}
    {items : List α}
    {limit : Nat}
    (item : α)
    (roomy : 0 < limit) :
    (items ++ [item]).rtake (min limit (items.length + 1)) =
      (items.rtake (min limit items.length)).drop (min limit items.length + 1 - limit) ++
        [item] := by
  have room : min limit (items.length + 1) = min (limit - 1) items.length + 1 := by omega
  rw [room, rtake_concat_succ, rtake, rtake, drop_drop]
  congr 2
  omega

end List
