import FuzzIntake.Proofs.Lane.Accounting
import Mathlib.Data.List.Induction

/-!
# Moments of a run

A run of a pool is one occasion after another, and at each of them something may be told.  What
holds at the beginning and is kept by every moment of a run holds at its end, for what has been
told until then as well.
-/

namespace FuzzIntake
namespace Warehouse

/-- A moment of a run: an occasion of the run, and the warehouse before and after it. -/
structure IsMoment (first : Warehouse) (occasions before : List Occasion) (register : Register)
    (here : Warehouse) (occasion : Occasion) (note : Register) (next : Warehouse) : Prop where
  within : before ++ [occasion] <+: occasions
  followed : first.follow? before = some (register, here)
  met : here.meet? occasion = some (note, next)

/-- What is told of the occasions of a run, in order. -/
def chronicle {α : Type} (told : Warehouse → Occasion → List α) (warehouse : Warehouse) :
    List Occasion → List α
  | [] => []
  | occasion :: rest =>
      told warehouse occasion ++
        ((warehouse.meet? occasion).map fun reached => reached.2.chronicle told rest).getD []

variable {first warehouse here next last : Warehouse} {occasion : Occasion}
  {occasions before : List Occasion} {register note : Register}

/-- A moment of a run is a moment of every longer run. -/
theorem IsMoment.extend
    {longer : List Occasion}
    (moment : IsMoment first occasions before register here occasion note next)
    (within : occasions <+: longer) :
    IsMoment first longer before register here occasion note next :=
  ⟨moment.within.trans within, moment.followed, moment.met⟩

theorem IsMoment.before_subset
    (moment : IsMoment first occasions before register here occasion note next) :
    before ⊆ occasions :=
  fun _ present => moment.within.subset (List.mem_append_left _ present)

theorem IsMoment.mem
    (moment : IsMoment first occasions before register here occasion note next) :
    occasion ∈ occasions :=
  moment.within.subset (List.mem_append_right _ (List.mem_singleton_self _))

/-- What holds of a pool at the end of a run without crashes holds at its every moment. -/
theorem IsMoment.isKept
    {workers capacity : Nat}
    {shared : Bool}
    {retry : RetrySchedule}
    (moment : IsMoment (new workers shared retry capacity) occasions before register here
      occasion note next)
    (staffed : 0 < workers)
    (harmless : ∀ occasion ∈ occasions, ¬ occasion.IsCrash) :
    here.IsKept workers capacity register :=
  isKept_of_follow? staffed (fun _ present => harmless _ (moment.before_subset present))
    moment.followed

/-- A run goes on with one more occasion. -/
theorem follow?_concat
    {first : Warehouse}
    (followed : first.follow? occasions = some (register, warehouse))
    (met : warehouse.meet? occasion = some (note, next)) :
    first.follow? (occasions ++ [occasion]) = some (register ++ note, next) := by
  induction occasions generalizing first register with
  | nil =>
      obtain ⟨rfl, rfl⟩ := Prod.mk.inj (Option.some.inj followed)
      rw [List.nil_append, follow?, met, Option.bind_some]
      exact congrArg (fun register => some (register, next)) (Register.append_empty note)
  | cons other rest inductionHypothesis =>
      obtain ⟨⟨begun, second⟩, metFirst, remains⟩ := Option.bind_eq_some_iff.mp followed
      obtain ⟨⟨later, reached⟩, followedOn, same⟩ := Option.map_eq_some_iff.mp remains
      obtain ⟨rfl, rfl⟩ := Prod.mk.inj same
      rw [List.cons_append, follow?, metFirst, Option.bind_some]
      simp only [inductionHypothesis followedOn, Option.map_some, Register.append_assoc]

/-- A run that has come to an occasion has the occasion last. -/
theorem exists_of_follow?_concat
    {first : Warehouse}
    (followed : first.follow? (occasions ++ [occasion]) = some (register, last)) :
    ∃ earlier here note, first.follow? occasions = some (earlier, here) ∧
      here.meet? occasion = some (note, last) ∧ register = earlier ++ note := by
  obtain ⟨earlier, here, note, next, through, met⟩ := exists_meet?_of_follow? followed
  have same := (follow?_concat through met).symm.trans followed
  obtain ⟨rfl, rfl⟩ := Prod.mk.inj (Option.some.inj same)
  exact ⟨earlier, here, note, through, met, rfl⟩

/-- What one more occasion tells comes last. -/
theorem chronicle_concat
    {α : Type}
    (told : Warehouse → Occasion → List α)
    (followed : first.follow? occasions = some (register, warehouse))
    (occasion : Occasion) :
    first.chronicle told (occasions ++ [occasion]) =
      first.chronicle told occasions ++ told warehouse occasion := by
  induction occasions generalizing first register with
  | nil =>
      obtain ⟨rfl, rfl⟩ := Prod.mk.inj (Option.some.inj followed)
      change first.chronicle told [occasion] = told first occasion
      rw [chronicle]
      cases first.meet? occasion with
      | none => exact List.append_nil _
      | some reached => exact List.append_nil _
  | cons other rest inductionHypothesis =>
      obtain ⟨⟨begun, second⟩, met, remains⟩ := Option.bind_eq_some_iff.mp followed
      obtain ⟨⟨later, reached⟩, followedOn, same⟩ := Option.map_eq_some_iff.mp remains
      obtain ⟨rfl, rfl⟩ := Prod.mk.inj same
      rw [List.cons_append, chronicle, chronicle, met, Option.map_some, Option.map_some,
        Option.getD_some, Option.getD_some, inductionHypothesis followedOn, List.append_assoc]

/-- What every moment of a run keeps, with the occasions before it, holds after the run.  A moment
speaks of the occasions before it, so the induction takes occasions off the end. -/
theorem follow?_induction_moments
    (holds : List Occasion → Register → Warehouse → Prop)
    (step : ∀ {before register here occasion note next},
      IsMoment first occasions before register here occasion note next →
      holds before register here → holds (before ++ [occasion]) (register ++ note) next)
    (start : holds [] .empty first)
    (followed : first.follow? occasions = some (register, last)) :
    holds occasions register last := by
  induction occasions using List.reverseRecOn generalizing register last with
  | nil =>
      obtain ⟨rfl, rfl⟩ := Prod.mk.inj (Option.some.inj followed)
      exact start
  | append_singleton before occasion inductionHypothesis =>
      obtain ⟨earlier, here, note, through, met, rfl⟩ := exists_of_follow?_concat followed
      refine step ⟨List.prefix_rfl, through, met⟩ (inductionHypothesis ?_ through)
      exact fun moment held => step (moment.extend (List.prefix_append _ _)) held

end Warehouse
end FuzzIntake
