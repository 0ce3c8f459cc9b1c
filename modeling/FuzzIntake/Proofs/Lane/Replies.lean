import FuzzIntake.Proofs.Lane.Effect
import FuzzIntake.Proofs.Lane.Moments

/-!
# What the stores are asked

A lane asks its store to write a batch, and so does the first worker with what is left over when
the pool is shut down.  Unless a store is changed from outside, nothing else that happens in a
pool touches it, but for the end, when every store is closed.
-/

namespace FuzzIntake
namespace Warehouse

/-- The answers of the stores on an occasion, to a lane or to the last batch. -/
def replies (warehouse : Warehouse) : Occasion → List Attempt
  | .event (.act now .settle) =>
      match warehouse.closing, warehouse.store? 0 with
      | .draining leftover due, some store =>
          if due ≤ now then [⟨0, ⟨leftover⟩, (Batch.writeTo ⟨leftover⟩ 0 store).1.isOk⟩] else []
      | _, _ => []
  | .event event => warehouse.attempts event
  | .call _ => []

/-- A store that is changed from outside. -/
def Occasion.IsOutside : Occasion → Prop
  | .event (.touchStore _ _) => True
  | .event (.delayStore _ _) => True
  | .event (.crashStore _ _) => True
  | _ => False

/-- The stores after the store of a worker was asked to write a batch. -/
def visit (warehouse : Warehouse) (stores : List SwitchedStore) (attempt : Attempt) :
    List SwitchedStore :=
  stores.modify (warehouse.storeOf attempt.worker) fun store =>
    (attempt.batch.writeTo attempt.worker store).2

/-- The stores have answered, and nothing else has become of them unless they were closed. -/
inductive Visits (warehouse : Warehouse) (occasion : Occasion) (next : Warehouse) : Prop
  | ask :
      next.stores = (warehouse.replies occasion).foldl warehouse.visit warehouse.stores →
      Visits warehouse occasion next
  | close :
      warehouse.isOver = false → next.isOver = true →
      next.stores =
        ((warehouse.replies occasion).foldl warehouse.visit warehouse.stores).map
          PlanStore.close →
      Visits warehouse occasion next

variable {warehouse next : Warehouse} {occasion : Occasion} {note : Register}

/-- A store that was asked to write a batch is put back as it is after that. -/
theorem setStore_writeTo
    {worker : Nat}
    {store : SwitchedStore}
    (found : warehouse.store? worker = some store)
    (batch : Batch)
    (succeeded : Bool) :
    (warehouse.setStore worker (batch.writeTo worker store).2).stores =
      warehouse.visit warehouse.stores ⟨worker, batch, succeeded⟩ := by
  unfold store? at found
  rw [setStore, visit, List.modify_eq_set_getElem?, found]
  rfl

/-- Handing over what is left over asks no store, and closes them if nothing is left over. -/
theorem visits_of_drain?
    {now : Instant}
    (calm : warehouse.IsCalm)
    (drained : warehouse.drain? now = some next) :
    Visits warehouse (.event (.act now .drain)) next := by
  have ongoing : ∀ {leftover}, warehouse.closing = .awaiting leftover →
      warehouse.isOver = false := by
    intro leftover awaiting
    rw [isOver, awaiting]
  cases drain_of_drain? drained with
  | nothing awaiting _ | drop awaiting _ _ _ => exact .close (ongoing awaiting) rfl rfl
  | crash _ _ _ found crashes => exact absurd (calm.crashes_eq found) (Nat.ne_of_gt crashes)
  | hand _ _ _ _ _ => exact .ask rfl

/-- The first worker writes what is left over, and then every store is closed. -/
theorem visits_of_settle?
    {now : Instant}
    (settled : warehouse.settle? now = some next) :
    Visits warehouse (.event (.act now .settle)) next := by
  have replied : ∀ {leftover due store after}, warehouse.closing = .draining leftover due →
      due ≤ now → warehouse.store? 0 = some store →
      (Batch.writeTo ⟨leftover⟩ 0 store).2 = after →
      (warehouse.setStore 0 after).stores =
        (warehouse.replies (.event (.act now .settle))).foldl warehouse.visit
          warehouse.stores := by
    intro leftover due store after draining passed found answered
    simp only [replies, draining, found, passed, if_true, List.foldl_cons, List.foldl_nil]
    rw [← answered]
    exact setStore_writeTo found ⟨leftover⟩ _
  cases settle_of_settle? settled with
  | write draining passed found answered | drop draining passed found answered =>
      refine .close (by rw [isOver, draining]) rfl ?_
      rw [← replied draining passed found (congrArg Prod.snd answered)]
      rfl

/-- The stores are asked by lanes and by the first worker alone, and change by nothing else. -/
theorem visits_of_meet?
    (calm : warehouse.IsCalm)
    (inside : ¬ occasion.IsOutside)
    (met : warehouse.meet? occasion = some (note, next)) :
    Visits warehouse occasion next := by
  cases meeting_of_meet? met with
  | @event event _ noRoute happened =>
      cases event with
      | act now action =>
          cases action with
          | start lane =>
              obtain ⟨store, pool, -, -, rfl⟩ := calm.exists_of_start? happened
              exact .ask rfl
          | finish lane =>
              obtain ⟨store, batch, number, pool, found, answering, -, rfl⟩ :=
                exists_of_finish? happened
              refine .ask ?_
              simp only [replies, attempts, found, answering, List.foldl_cons, List.foldl_nil]
              exact setStore_writeTo found batch _
          | abandon lane =>
              obtain ⟨pool, -, rfl⟩ := Option.map_eq_some_iff.mp happened
              exact .ask rfl
          | drain => exact visits_of_drain? calm happened
          | settle => exact visits_of_settle? happened
      | route batch => exact absurd rfl (noRoute batch)
      | shutdown leftover =>
          obtain ⟨-, rfl⟩ := happen?_shutdown_eq_some_iff.mp happened
          exact .ask rfl
      | cancel => exact .ask (Option.some.inj happened ▸ rfl)
      | touchStore _ _ | delayStore _ _ | crashStore _ _ => exact absurd trivial inside
  | accepted happened =>
      obtain ⟨-, pool, -, rfl⟩ := happen?_route_eq_some_iff.mp happened
      exact .ask rfl
  | returned _ _ => exact .ask rfl

end Warehouse
end FuzzIntake
