import FuzzIntake.Store.Switched
import FuzzIntake.Proofs.Store.Regrouping

/-!
# Batches are written whole or not at all

A store in memory that refuses a batch keeps its rows, so after any answers its rows are those
that the batches written leave one after another.
-/

namespace FuzzIntake

/-- The rows after a batch has been written. -/
def Tables.applyBatch (tables : Tables) (batch : Batch) : Tables :=
  tables.applyPlan (Plan.ofOperations batch.operations)

theorem Tables.applyBatch_of_isEmpty
    {batch : Batch}
    (rowless : (Plan.ofOperations batch.operations).isEmpty = true)
    (tables : Tables) :
    tables.applyBatch batch = tables := by
  rw [applyBatch]
  generalize Plan.ofOperations batch.operations = plan at rowless ⊢
  simp_all [Plan.isEmpty, Tables.applyPlan_eq, Tables.addFuzzers]

/-- A store applies a plan whole or not at all. -/
theorem LocalStore.tables_apply (plan : Plan) (store : LocalStore) :
    (store.apply plan).2.tables =
      if (store.apply plan).1.isOk then store.tables.applyPlan plan else store.tables := by
  rw [apply]
  split
  · rfl
  · cases failing : failingGroup? { store with plansTaken := store.plansTaken + 1 } plan with
    | some group =>
        simp only [failing]
        rfl
    | none =>
        simp only [failing]
        rfl

/-- Writing a batch changes the rows of a store only if it succeeds. -/
theorem Batch.tables_writeTo
    (batch : Batch)
    (worker : Nat)
    (store : SwitchedStore) :
    (batch.writeTo worker store).2.store.tables =
      if (batch.writeTo worker store).1.isOk then
        store.store.tables.applyBatch batch
      else
        store.store.tables := by
  cases rowless : (Plan.ofOperations batch.operations).isEmpty with
  | true =>
      rw [Tables.applyBatch_of_isEmpty rowless, ite_self]
      simp only [writeTo, rowless, if_true]
  | false =>
      have applied := store.store.tables_apply (Plan.ofOperations batch.operations)
      simp only [writeTo, rowless, Bool.false_eq_true, if_false]
      change (store.store.apply _).2.tables = if (Except.mapError _ (store.store.apply _).1).isOk
        then _ else _
      rw [applied]
      cases (store.store.apply (Plan.ofOperations batch.operations)).1 with
      | ok receipt => rfl
      | error error => rfl

/-- A ready store writes every batch, one after another. -/
theorem Batch.writeAll_of_isReady
    {store : LocalStore}
    (ready : store.IsReady)
    (worker : Nat)
    (batches : List Batch) :
    (∀ result ∈ (writeAll worker batches store).1, ∃ receipt, result = .ok receipt) ∧
      (writeAll worker batches store).2.tables =
        batches.foldl Tables.applyBatch store.tables := by
  induction batches generalizing store with
  | nil => exact ⟨(fun _ present => nomatch present), rfl⟩
  | cons batch rest inductionHypothesis =>
      obtain ⟨receipt, after, written, -, stored, afterReady⟩ :=
        writeTo_of_isReady ready worker batch
      obtain ⟨restSucceed, restStored⟩ := inductionHypothesis afterReady
      simp only [writeAll, written]
      refine ⟨?_, ?_⟩
      · intro result present
        rcases List.mem_cons.mp present with rfl | inRest
        · exact ⟨receipt, rfl⟩
        · exact restSucceed result inRest
      · rw [restStored, stored, List.foldl_cons]
        rfl

end FuzzIntake
