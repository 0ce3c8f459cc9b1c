import FuzzIntake.Batch
import FuzzIntake.Store

/-!
# Writing batches

A worker writes a batch to its store as one plan.  A batch without operations
never reaches the store.
-/

namespace FuzzIntake

/-- A batch that a worker could not write. -/
structure BatchFailure where
  /-- The number of the worker. -/
  worker : Nat
  /-- The number of operations in the batch. -/
  size : Nat
  /-- What the store said. -/
  source : StoreError
deriving DecidableEq, Repr

/-- The wording of a failure. -/
def BatchFailure.message (failure : BatchFailure) : String :=
  "worker " ++ toString failure.worker ++ " failed to apply batch of " ++
    toString failure.size ++ ": " ++ failure.source.message

/-- Write a batch to a store in the name of a worker. -/
def Batch.writeTo {σ : Type} [PlanStore σ] (batch : Batch) (worker : Nat) (store : σ) :
    Except BatchFailure Receipt × σ :=
  let plan := Plan.ofOperations batch.operations
  if plan.isEmpty then
    (.ok .empty, store)
  else
    let (result, store) := PlanStore.apply plan store
    (result.mapError fun source => ⟨worker, batch.size, source⟩, store)

end FuzzIntake
