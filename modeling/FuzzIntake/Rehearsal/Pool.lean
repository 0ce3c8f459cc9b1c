import FuzzIntake.Lane.Warehouse
import FuzzIntake.Rehearsal.Clock

/-!
# Rehearsing the worker pool

A warehouse in virtual time, with at most one batch waiting to be routed.
-/

namespace FuzzIntake

/-- A warehouse with a clock. -/
structure PoolRehearsal where
  /-- The present instant. -/
  now : Instant
  /-- The warehouse. -/
  warehouse : Warehouse
  /-- The batch waiting to be routed. -/
  waiting : Option Batch
  /-- How the last routing ended. -/
  routed : Option Routed
  /-- When the pool will be cancelled. -/
  cancelAt : List Instant

namespace PoolRehearsal

/-- A pool without batches. -/
def new (workers : Nat) (shared : Bool) (retry : RetrySchedule) (deadLetterCapacity : Nat) :
    PoolRehearsal :=
  ⟨0, Warehouse.new workers shared retry deadLetterCapacity, none, none, []⟩

/-- Cancel the pool when it is time. -/
def cancelDue? (rehearsal : PoolRehearsal) : Option PoolRehearsal :=
  if rehearsal.cancelAt.any (· ≤ rehearsal.now) then
    some { rehearsal with
      warehouse := rehearsal.warehouse.cancel
      cancelAt := rehearsal.cancelAt.filter (rehearsal.now < ·) }
  else
    none

/-- Something happens in the warehouse. -/
def work? (rehearsal : PoolRehearsal) : Option PoolRehearsal :=
  (rehearsal.warehouse.actions.findSome? fun action =>
    rehearsal.warehouse.act? rehearsal.now action).map fun warehouse =>
      { rehearsal with warehouse := warehouse }

/-- The waiting batch is routed, or comes back from a cancelled pool. -/
def route? (rehearsal : PoolRehearsal) : Option PoolRehearsal :=
  rehearsal.waiting.bind fun batch =>
    match rehearsal.warehouse.route? batch with
    | some warehouse =>
        some { rehearsal with
          warehouse := warehouse
          waiting := none
          routed := some .accepted }
    | none =>
        if rehearsal.warehouse.pool.cancelled then
          some { rehearsal with waiting := none, routed := some (.returned batch) }
        else
          none

instance : Rehearsable PoolRehearsal where
  now := now
  setNow instant rehearsal := { rehearsal with now := instant }
  step? rehearsal := rehearsal.cancelDue?.or (rehearsal.work?.or rehearsal.route?)
  alarms rehearsal := rehearsal.cancelAt ++ rehearsal.warehouse.alarms

/-- Route a batch and wait until it is routed or comes back. -/
def route (rehearsal : PoolRehearsal) (batch : Batch) (cancelAfter : Option Span) :
    PoolRehearsal :=
  let cancelAt := cancelAfter.toList.map fun span => Instant.after rehearsal.now span
  Rehearsal.runUntil (fun rehearsal => rehearsal.waiting.isNone)
    { rehearsal with
      waiting := some batch
      routed := none
      cancelAt := rehearsal.cancelAt ++ cancelAt }

/-- Cancel the pool. -/
def cancel (rehearsal : PoolRehearsal) : PoolRehearsal :=
  Rehearsal.settle { rehearsal with warehouse := rehearsal.warehouse.cancel }

/-- Whether the warehouse has been closed, or has crashed while closing. -/
def hasClosed (rehearsal : PoolRehearsal) : Bool :=
  match rehearsal.warehouse.closing with
  | .closed _ => true
  | .crashed => true
  | _ => false

/-- Close the warehouse and wait until it is closed. -/
def shutdown (rehearsal : PoolRehearsal) (leftover : List Operation) : PoolRehearsal :=
  Rehearsal.runUntil hasClosed
    { rehearsal with warehouse := rehearsal.warehouse.shutdown leftover }

/-- Change the store of a worker. -/
def changeStore (rehearsal : PoolRehearsal) (worker : Nat)
    (change : SwitchedStore → SwitchedStore) : PoolRehearsal :=
  Rehearsal.settle { rehearsal with
    warehouse := rehearsal.warehouse.changeStore worker change }

end PoolRehearsal
end FuzzIntake
