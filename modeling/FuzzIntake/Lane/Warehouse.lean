import FuzzIntake.Lane.Pool
import FuzzIntake.Store.Switched

/-!
# A pool with its stores

A warehouse is a worker pool together with the stores its workers write to,
either one each or one for all.  Closing it lets the lanes finish, writes what
is left over as one last batch on the first worker, and closes every store.
-/

namespace FuzzIntake

/-- What became of the operations left over, and how many batches were given up. -/
structure ClosingReport where
  /-- The operations written by the last batch. -/
  drained : Nat
  /-- The operations lost because the last batch failed. -/
  dropped : Nat
  /-- The dead letters that are kept. -/
  deadLetters : Nat
deriving DecidableEq, Repr

/-- How far a warehouse has been closed. -/
inductive Closing
  /-- Taking batches. -/
  | opened
  /-- Letting the lanes finish, with operations left over. -/
  | awaiting (leftover : List Operation)
  /-- Writing what is left over; the store answers at an instant. -/
  | draining (leftover : List Operation) (due : Instant)
  /-- Closed. -/
  | closed (report : ClosingReport)
  /-- The store crashed under the last batch. -/
  | crashed
deriving BEq, Repr

/-- How routing a batch ended. -/
inductive Routed
  /-- Its lane took it. -/
  | accepted
  /-- It came back because the pool was cancelled. -/
  | returned (batch : Batch)
deriving BEq, Repr

/-- A pool with its stores. -/
structure Warehouse where
  /-- The pool. -/
  pool : Pool
  /-- The stores. -/
  stores : List SwitchedStore
  /-- Whether all workers write to the first store. -/
  shared : Bool
  /-- How far the warehouse has been closed. -/
  closing : Closing

namespace Warehouse

/-- What can happen in a warehouse by itself. -/
inductive Action
  /-- A lane starts its next attempt. -/
  | start (lane : Nat)
  /-- The store of a lane answers. -/
  | finish (lane : Nat)
  /-- A lane gives up the batch it is pausing for. -/
  | abandon (lane : Nat)
  /-- The last batch is handed to the first worker. -/
  | drain
  /-- The store answers to the last batch. -/
  | settle
deriving DecidableEq, Repr

/-- An open warehouse without batches. -/
def new (workers : Nat) (shared : Bool) (retry : RetrySchedule) (deadLetterCapacity : Nat) :
    Warehouse where
  pool := Pool.new workers retry deadLetterCapacity
  stores := List.replicate (if shared then min workers 1 else workers) SwitchedStore.empty
  shared := shared
  closing := .opened

/-- The place of the store that a worker writes to. -/
def storeOf (warehouse : Warehouse) (worker : Nat) : Nat :=
  if warehouse.shared then 0 else worker

/-- The store that a worker writes to. -/
def store? (warehouse : Warehouse) (worker : Nat) : Option SwitchedStore :=
  warehouse.stores[warehouse.storeOf worker]?

/-- Replace the store that a worker writes to. -/
def setStore (warehouse : Warehouse) (worker : Nat) (store : SwitchedStore) : Warehouse :=
  { warehouse with stores := warehouse.stores.set (warehouse.storeOf worker) store }

/-- Change the store that a worker writes to. -/
def changeStore (warehouse : Warehouse) (worker : Nat)
    (change : SwitchedStore → SwitchedStore) : Warehouse :=
  { warehouse with stores := warehouse.stores.modify (warehouse.storeOf worker) change }

/-- A lane starts its next attempt, or dies with its store. -/
def start? (warehouse : Warehouse) (now : Instant) (lane : Nat) : Option Warehouse :=
  (warehouse.store? lane).bind fun store =>
    if 0 < store.crashes then
      (warehouse.pool.crash? lane now).map fun pool =>
        { (warehouse.setStore lane { store with crashes := store.crashes - 1 }) with pool := pool }
    else
      (warehouse.pool.start? lane now (Instant.after now store.delay)).map fun pool =>
        { warehouse with pool := pool }

/-- The store of a lane answers. -/
def finish? (warehouse : Warehouse) (now : Instant) (lane : Nat) : Option Warehouse :=
  (warehouse.store? lane).bind fun store =>
    (warehouse.pool.answering? lane now).bind fun (batch, _) =>
      let (result, store) := batch.writeTo lane store
      (warehouse.pool.finish? lane now result).map fun pool =>
        { (warehouse.setStore lane store) with pool := pool }

/-- Close every store and report. -/
def report (warehouse : Warehouse) (drained dropped : Nat) : Warehouse :=
  { warehouse with
    stores := warehouse.stores.map PlanStore.close
    closing := .closed ⟨drained, dropped, warehouse.pool.deadLetters.letters.length⟩ }

/-- Hand what is left over to the first worker, once the lanes have finished. -/
def drain? (warehouse : Warehouse) (now : Instant) : Option Warehouse :=
  match warehouse.closing with
  | .awaiting leftover =>
      if warehouse.pool.isQuiet then
        if leftover.isEmpty then
          some (warehouse.report 0 0)
        else
          match warehouse.store? 0 with
          | none => some (warehouse.report 0 leftover.length)
          | some store =>
              if 0 < store.crashes then
                some { (warehouse.setStore 0 { store with crashes := store.crashes - 1 }) with
                  closing := .crashed }
              else
                some { warehouse with
                  closing := .draining leftover (Instant.after now store.delay) }
      else
        none
  | _ => none

/-- The store answers to the last batch; after that every store is closed. -/
def settle? (warehouse : Warehouse) (now : Instant) : Option Warehouse :=
  match warehouse.closing with
  | .draining leftover due =>
      if due ≤ now then
        (warehouse.store? 0).map fun store =>
          let (result, store) := (Batch.mk leftover).writeTo 0 store
          let warehouse := warehouse.setStore 0 store
          match result with
          | .ok _ => warehouse.report leftover.length 0
          | .error _ => warehouse.report 0 leftover.length
      else
        none
  | _ => none

/-- The warehouse after an action, if the action can happen now. -/
def act? (warehouse : Warehouse) (now : Instant) : Action → Option Warehouse
  | .start lane => warehouse.start? now lane
  | .finish lane => warehouse.finish? now lane
  | .abandon lane => (warehouse.pool.abandon? lane).map fun pool => { warehouse with pool := pool }
  | .drain => warehouse.drain? now
  | .settle => warehouse.settle? now

/-- The actions that may be possible. -/
def actions (warehouse : Warehouse) : List Action :=
  (List.range warehouse.pool.lanes.length).flatMap
      (fun lane => [.abandon lane, .finish lane, .start lane]) ++
    [.drain, .settle]

/-- Hand a batch to its lane, if the lane has room. -/
def route? (warehouse : Warehouse) (batch : Batch) : Option Warehouse :=
  (warehouse.pool.route? batch).map fun pool => { warehouse with pool := pool }

/-- Take no more batches, and write the operations left over at the end. -/
def shutdown (warehouse : Warehouse) (leftover : List Operation) : Warehouse :=
  { warehouse with closing := .awaiting leftover }

/-- Try no batch again. -/
def cancel (warehouse : Warehouse) : Warehouse :=
  { warehouse with pool := warehouse.pool.cancel }

/-- The instants at which something moves on by itself. -/
def alarms (warehouse : Warehouse) : List Instant :=
  warehouse.pool.alarms ++
    match warehouse.closing with
    | .draining _ due => [due]
    | _ => []

end Warehouse
end FuzzIntake
