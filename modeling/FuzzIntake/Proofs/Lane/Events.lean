import FuzzIntake.Proofs.Lane.Books

/-!
# What an event does

Each kind of event of a warehouse is opened once: when it is possible, and what the warehouse is
afterwards.  `Start` lists how a lane starts an attempt, `Drain` and `Settle` list how what is left
over is handed on and written.
-/

namespace FuzzIntake
namespace Warehouse

variable {warehouse next : Warehouse} {now : Instant} {lane : Nat}

/-- The start of an attempt. -/
inductive Start (warehouse : Warehouse) (now : Instant) (lane : Nat) : Warehouse → Prop
  /-- The store is asked. -/
  | begin {store : SwitchedStore} {pool : Pool} :
      warehouse.store? lane = some store → store.crashes = 0 →
      warehouse.pool.start? lane now (Instant.after now store.delay) = some pool →
      Start warehouse now lane { warehouse with pool := pool }
  /-- The lane goes down with its store. -/
  | crash {store : SwitchedStore} {pool : Pool} :
      warehouse.store? lane = some store → 0 < store.crashes →
      warehouse.pool.crash? lane now = some pool →
      Start warehouse now lane
        { (warehouse.setStore lane { store with crashes := store.crashes - 1 }) with pool := pool }

theorem start_of_start?
    (started : warehouse.start? now lane = some next) :
    Start warehouse now lane next := by
  obtain ⟨store, found, started⟩ := Option.bind_eq_some_iff.mp started
  split at started
  · next crashes =>
      obtain ⟨pool, crashed, rfl⟩ := Option.map_eq_some_iff.mp started
      exact .crash found crashes crashed
  · next healthy =>
      obtain ⟨pool, begun, rfl⟩ := Option.map_eq_some_iff.mp started
      exact .begin found (Nat.eq_zero_of_not_pos healthy) begun

/-- The store of a lane answers to the batch that the lane is writing. -/
theorem exists_of_finish?
    (finished : warehouse.finish? now lane = some next) :
    ∃ store batch attempt pool, warehouse.store? lane = some store ∧
      warehouse.pool.answering? lane now = some (batch, attempt) ∧
      warehouse.pool.finish? lane now (batch.writeTo lane store).1 = some pool ∧
      { (warehouse.setStore lane (batch.writeTo lane store).2) with pool := pool } = next := by
  obtain ⟨store, found, finished⟩ := Option.bind_eq_some_iff.mp finished
  obtain ⟨⟨batch, attempt⟩, answering, finished⟩ := Option.bind_eq_some_iff.mp finished
  obtain ⟨pool, done, reached⟩ := Option.map_eq_some_iff.mp finished
  exact ⟨store, batch, attempt, pool, found, answering, done, reached⟩

/-- What becomes of what is left over once the lanes are quiet. -/
inductive Drain (warehouse : Warehouse) (now : Instant) : Warehouse → Prop
  /-- Nothing is left over. -/
  | nothing :
      warehouse.closing = .awaiting [] → warehouse.pool.isQuiet = true →
      Drain warehouse now (warehouse.report 0 0)
  /-- There is no store to write it to. -/
  | drop {leftover : List Operation} :
      warehouse.closing = .awaiting leftover → warehouse.pool.isQuiet = true → leftover ≠ [] →
      warehouse.store? 0 = none →
      Drain warehouse now (warehouse.report 0 leftover.length)
  /-- The store crashes. -/
  | crash {leftover : List Operation} {store : SwitchedStore} :
      warehouse.closing = .awaiting leftover → warehouse.pool.isQuiet = true → leftover ≠ [] →
      warehouse.store? 0 = some store → 0 < store.crashes →
      Drain warehouse now
        { (warehouse.setStore 0 { store with crashes := store.crashes - 1 }) with
          closing := .crashed }
  /-- The first worker writes it as one batch. -/
  | hand {leftover : List Operation} {store : SwitchedStore} :
      warehouse.closing = .awaiting leftover → warehouse.pool.isQuiet = true → leftover ≠ [] →
      warehouse.store? 0 = some store → store.crashes = 0 →
      Drain warehouse now
        { warehouse with closing := .draining leftover (Instant.after now store.delay) }

theorem drain_of_drain?
    (drained : warehouse.drain? now = some next) :
    Drain warehouse now next := by
  rw [drain?] at drained
  split at drained
  · next leftover awaiting =>
      obtain ⟨quiet, drained⟩ := Option.ite_none_right_eq_some.mp drained
      split at drained
      · next empty =>
          obtain rfl := Option.some.inj drained
          exact .nothing (List.isEmpty_iff.mp empty ▸ awaiting) quiet
      · next filled =>
          have filled : leftover ≠ [] := fun empty => filled (List.isEmpty_iff.mpr empty)
          split at drained
          · next missing =>
              obtain rfl := Option.some.inj drained
              exact .drop awaiting quiet filled missing
          · next store found =>
              split at drained
              · next crashes =>
                  obtain rfl := Option.some.inj drained
                  exact .crash awaiting quiet filled found crashes
              · next healthy =>
                  obtain rfl := Option.some.inj drained
                  exact .hand awaiting quiet filled found (Nat.eq_zero_of_not_pos healthy)
  · cases drained

/-- The answer of the store to the last batch. -/
inductive Settle (warehouse : Warehouse) (now : Instant) : Warehouse → Prop
  /-- What was left over is written. -/
  | write {leftover : List Operation} {due : Instant} {store after : SwitchedStore}
      {receipt : Receipt} :
      warehouse.closing = .draining leftover due → due ≤ now → warehouse.store? 0 = some store →
      (Batch.mk leftover).writeTo 0 store = (.ok receipt, after) →
      Settle warehouse now ((warehouse.setStore 0 after).report leftover.length 0)
  /-- What was left over is lost. -/
  | drop {leftover : List Operation} {due : Instant} {store after : SwitchedStore}
      {failure : BatchFailure} :
      warehouse.closing = .draining leftover due → due ≤ now → warehouse.store? 0 = some store →
      (Batch.mk leftover).writeTo 0 store = (.error failure, after) →
      Settle warehouse now ((warehouse.setStore 0 after).report 0 leftover.length)

theorem settle_of_settle?
    (settled : warehouse.settle? now = some next) :
    Settle warehouse now next := by
  rw [settle?] at settled
  split at settled
  · next leftover due draining =>
      obtain ⟨passed, settled⟩ := Option.ite_none_right_eq_some.mp settled
      obtain ⟨store, found, reached⟩ := Option.map_eq_some_iff.mp settled
      rcases answered : (Batch.mk leftover).writeTo 0 store with ⟨result, after⟩
      rw [answered] at reached
      cases result with
      | ok receipt => exact reached ▸ .write draining passed found answered
      | error failure => exact reached ▸ .drop draining passed found answered
  · cases settled

/-- A batch is taken only while the warehouse is open, and goes to the pool. -/
theorem happen?_route_eq_some_iff
    {batch : Batch} :
    warehouse.happen? (.route batch) = some next ↔
      warehouse.closing = .opened ∧
        ∃ pool, warehouse.pool.route? batch = some pool ∧
          { warehouse with pool := pool } = next := by
  cases closing : warehouse.closing <;> simp [happen?, closing, route?]

/-- A warehouse is told only once to take no more batches. -/
theorem happen?_shutdown_eq_some_iff
    {leftover : List Operation} :
    warehouse.happen? (.shutdown leftover) = some next ↔
      warehouse.closing = .opened ∧ warehouse.shutdown leftover = next := by
  cases closing : warehouse.closing <;> simp [happen?, closing]

end Warehouse
end FuzzIntake
