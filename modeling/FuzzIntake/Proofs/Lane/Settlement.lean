import FuzzIntake.Proofs.Lane.Balance
import Mathlib.Data.List.Perm.Basic

/-!
# Every batch is settled

As long as no store crashes no batch is lost, and once the lanes are quiet every batch
that was routed was written or is a dead letter, each exactly once.
-/

namespace FuzzIntake

namespace Warehouse

variable {workers capacity : Nat} {books : Books} {warehouse next : Warehouse}

/-! ## Without crashes -/

/-- No store has been told to crash. -/
structure IsCalm (warehouse : Warehouse) : Prop where
  intact : warehouse.closing ≠ .crashed
  healthy : ∀ store ∈ warehouse.stores, store.crashes = 0

theorem isCalm_new
    (workers : Nat)
    (shared : Bool)
    (retry : RetrySchedule)
    (capacity : Nat) :
    (new workers shared retry capacity).IsCalm where
  intact := by simp [new]
  healthy store present := by
    rw [List.eq_of_mem_replicate present]
    rfl

/-- Writing a batch does not make a store crash. -/
theorem crashes_writeTo (batch : Batch) (worker : Nat) (store : SwitchedStore) :
    (batch.writeTo worker store).2.crashes = store.crashes := by
  rw [Batch.writeTo]
  split
  · rfl
  · rfl

/-- The store of a worker of a calm warehouse does not crash. -/
theorem IsCalm.crashes_eq
    {worker : Nat}
    {store : SwitchedStore}
    (calm : warehouse.IsCalm)
    (found : warehouse.store? worker = some store) :
    store.crashes = 0 :=
  calm.healthy store (List.mem_of_getElem? found)

/-- Stores stay calm when one of them is put back after writing. -/
theorem IsCalm.setStore
    {worker : Nat}
    {store later : SwitchedStore}
    (calm : warehouse.IsCalm)
    (found : warehouse.store? worker = some store)
    (same : later.crashes = store.crashes) :
    ∀ other ∈ (warehouse.setStore worker later).stores, other.crashes = 0 := by
  intro other present
  rcases List.mem_or_eq_of_mem_set present with old | rfl
  · exact calm.healthy other old
  · rw [same, calm.crashes_eq found]

/-- A change that does not make stores crash leaves a warehouse calm. -/
theorem IsCalm.changeStore
    (calm : warehouse.IsCalm)
    (worker : Nat)
    {change : SwitchedStore → SwitchedStore}
    (harmless : ∀ store, (change store).crashes = store.crashes) :
    (warehouse.changeStore worker change).IsCalm where
  intact := calm.intact
  healthy other present := by
    obtain ⟨index, placed⟩ := List.mem_iff_getElem?.mp present
    change (warehouse.stores.modify _ change)[index]? = some other at placed
    rw [List.getElem?_modify] at placed
    obtain ⟨store, found, rfl⟩ := Option.map_eq_some_iff.mp placed
    have healthy := calm.healthy store (List.mem_of_getElem? found)
    split
    · rw [harmless, healthy]
    · exact healthy

/-- Closing the stores leaves them calm. -/
theorem IsCalm.report
    (calm : warehouse.IsCalm)
    (drained dropped : Nat) :
    (warehouse.report drained dropped).IsCalm where
  intact := by simp [Warehouse.report]
  healthy other present := by
    obtain ⟨store, old, rfl⟩ := List.mem_map.mp present
    exact calm.healthy store old

/-- An answer of a store loses no batch. -/
theorem isLost_of_mem_answers
    {pool : Pool}
    {index : Nat}
    {now : Instant}
    {result : Except BatchFailure Receipt}
    {outcome : Outcome}
    (present : outcome ∈ pool.answers index now result) :
    outcome.isLost = false := by
  rw [Pool.answers] at present
  split at present
  · simp at present
  · split at present
    · rw [List.mem_singleton.mp present]
      rfl
    · split at present
      · simp at present
      · rw [List.mem_singleton.mp present]
        rfl

/-- A lane that gives up a batch does not lose it. -/
theorem isLost_of_mem_abandonments
    {pool : Pool}
    {index : Nat}
    {outcome : Outcome}
    (present : outcome ∈ pool.abandonments index) :
    outcome.isLost = false := by
  rw [Pool.abandonments] at present
  split at present
  · split at present
    · rw [List.mem_singleton.mp present]
      rfl
    · simp at present
  · simp at present

/-- A dead lane does not lose the batch it refuses. -/
theorem isLost_of_mem_refusals
    {pool : Pool}
    {batch : Batch}
    {outcome : Outcome}
    (present : outcome ∈ pool.refusals batch) :
    outcome.isLost = false := by
  rw [Pool.refusals] at present
  split at present
  · split at present
    · rw [List.mem_singleton.mp present]
      rfl
    · simp at present
  · simp at present

/-- A lane of a calm warehouse does not go down as it starts an attempt. -/
theorem IsCalm.exists_of_start?
    {now : Instant}
    {lane : Nat}
    (calm : warehouse.IsCalm)
    (started : warehouse.start? now lane = some next) :
    ∃ store pool, warehouse.store? lane = some store ∧
      warehouse.pool.start? lane now (Instant.after now store.delay) = some pool ∧
      { warehouse with pool := pool } = next := by
  cases start_of_start? started with
  | begin found _ begun => exact ⟨_, _, found, begun, rfl⟩
  | crash found crashes _ => exact absurd (calm.crashes_eq found) (Nat.ne_of_gt crashes)

/-- A lane of a calm warehouse starts its attempts without crashing. -/
theorem IsCalm.start
    {now : Instant}
    {lane : Nat}
    (calm : warehouse.IsCalm)
    (started : warehouse.start? now lane = some next) :
    next.IsCalm ∧ warehouse.outcomes now (.start lane) = [] := by
  obtain ⟨store, pool, found, begun, rfl⟩ := calm.exists_of_start? started
  refine ⟨⟨calm.intact, calm.healthy⟩, ?_⟩
  simp only [outcomes, found, calm.crashes_eq found, Nat.lt_irrefl, if_false]

/-- A store of a calm warehouse answers without crashing. -/
theorem IsCalm.finish
    {now : Instant}
    {lane : Nat}
    (calm : warehouse.IsCalm)
    (finished : warehouse.finish? now lane = some next) :
    next.IsCalm ∧
      ∀ outcome ∈ warehouse.outcomes now (.finish lane), outcome.isLost = false := by
  obtain ⟨store, batch, attempt, pool, found, answering, done, rfl⟩ := exists_of_finish? finished
  refine ⟨⟨calm.intact, calm.setStore found (crashes_writeTo batch lane store)⟩, ?_⟩
  simp only [outcomes, found, answering]
  exact fun outcome => isLost_of_mem_answers

/-- A calm warehouse hands over what is left over without crashing. -/
theorem IsCalm.drain
    {now : Instant}
    (calm : warehouse.IsCalm)
    (drained : warehouse.drain? now = some next) :
    next.IsCalm := by
  cases drain_of_drain? drained with
  | nothing _ _ => exact calm.report 0 0
  | @drop leftover _ _ _ _ => exact calm.report 0 leftover.length
  | crash _ _ _ found crashes => exact absurd (calm.crashes_eq found) (Nat.ne_of_gt crashes)
  | hand _ _ _ _ _ => exact ⟨by simp, calm.healthy⟩

/-- A calm warehouse writes its last batch without crashing. -/
theorem IsCalm.settle
    {now : Instant}
    (calm : warehouse.IsCalm)
    (settled : warehouse.settle? now = some next) :
    next.IsCalm := by
  have put : ∀ leftover store, warehouse.store? 0 = some store →
      IsCalm (warehouse.setStore 0 (Batch.writeTo ⟨leftover⟩ 0 store).2) := by
    intro leftover store found
    exact ⟨calm.intact, calm.setStore found (crashes_writeTo ⟨leftover⟩ 0 store)⟩
  cases settle_of_settle? settled with
  | @write leftover _ store after _ _ _ found answered =>
      obtain rfl : (Batch.writeTo ⟨leftover⟩ 0 store).2 = after := by rw [answered]
      exact (put leftover store found).report leftover.length 0
  | @drop leftover _ store after _ _ _ found answered =>
      obtain rfl : (Batch.writeTo ⟨leftover⟩ 0 store).2 = after := by rw [answered]
      exact (put leftover store found).report 0 leftover.length

/-- An event other than a crash leaves a calm warehouse calm and loses no batch. -/
theorem IsCalm.happen
    {event : Event}
    (calm : warehouse.IsCalm)
    (harmless : ¬ event.IsCrash)
    (happened : warehouse.happen? event = some next) :
    next.IsCalm ∧ ∀ outcome ∈ (warehouse.entry event).outcomes, outcome.isLost = false := by
  cases event with
  | act now action =>
      cases action with
      | start lane =>
          obtain ⟨nextCalm, nothing⟩ := calm.start happened
          refine ⟨nextCalm, fun outcome present => ?_⟩
          rw [entry, nothing] at present
          exact absurd present List.not_mem_nil
      | finish lane => exact calm.finish happened
      | abandon lane =>
          obtain ⟨pool, abandoned, rfl⟩ := Option.map_eq_some_iff.mp happened
          exact ⟨⟨calm.intact, calm.healthy⟩, fun outcome => isLost_of_mem_abandonments⟩
      | drain => exact ⟨calm.drain happened, fun _ present => absurd present List.not_mem_nil⟩
      | settle => exact ⟨calm.settle happened, fun _ present => absurd present List.not_mem_nil⟩
  | route batch =>
      obtain ⟨-, pool, routed, rfl⟩ := happen?_route_eq_some_iff.mp happened
      refine ⟨⟨calm.intact, calm.healthy⟩, fun outcome present => ?_⟩
      rw [entry] at present
      split at present
      · exact absurd present List.not_mem_nil
      · exact isLost_of_mem_refusals present
  | cancel =>
      obtain rfl := Option.some.inj happened
      exact ⟨⟨calm.intact, calm.healthy⟩, fun _ present => absurd present List.not_mem_nil⟩
  | shutdown leftover =>
      obtain ⟨-, rfl⟩ := happen?_shutdown_eq_some_iff.mp happened
      exact ⟨⟨by simp [Warehouse.shutdown], calm.healthy⟩,
        fun _ present => absurd present List.not_mem_nil⟩
  | touchStore worker change =>
      obtain rfl := Option.some.inj happened
      exact ⟨calm.changeStore worker fun _ => rfl,
        fun _ present => absurd present List.not_mem_nil⟩
  | delayStore worker delay =>
      obtain rfl := Option.some.inj happened
      exact ⟨calm.changeStore worker fun _ => rfl,
        fun _ present => absurd present List.not_mem_nil⟩
  | crashStore worker count => exact absurd trivial harmless

/-- A run without crashes leaves a calm warehouse calm and loses no batch. -/
theorem IsCalm.run
    {events : List Event}
    {last : Warehouse}
    (calm : warehouse.IsCalm)
    (harmless : ∀ event ∈ events, ¬ event.IsCrash)
    (ran : warehouse.run? events = some (books, last)) :
    last.IsCalm ∧ ∀ outcome ∈ books.outcomes, outcome.isLost = false := by
  have start : warehouse.IsCalm ∧ ∀ outcome ∈ Books.empty.outcomes, outcome.isLost = false :=
    ⟨calm, fun _ present => absurd present List.not_mem_nil⟩
  refine run?_induction
    (fun books warehouse => warehouse.IsCalm ∧
      ∀ outcome ∈ books.outcomes, outcome.isLost = false) ?_ start ran
  intro event present books warehouse next ⟨calm, kept⟩ happened
  obtain ⟨nextCalm, keptNow⟩ := calm.happen (harmless event present) happened
  refine ⟨nextCalm, fun outcome present => ?_⟩
  rcases List.mem_append.mp present with before | now
  · exact kept outcome before
  · exact keptNow outcome now

/-! ## When the lanes are quiet -/

/-- At every moment the batches routed are those that came to an end and those that are held, lane
by lane even in order. -/
theorem IsBalanced.perm_routed
    (balanced : warehouse.IsBalanced workers capacity books)
    (staffed : 0 < workers) :
    books.routed.Perm
      (books.outcomes.map Outcome.batch ++
        (List.range workers).flatMap warehouse.pool.heldBy) := by
  have inPlace : ∀ batch ∈ books.routed, Routing.index batch.laneKey workers < workers :=
    fun batch _ => Routing.index_lt staffed batch.laneKey
  have laneByLane : ∀ index ∈ List.range workers,
      books.routedTo workers index =
        (books.outcomesOf index).map Outcome.batch ++ warehouse.pool.heldBy index := by
    intro index inside
    rw [List.mem_range, ← balanced.length_lanes] at inside
    have found := List.getElem?_eq_getElem inside
    rw [balanced.order index _ found, Pool.heldBy, found]
  have ended := List.perm_flatMap_of_forall_lt balanced.within
  refine (List.perm_flatMap_of_forall_lt inPlace).trans ?_
  change ((List.range workers).flatMap (books.routedTo workers)).Perm _
  rw [List.flatMap_congr laneByLane]
  refine (List.flatMap_append_perm _ _ _).symm.trans (.append_right _ ?_)
  rw [← List.map_flatMap]
  exact (ended.map Outcome.batch).symm

end Warehouse

/-- The operations of batches none of which is lost are those written and those given up. -/
theorem perm_operations_of_outcomes
    (outcomes : List Outcome)
    (kept : ∀ outcome ∈ outcomes, outcome.isLost = false) :
    (outcomes.flatMap fun outcome => outcome.batch.operations).Perm
      (((outcomes.filter Outcome.isCommitted).flatMap fun outcome => outcome.batch.operations) ++
        (outcomes.filterMap Outcome.letter?).flatMap DeadLetter.operations) := by
  induction outcomes with
  | nil => exact .nil
  | cons outcome rest inductionHypothesis =>
      have remaining := inductionHypothesis fun other present =>
        kept other (List.mem_cons_of_mem outcome present)
      obtain ⟨worker, batch, fate⟩ := outcome
      rw [List.flatMap_cons]
      cases fate with
      | committed attempt =>
          rw [List.filter_cons_of_pos rfl, List.filterMap_cons_none rfl, List.flatMap_cons,
            List.append_assoc]
          exact remaining.append_left batch.operations
      | givenUp attempts error =>
          have letter : Outcome.letter? ⟨worker, batch, .givenUp attempts error⟩ =
              some ⟨worker, attempts, error, batch.operations⟩ := rfl
          rw [List.filter_cons_of_neg Bool.false_ne_true, List.filterMap_cons_some letter,
            List.flatMap_cons]
          exact (remaining.append_left batch.operations).trans
            (List.perm_append_comm_assoc _ _ _)
      | lost => exact absurd (kept _ List.mem_cons_self) (by simp [Outcome.isLost])

namespace Warehouse

variable {workers capacity : Nat} {books : Books} {warehouse : Warehouse}

/-- Where nothing was lost, every operation routed was written, given up, or is held, once. -/
theorem IsBalanced.perm_operations_held
    (balanced : warehouse.IsBalanced workers capacity books)
    (staffed : 0 < workers)
    (kept : ∀ outcome ∈ books.outcomes, outcome.isLost = false) :
    (books.routed.flatMap Batch.operations).Perm
      (books.committed.flatMap Batch.operations ++
        books.letters.flatMap DeadLetter.operations ++
        ((List.range workers).flatMap warehouse.pool.heldBy).flatMap Batch.operations) := by
  refine ((balanced.perm_routed staffed).flatMap_right Batch.operations).trans ?_
  rw [List.flatMap_append, Books.committed, List.flatMap_map, List.flatMap_map]
  exact (perm_operations_of_outcomes books.outcomes kept).append_right _

/-- Once quiet lanes have lost nothing, every operation was written or given up, once. -/
theorem IsBalanced.perm_operations
    (balanced : warehouse.IsBalanced workers capacity books)
    (staffed : 0 < workers)
    (quiet : warehouse.pool.isQuiet = true)
    (kept : ∀ outcome ∈ books.outcomes, outcome.isLost = false) :
    (books.routed.flatMap Batch.operations).Perm
      (books.committed.flatMap Batch.operations ++
        books.letters.flatMap DeadLetter.operations) := by
  have holdNothing : (List.range workers).flatMap warehouse.pool.heldBy = [] := by
    rw [List.flatMap_eq_nil_iff]
    intro index _
    rw [Pool.heldBy]
    split
    · next lane found => exact Pool.held_eq_nil_of_isQuiet balanced.tidy quiet found
    · rfl
  have operations := balanced.perm_operations_held staffed kept
  rwa [holdNothing, List.flatMap_nil, List.append_nil] at operations

end Warehouse
end FuzzIntake
