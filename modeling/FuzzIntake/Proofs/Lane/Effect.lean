import FuzzIntake.Proofs.Lane.Accounting
import FuzzIntake.Proofs.Store.Writing

/-!
# A worker writes its batches in order

Where every worker has a store of its own, the rows of the store are those that the written
batches of the worker leave one after another, followed by the last batch of the pool on the
first worker.  Failed attempts and batches given up leave no rows.
-/

namespace FuzzIntake

/-- The batches of a worker that were written, in order. -/
def Books.committedBy (books : Books) (worker : Nat) : List Batch :=
  ((books.outcomesOf worker).filter Outcome.isCommitted).map Outcome.batch

theorem Books.committedBy_append (books later : Books) (worker : Nat) :
    (books ++ later).committedBy worker = books.committedBy worker ++ later.committedBy worker := by
  simp only [committedBy, outcomesOf, outcomes_append, List.filter_append, List.map_append]

theorem Books.committedBy_eq_nil
    {books : Books}
    (noneWritten : ∀ outcome ∈ books.outcomes, outcome.isCommitted = false)
    (worker : Nat) :
    books.committedBy worker = [] := by
  rw [committedBy, List.map_eq_nil_iff, List.filter_eq_nil_iff]
  intro outcome present
  rw [noneWritten outcome (List.mem_filter.mp present).1]
  exact Bool.false_ne_true

/-- The batch that an answer of the store of a worker completes. -/
theorem Books.committedBy_answers
    {pool : Pool}
    {index number : Nat}
    {now : Instant}
    {batch : Batch}
    {result : Except BatchFailure Receipt}
    (answering : pool.answering? index now = some (batch, number))
    (own : ∀ outcome ∈ pool.answers index now result, outcome.worker = index)
    (worker : Nat) :
    committedBy ⟨[], pool.answers index now result, []⟩ worker =
      if index = worker then if result.isOk then [batch] else [] else [] := by
  rw [committedBy, outcomesOf, List.filter_place own, Pool.answers, answering]
  split
  · cases result with
    | ok receipt => rfl
    | error error =>
        simp only
        split
        · rfl
        · rfl
  · rfl

theorem Books.committedBy_abandonments (pool : Pool) (index worker : Nat) :
    committedBy ⟨[], pool.abandonments index, []⟩ worker = [] := by
  refine committedBy_eq_nil (fun outcome present => ?_) worker
  rw [Pool.abandonments] at present
  split at present
  · split at present
    · rw [List.mem_singleton.mp present]
      rfl
    · cases present
  · cases present

theorem Books.committedBy_refusals
    (given : List Batch)
    (pool : Pool)
    (batch : Batch)
    (worker : Nat) :
    committedBy ⟨given, pool.refusals batch, []⟩ worker = [] := by
  refine committedBy_eq_nil (fun outcome present => ?_) worker
  rw [Pool.refusals] at present
  split at present
  · split at present
    · rw [List.mem_singleton.mp present]
      rfl
    · cases present
  · cases present

namespace Warehouse

/-- The rows of every store. -/
def rows (warehouse : Warehouse) : List Tables :=
  warehouse.stores.map fun store => store.store.tables

/-- The last batch, at the worker that wrote it. -/
def drainedBy (closing : Closing) (remainder : List Operation) (worker : Nat) : List Batch :=
  match closing with
  | .closed report => if 0 = worker ∧ report.drained ≠ 0 then [⟨remainder⟩] else []
  | _ => []

/-- The batches that the store of a worker has taken, in order. -/
def takenBy (register : Register) (warehouse : Warehouse) (worker : Nat) : List Batch :=
  register.books.committedBy worker ++
    drainedBy warehouse.closing register.books.remainder worker

/-- Every worker has a store of its own, with the rows of the batches it has taken. -/
structure IsWritten (workers : Nat) (register : Register) (warehouse : Warehouse) : Prop where
  separate : warehouse.shared = false
  length_rows : warehouse.rows.length = workers
  rows : ∀ worker tables, warehouse.rows[worker]? = some tables →
    tables = (takenBy register warehouse worker).foldl Tables.applyBatch Tables.empty

/-- An event that changes rows only by writing batches. -/
def Event.KeepsRows : Event → Prop
  | .touchStore _ change => ∀ store, (change store).tables = store.tables
  | _ => True

/-- An occasion that changes rows only by writing batches. -/
def Occasion.KeepsRows : Occasion → Prop
  | .event happening => happening.KeepsRows
  | .call _ => True

variable {workers capacity : Nat} {retry : RetrySchedule} {warehouse next last : Warehouse}
  {register note : Register} {occasion : Occasion} {occasions : List Occasion}

theorem isWritten_new
    (workers : Nat)
    (retry : RetrySchedule)
    (capacity : Nat) :
    IsWritten workers .empty (new workers false retry capacity) := by
  refine ⟨rfl, ?_, ?_⟩
  · simp [Warehouse.rows, new]
  · intro worker tables found
    obtain ⟨store, isStore, rfl⟩ := List.mem_map.mp (List.mem_of_getElem? found)
    rw [List.eq_of_mem_replicate isStore]
    rfl

/-! ### What happens to the rows -/

/-- Nothing is drained before the warehouse is closed. -/
theorem drainedBy_of_not_closed
    {closing : Closing}
    (notClosed : ∀ report, closing ≠ .closed report)
    (remainder : List Operation)
    (worker : Nat) :
    drainedBy closing remainder worker = [] := by
  cases closing with
  | closed report => exact absurd rfl (notClosed report)
  | opened | awaiting _ | draining _ _ | crashed => rfl

theorem takenBy_of_not_closed
    (notClosed : ∀ report, warehouse.closing ≠ .closed report)
    (worker : Nat) :
    takenBy register warehouse worker = register.books.committedBy worker := by
  rw [takenBy, drainedBy_of_not_closed notClosed, List.append_nil]

/-- The rows of the store that a worker writes to. -/
theorem rows_setStore
    (warehouse : Warehouse)
    (worker : Nat)
    (store : SwitchedStore) :
    (warehouse.setStore worker store).rows =
      warehouse.rows.set (warehouse.storeOf worker) store.store.tables :=
  List.map_set

theorem rows_of_store?
    {worker : Nat}
    {store : SwitchedStore}
    (found : warehouse.store? worker = some store) :
    warehouse.rows[warehouse.storeOf worker]? = some store.store.tables := by
  unfold store? at found
  rw [Warehouse.rows, List.getElem?_map, found]
  rfl

/-- Closing the stores leaves their rows. -/
theorem rows_report (warehouse : Warehouse) (drained dropped : Nat) :
    (warehouse.report drained dropped).rows = warehouse.rows := by
  rw [Warehouse.rows, Warehouse.rows, Warehouse.report, List.map_map]
  rfl

theorem rows_changeStore
    {change : SwitchedStore → SwitchedStore}
    (keeps : ∀ store, (change store).store.tables = store.store.tables)
    (worker : Nat) :
    (warehouse.changeStore worker change).rows = warehouse.rows := by
  apply List.ext_getElem?
  intro index
  rw [Warehouse.rows, Warehouse.rows, changeStore, List.getElem?_map, List.getElem?_map,
    List.getElem?_modify]
  cases warehouse.stores[index]? with
  | none => rfl
  | some store =>
      by_cases same : warehouse.storeOf worker = index
      · simp [same, keeps]
      · simp [same]

/-- Where no batch is taken the rows stay the same. -/
theorem IsWritten.keep
    (written : IsWritten workers register warehouse)
    (sameShared : next.shared = warehouse.shared)
    (sameRows : next.rows = warehouse.rows)
    (sameTaken : ∀ worker,
      takenBy (register ++ note) next worker = takenBy register warehouse worker) :
    IsWritten workers (register ++ note) next := by
  refine ⟨sameShared.trans written.separate, sameRows ▸ written.length_rows, ?_⟩
  intro worker tables found
  rw [sameRows] at found
  rw [sameTaken]
  exact written.rows worker tables found

/-- Where nothing is written and nothing closed the rows stay the same. -/
theorem IsWritten.idle
    (written : IsWritten workers register warehouse)
    (sameShared : next.shared = warehouse.shared)
    (sameRows : next.rows = warehouse.rows)
    (sameClosing : next.closing = warehouse.closing)
    (noneLeft : note.books.remainder = [])
    (noneWritten : ∀ worker, note.books.committedBy worker = []) :
    IsWritten workers (register ++ note) next := by
  refine written.keep sameShared sameRows fun worker => ?_
  rw [takenBy, takenBy, Register.books_append, Books.committedBy_append, noneWritten,
    Books.remainder_append, noneLeft, sameClosing, List.append_nil, List.append_nil]

/-- Where one store takes batches it has their rows in addition. -/
theorem IsWritten.take
    {index : Nat}
    {store after : SwitchedStore}
    {batches : List Batch}
    (written : IsWritten workers register warehouse)
    (found : warehouse.store? index = some store)
    (took : after.store.tables = batches.foldl Tables.applyBatch store.store.tables)
    (sameShared : next.shared = warehouse.shared)
    (sameRows : next.rows = (warehouse.setStore index after).rows)
    (taken : ∀ worker, takenBy (register ++ note) next worker =
      takenBy register warehouse worker ++ if index = worker then batches else []) :
    IsWritten workers (register ++ note) next := by
  have separate : warehouse.storeOf index = index := by rw [storeOf, written.separate]; rfl
  have placed := rows_of_store? found
  rw [separate] at placed
  rw [rows_setStore, separate] at sameRows
  refine ⟨sameShared.trans written.separate, ?_, ?_⟩
  · rw [sameRows, List.length_set, written.length_rows]
  · intro worker tables found
    rw [sameRows] at found
    rw [taken, List.foldl_append]
    by_cases own : index = worker
    · subst own
      obtain ⟨inside, -⟩ := List.getElem?_eq_some_iff.mp placed
      rw [List.getElem?_set_self inside] at found
      rw [if_pos rfl, ← written.rows _ _ placed, ← took]
      exact (Option.some.inj found).symm
    · rw [List.getElem?_set_ne own] at found
      rw [if_neg own]
      exact written.rows worker tables found

/-- The answer of a store writes its batch to the rows, or leaves them alone. -/
theorem IsWritten.finish
    {now : Instant}
    {index : Nat}
    (written : IsWritten workers register warehouse)
    (notClosed : ∀ report, warehouse.closing ≠ .closed report)
    (finished : warehouse.finish? now index = some next) :
    IsWritten workers (register ++ warehouse.note (.act now (.finish index))) next := by
  obtain ⟨store, batch, number, pool, found, answering, done, reached⟩ :=
    exists_of_finish? finished
  have own : ∀ outcome ∈ warehouse.pool.answers index now (batch.writeTo index store).1,
      outcome.worker = index := (Pool.trail_of_finish? answering done).ownOutcomes
  have sameClosing : next.closing = warehouse.closing := by
    rw [← reached]
    rfl
  have books : (warehouse.note (.act now (.finish index))).books =
      ⟨[], warehouse.pool.answers index now (batch.writeTo index store).1, []⟩ := by
    simp only [Warehouse.note, entry, outcomes, found, answering]
  have took : (batch.writeTo index store).2.store.tables =
      (if (batch.writeTo index store).1.isOk then [batch] else []).foldl Tables.applyBatch
        store.store.tables := by
    rw [Batch.tables_writeTo]
    split
    · rfl
    · rfl
  refine written.take found took ?_ ?_ ?_
  · rw [← reached]
    rfl
  · rw [← reached]
    rfl
  · intro worker
    rw [takenBy_of_not_closed notClosed, takenBy_of_not_closed (sameClosing ▸ notClosed),
      Register.books_append, books, Books.committedBy_append,
      Books.committedBy_answers answering own]

/-- Where the first store answers to the last batch, it takes the batch exactly if the report
says so. -/
theorem IsWritten.report
    {store after : SwitchedStore}
    {drained : Nat}
    (written : IsWritten workers register warehouse)
    (notClosed : ∀ report, warehouse.closing ≠ .closed report)
    (found : warehouse.store? 0 = some store)
    (took : after.store.tables =
      (if drained ≠ 0 then [⟨register.books.remainder⟩] else []).foldl Tables.applyBatch
        store.store.tables)
    (noEntry : note.books = .empty)
    (dropped : Nat) :
    IsWritten workers (register ++ note) ((warehouse.setStore 0 after).report drained dropped) := by
  refine written.take found took rfl (rows_report _ _ _) fun worker => ?_
  rw [takenBy_of_not_closed notClosed, takenBy, Register.books_append, noEntry,
    Books.append_empty]
  change register.books.committedBy worker ++
    (if 0 = worker ∧ drained ≠ 0 then [⟨register.books.remainder⟩] else []) = _
  rw [ite_and]

/-- The answer to the last batch writes it to the rows, or leaves them alone. -/
theorem IsWritten.settle
    {now : Instant}
    (written : IsWritten workers register warehouse)
    (closing : warehouse.IsClosing register.books.remainder)
    (settled : warehouse.settle? now = some next) :
    IsWritten workers (register ++ warehouse.note (.act now .settle)) next := by
  cases settle_of_settle? settled with
  | @write leftover _ store after _ draining _ found answered =>
      obtain ⟨rfl, -⟩ : register.books.remainder = leftover ∧ warehouse.pool.isQuiet = true := by
        simpa only [IsClosing, draining] using closing
      have stored := Batch.tables_writeTo ⟨register.books.remainder⟩ 0 store
      rw [answered] at stored
      refine written.report (by simp [draining]) found ?_ rfl 0
      rw [stored]
      by_cases empty : register.books.remainder = []
      · rw [empty]
        exact Tables.applyBatch_of_isEmpty rfl _
      · rw [if_pos (fun none => empty (List.length_eq_zero_iff.mp none))]
        rfl
  | @drop leftover _ store after _ draining _ found answered =>
      obtain ⟨rfl, -⟩ : register.books.remainder = leftover ∧ warehouse.pool.isQuiet = true := by
        simpa only [IsClosing, draining] using closing
      have stored := Batch.tables_writeTo ⟨register.books.remainder⟩ 0 store
      rw [answered] at stored
      exact written.report (by simp [draining]) found stored rfl _

theorem IsWritten.start
    {now : Instant}
    {index : Nat}
    (written : IsWritten workers register warehouse)
    (calm : warehouse.IsCalm)
    (started : warehouse.start? now index = some next) :
    IsWritten workers (register ++ warehouse.note (.act now (.start index))) next := by
  have nothing := (calm.start started).2
  obtain ⟨store, pool, -, -, rfl⟩ := calm.exists_of_start? started
  refine written.idle rfl rfl rfl rfl fun worker => ?_
  rw [Warehouse.note, entry, nothing]
  rfl

/-- Handing over the last batch leaves the rows alone, and so does closing without one. -/
theorem IsWritten.drain
    {now : Instant}
    (written : IsWritten workers register warehouse)
    (calm : warehouse.IsCalm)
    (drained : warehouse.drain? now = some next) :
    IsWritten workers (register ++ warehouse.note (.act now .drain)) next := by
  have books : (register ++ warehouse.note (.act now .drain)).books = register.books :=
    Books.append_empty _
  have undrained : ∀ {leftover}, warehouse.closing = .awaiting leftover →
      ∀ report, warehouse.closing ≠ .closed report := by
    intro leftover awaiting report closed
    cases awaiting.symm.trans closed
  have closed : ∀ {leftover}, warehouse.closing = .awaiting leftover → ∀ dropped,
      IsWritten workers (register ++ warehouse.note (.act now .drain))
        (warehouse.report 0 dropped) := by
    intro leftover awaiting dropped
    refine written.keep rfl (rows_report _ _ _) fun worker => ?_
    rw [takenBy_of_not_closed (undrained awaiting), takenBy, books, Warehouse.report, drainedBy,
      if_neg (fun both => both.2 rfl), List.append_nil]
  cases drain_of_drain? drained with
  | nothing awaiting _ => exact closed awaiting 0
  | @drop leftover awaiting _ _ _ => exact closed awaiting leftover.length
  | crash _ _ _ found crashes => exact absurd (calm.crashes_eq found) (Nat.ne_of_gt crashes)
  | hand awaiting _ _ _ _ =>
      refine written.keep rfl rfl fun worker => ?_
      rw [takenBy_of_not_closed (undrained awaiting), takenBy_of_not_closed (by simp), books]

/-- A warehouse whose lanes still work has not been closed. -/
theorem not_closed_of_finish?
    {now : Instant}
    {index : Nat}
    {remainder : List Operation}
    (closing : warehouse.IsClosing remainder)
    (finished : warehouse.finish? now index = some next)
    (report : ClosingReport) :
    warehouse.closing ≠ .closed report := by
  intro closed
  rw [IsClosing, closed, (work_of_finish? finished).1.not_isQuiet] at closing
  cases closing.1

/-- Every event without crash keeps the rows those of the batches taken. -/
theorem IsWritten.happen
    {event : Event}
    (written : IsWritten workers register warehouse)
    (calm : warehouse.IsCalm)
    (closing : warehouse.IsClosing register.books.remainder)
    (keeps : event.KeepsRows)
    (noRoute : ∀ batch, event ≠ .route batch)
    (happened : warehouse.happen? event = some next) :
    IsWritten workers (register ++ warehouse.note event) next := by
  cases event with
  | act now action =>
      cases action with
      | start index => exact written.start calm happened
      | finish index => exact written.finish (not_closed_of_finish? closing happened) happened
      | abandon index =>
          obtain ⟨pool, -, rfl⟩ := Option.map_eq_some_iff.mp happened
          exact written.idle rfl rfl rfl rfl (Books.committedBy_abandonments warehouse.pool index)
      | drain => exact written.drain calm happened
      | settle => exact written.settle closing happened
  | route batch => exact absurd rfl (noRoute batch)
  | cancel =>
      obtain rfl := Option.some.inj happened
      exact written.idle rfl rfl rfl rfl fun _ => rfl
  | shutdown leftover =>
      obtain ⟨opened, rfl⟩ := happen?_shutdown_eq_some_iff.mp happened
      refine written.keep rfl rfl fun worker => ?_
      rw [takenBy_of_not_closed (by simp [Warehouse.shutdown]),
        takenBy_of_not_closed (by simp [opened]), Register.books_append,
        Books.committedBy_append]
      exact List.append_nil _
  | touchStore worker change =>
      obtain rfl := Option.some.inj happened
      exact written.idle rfl (rows_changeStore (fun store => keeps store.store) worker) rfl rfl
        fun _ => rfl
  | delayStore worker _ | crashStore worker _ =>
      obtain rfl := Option.some.inj happened
      refine written.idle rfl (rows_changeStore ?_ worker) rfl rfl fun _ => rfl
      exact fun _ => rfl

/-- A batch that is accepted is not written yet. -/
theorem IsWritten.accept
    {batch : Batch}
    (written : IsWritten workers register warehouse)
    (happened : warehouse.happen? (.route batch) = some next) :
    IsWritten workers (register ++ warehouse.callNote batch .accepted) next := by
  obtain ⟨-, pool, -, rfl⟩ := happen?_route_eq_some_iff.mp happened
  refine written.idle rfl rfl rfl ?_ fun worker => ?_
  · exact remainder_entry warehouse (by simp)
  · rw [callNote, entry]
    split
    · rfl
    · exact Books.committedBy_refusals _ _ _ _

theorem IsWritten.meet
    (written : IsWritten workers register warehouse)
    (kept : warehouse.IsKept workers capacity register)
    (keeps : occasion.KeepsRows)
    (meeting : Meeting warehouse occasion note next) :
    IsWritten workers (register ++ note) next := by
  cases meeting with
  | event noRoute happened =>
      exact written.happen kept.calm kept.balanced.closing keeps noRoute happened
  | accepted happened => exact written.accept happened
  | returned _ _ => exact written.idle rfl rfl rfl rfl fun _ => rfl

/-- At the end of a run without crashes the rows are those of the batches taken. -/
theorem isWritten_of_follow?
    (staffed : 0 < workers)
    (harmless : ∀ occasion ∈ occasions, ¬ occasion.IsCrash)
    (injected : ∀ occasion ∈ occasions, occasion.KeepsRows)
    (followed : (new workers false retry capacity).follow? occasions = some (register, last)) :
    last.IsKept workers capacity register ∧ IsWritten workers register last := by
  refine follow?_induction (fun register warehouse =>
      warehouse.IsKept workers capacity register ∧ IsWritten workers register warehouse) ?_
    ⟨isKept_new workers false retry capacity, isWritten_new workers retry capacity⟩ followed
  intro occasion present register warehouse note next ⟨kept, written⟩ meeting
  exact ⟨kept.meet staffed (harmless occasion present) meeting,
    written.meet kept (injected occasion present) meeting⟩

/-! ### What a worker has done -/

/-- The work of one worker at a moment of a run. -/
structure IsExact (workers : Nat) (register : Register) (warehouse : Warehouse) (worker : Nat) :
    Prop where
  /-- All batches that the worker began have ended, but for one at most. -/
  single : ∃ current : List Batch, current.length ≤ 1 ∧
    register.begunBy worker = (register.books.outcomesOf worker).map Outcome.batch ++ current
  /-- The worker began the batches accepted for it, in their order. -/
  inOrder : register.begunBy worker <+: register.acceptedFor workers worker
  /-- An empty store takes the batches that the worker's store took, each at once. -/
  succeeds : ∀ result ∈
      (Batch.writeAll worker (takenBy register warehouse worker) LocalStore.empty).1,
    ∃ receipt, result = .ok receipt
  /-- The store of the worker has the rows that they leave in an empty store. -/
  effect : ∃ store, warehouse.stores[worker]? = some store ∧
    store.store.tables =
      (Batch.writeAll worker (takenBy register warehouse worker) LocalStore.empty).2.tables
  /-- In a warehouse that has been closed every batch accepted for the worker has ended. -/
  ended : ∀ report, warehouse.closing = .closed report →
    (register.books.outcomesOf worker).map Outcome.batch = register.acceptedFor workers worker

theorem IsKept.begunBy_prefix
    {worker : Nat}
    {lane : Lane}
    (kept : last.IsKept workers capacity register)
    (accepted : register.accepted = register.books.routed)
    (found : last.pool.lanes[worker]? = some lane) :
    register.begunBy worker <+: register.acceptedFor workers worker := by
  refine ⟨lane.buffer, ?_⟩
  have order := kept.balanced.order worker lane found
  rw [Books.routedTo, ← accepted, lane.held_eq, ← List.append_assoc,
    ← kept.traces.begun worker lane found] at order
  exact order.symm

/-- The workers of a pool without crashes write one batch after another in the order of routing,
and their stores hold the rows of exactly the batches written, and of the last one. -/
theorem writes_exactly_in_order
    {worker : Nat}
    (staffed : 0 < workers)
    (harmless : ∀ occasion ∈ occasions, ¬ occasion.IsCrash)
    (injected : ∀ occasion ∈ occasions, occasion.KeepsRows)
    (followed : (new workers false retry capacity).follow? occasions = some (register, last))
    (inside : worker < workers) :
    IsExact workers register last worker := by
  obtain ⟨kept, written⟩ := isWritten_of_follow? staffed harmless injected followed
  have accepted := accepted_eq_routed followed
  have ready : LocalStore.IsReady LocalStore.empty := ⟨rfl, fun _ => rfl⟩
  obtain ⟨succeeds, stored⟩ :=
    Batch.writeAll_of_isReady ready worker (takenBy register last worker)
  obtain ⟨lane, found⟩ : ∃ lane, last.pool.lanes[worker]? = some lane := by
    rw [← kept.balanced.length_lanes] at inside
    exact ⟨_, List.getElem?_eq_getElem inside⟩
  obtain ⟨store, placed⟩ : ∃ store, last.stores[worker]? = some store := by
    rw [← written.length_rows, Warehouse.rows, List.length_map] at inside
    exact ⟨_, List.getElem?_eq_getElem inside⟩
  have held : last.rows[worker]? = some store.store.tables := by
    rw [Warehouse.rows, List.getElem?_map, placed]
    rfl
  constructor
  · exact ⟨lane.current, lane.length_current_le, kept.traces.begun worker lane found⟩
  · exact kept.begunBy_prefix accepted found
  · exact succeeds
  · exact ⟨store, placed, (written.rows worker _ held).trans stored.symm⟩
  · intro report closed
    exact (kept.settled accepted closed).ended worker inside

/-- Two workers are tried twice for each batch.  The first batch of the second worker is written
at the second attempt, the next one fails twice and the last one is written; the first worker
writes one batch and then the last one of the pool. -/
def twoLanes : List Occasion :=
  let batch (program : String) : Batch := ⟨[.testProgram program 1]⟩
  [.call (batch "a"), .call (batch "g"), .call (batch "b"), .call (batch "c"),
    .event (.touchStore 1 (LocalStore.injectFailures · .programs 1)),
    .event (.act 0 (.start 1)), .event (.act 0 (.start 0)), .event (.act 0 (.finish 1)),
    .event (.act 0 (.start 1)), .event (.act 0 (.finish 0)), .event (.act 0 (.finish 1)),
    .event (.touchStore 1 (LocalStore.injectFailures · .programs 2)),
    .event (.act 0 (.start 1)), .event (.act 0 (.finish 1)), .event (.act 0 (.start 1)),
    .event (.act 0 (.finish 1)), .event (.shutdown [.delete "g"]), .event (.act 0 (.start 1)),
    .event (.act 0 (.finish 1)), .event (.act 0 .drain), .event (.act 0 .settle)]

/-- The stores of two lanes hold the rows of the batches written. -/
theorem writes_exactly_in_order_of_twoLanes :
    ∃ register last report,
      (new 2 false ⟨2, ⟨0⟩⟩ 1).follow? twoLanes = some (register, last) ∧
        (∀ occasion ∈ twoLanes, ¬ occasion.IsCrash) ∧
        (∀ occasion ∈ twoLanes, occasion.KeepsRows) ∧
        last.closing = .closed report ∧
        (register.acceptedFor 2 1).map Batch.laneKey = ["a", "b", "c"] ∧
        (takenBy register last 1).map Batch.laneKey = ["a", "c"] ∧
        (takenBy register last 0).map Batch.laneKey = ["g", "g"] ∧
        ∀ worker < 2, IsExact 2 register last worker := by
  have evaluated : ((new 2 false ⟨2, ⟨0⟩⟩ 1).follow? twoLanes).map (fun reached =>
        (reached.2.report?,
          (reached.1.acceptedFor 2 1).map Batch.laneKey,
          (takenBy reached.1 reached.2 1).map Batch.laneKey,
          (takenBy reached.1 reached.2 0).map Batch.laneKey)) =
      some (some ⟨1, 0, 1⟩, ["a", "b", "c"], ["a", "c"], ["g", "g"]) := by decide +kernel
  obtain ⟨⟨register, last⟩, followed, counts⟩ := Option.map_eq_some_iff.mp evaluated
  simp only [Prod.mk.injEq] at counts
  obtain ⟨reported, accepted, takenBySecond, takenByFirst⟩ := counts
  have harmless : ∀ occasion ∈ twoLanes, ¬ occasion.IsCrash := by
    simp [twoLanes, Occasion.IsCrash, Event.IsCrash]
  have injected : ∀ occasion ∈ twoLanes, occasion.KeepsRows := by
    simp [twoLanes, Occasion.KeepsRows, Event.KeepsRows, LocalStore.injectFailures]
  have closed : last.closing = .closed ⟨1, 0, 1⟩ := closing_of_report? reported
  exact ⟨register, last, _, followed, harmless, injected, closed, accepted, takenBySecond,
    takenByFirst, fun worker => writes_exactly_in_order Nat.two_pos harmless injected followed⟩

end Warehouse
end FuzzIntake
