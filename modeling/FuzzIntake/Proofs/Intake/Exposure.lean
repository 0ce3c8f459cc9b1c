import FuzzIntake.Proofs.Batch.Accumulator
import FuzzIntake.Proofs.Intake.Conservation
import FuzzIntake.Proofs.Intake.Motion
import FuzzIntake.Proofs.Lane.Room

/-!
# How many operations can be lost at once

An operation that the queue took is exposed until its batch is written or given up, or the
last batch has been dealt with.  At every moment the exposed operations are those in the
queue, in the flush loop and in the lanes, and each of these has its bound.
-/

namespace FuzzIntake

namespace Queue

/-- A queue of a capacity that holds no more than that. -/
structure IsWithin (capacity : Nat) (queue : Queue) : Prop where
  sized : queue.capacity = capacity
  short : queue.items.length ≤ capacity

variable {capacity : Nat} {queue next : Queue}

theorem isWithin_new (capacity : Nat) : (new capacity).IsWithin (max 1 capacity) :=
  ⟨Nat.max_comm capacity 1, Nat.zero_le _⟩

/-- A queue takes an operation only if there is room for it. -/
theorem IsWithin.step
    (within : queue.IsWithin capacity)
    (step : queue.Step next) :
    next.IsWithin capacity := by
  cases step with
  | stay => exact within
  | send sent =>
      obtain ⟨⟨room, -⟩, admitted⟩ := Option.ite_none_right_eq_some.mp sent
      obtain rfl := Option.some.inj admitted
      refine ⟨within.sized, ?_⟩
      rw [hasRoom, decide_eq_true_eq, within.sized] at room
      rw [items_of_send? sent, List.length_append]
      exact room
  | stand stood =>
      obtain ⟨-, stood⟩ := Option.ite_none_left_eq_some.mp stood
      exact Option.some.inj stood ▸ ⟨within.sized, within.short⟩
  | leave sender => exact ⟨within.sized, within.short⟩
  | pop popped =>
      have short := within.short
      rw [items_of_pop? popped, List.length_cons] at short
      rw [pop?] at popped
      split at popped
      · cases popped
      · obtain ⟨-, rfl⟩ := Prod.mk.inj (Option.some.inj popped)
        exact ⟨within.sized, Nat.le_of_succ_le short⟩

end Queue

/-- A flush loop never holds more than one whole batch: it takes an operation only while the batch
in progress is not complete. -/
theorem FlushLoop.length_pending_react?
    {limits : BatchLimits}
    {loop next : FlushLoop}
    {now : Instant}
    {signal : FlushSignal}
    (sound : loop.IsSound limits)
    (short : loop.pending.length ≤ max 1 limits.maxSize)
    (reacted : loop.react? now signal = some next) :
    next.pending.length ≤ max 1 limits.maxSize := by
  have moved := congrArg List.length (pending_react? reacted)
  rw [List.length_append, List.length_append] at moved
  cases signal with
  | receive operation =>
      have unfinished := sound.accumulator.short
      rw [sound.limited] at unfinished
      have pending : loop.pending = loop.accumulator.held := by
        obtain ⟨accumulator, phase⟩ := loop
        cases phase with
        | waiting deadline => rfl
        | filling => rfl
        | polling | submitting batch | stopped leftover => cases reacted
      rw [pending] at moved
      simp only [FlushSignal.received, List.length_singleton] at moved
      omega
  | look | runDry | lapse | stop | accept | refuse =>
      simp only [FlushSignal.received, List.length_nil] at moved
      omega

namespace Intake

variable {first : Warehouse} {settings : IntakeSettings} {ledger : Ledger}
  {intake next : Intake} {event : Event}

/-! ## What is on its way -/

/-- A batch is routed only from the flush loop. -/
theorem submitting_of_order?
    {batch : Batch}
    (ordered : intake.order? event = some (.route batch)) :
    intake.flush.phase = .submitting batch := by
  cases event with
  | act action =>
      cases action with
      | submit =>
          rw [order?] at ordered
          split at ordered
          · next same =>
              obtain ⟨rfl⟩ := Option.some.inj ordered
              exact same
          · cases ordered
      | close =>
          rw [order?] at ordered
          split at ordered
          · simp at ordered
          · cases ordered
      | _ => simp [order?] at ordered
  | _ => simp [order?] at ordered

theorem offered?_of_mem_bookings
    {batch : Batch}
    (routed : batch ∈ (intake.bookings event).routed) :
    intake.flush.offered? = some batch := by
  rw [bookings] at routed
  split at routed
  · next order ordered =>
      cases order with
      | route other =>
          rw [Warehouse.entry] at routed
          split at routed
          · cases routed
          · rw [List.mem_singleton.mp routed, FlushLoop.offered?, submitting_of_order? ordered]
      | _ => cases routed
  · cases routed

/-- Bounds for everything between the entrance of the queue and the ends of the batches. -/
structure IsBounded (settings : IntakeSettings) (ledger : Ledger) (intake : Intake) : Prop where
  queue : intake.queue.IsWithin (max 1 settings.queueCapacity)
  flush : intake.flush.IsSound settings.batch
  pending : intake.flush.pending.length ≤ max 1 settings.batch.maxSize
  routed : ∀ batch ∈ ledger.books.routed, batch.size ≤ max 1 settings.batch.maxSize
  unrouted : ledger.books.remainder.length + intake.waiting.length ≤
    max 1 settings.queueCapacity + max 1 settings.batch.maxSize

theorem isBounded_ofSources
    (settings : IntakeSettings)
    (workers : Nat)
    (shared : Bool)
    (sources : List Source) :
    IsBounded settings .empty (ofSources settings workers shared sources) where
  queue := Queue.isWithin_new settings.queueCapacity
  flush := FlushLoop.isSound_new settings.batch
  pending := Nat.zero_le _
  routed _ present := absurd present List.not_mem_nil
  unrouted := Nat.zero_le _

/-- While an intake reads, only the queue and the flush loop hold operations. -/
theorem waiting_of_reading (reading : intake.IsReading) :
    intake.waiting = intake.flush.pending ++ intake.queue.items := by
  rw [waiting]
  rcases reading with ready | running
  · rw [ready]
  · rw [running]

/--
Every event but the sending of others keeps the bounds, with the entry it makes.  While consumers
read, nothing is left over, and the queue and the flush loop have their bounds; after that nothing
is taken any more, so what is left over was on its way before.
-/
theorem IsBounded.happen
    (bounded : IsBounded settings ledger intake)
    (accounted : IsAccounted first ledger intake)
    (ownOnly : ¬ event.IsForeignSend)
    (harmless : ¬ event.IsStoreCrash)
    (happened : intake.happen? event = some next) :
    IsBounded settings (ledger ++ intake.entry event) next := by
  have motion : Motion (fun _ => True) intake event next :=
    motion_of_happen? ownOnly (fun _ _ _ => trivial) happened
  have queue := bounded.queue.step motion.queue
  obtain ⟨flush, pending⟩ : next.flush.IsSound settings.batch ∧
      next.flush.pending.length ≤ max 1 settings.batch.maxSize := by
    rcases motion.flush with same | ⟨signal, reacted⟩
    · rw [same]
      exact ⟨bounded.flush, bounded.pending⟩
    · exact ⟨FlushLoop.isSound_react? bounded.flush reacted,
        FlushLoop.length_pending_react? bounded.flush bounded.pending reacted⟩
  refine ⟨queue, flush, pending, fun batch present => ?_, ?_⟩
  · rw [Ledger.books_append, Books.routed_append, books_entry] at present
    rcases List.mem_append.mp present with old | new
    · exact bounded.routed batch old
    · exact (bounded.flush.admitted batch (offered?_of_mem_bookings new)).2
  · by_cases reading : next.IsReading
    · have undrained : next.isDrained = false := by
        rw [isDrained]
        rcases reading with ready | running
        · rw [ready]
        · rw [running]
      have short := queue.short
      rw [((accounted.happen harmless happened).opened undrained).2, waiting_of_reading reading,
        List.length_append, List.length_nil]
      omega
    · have flow := flow_of_happen? (fun undrained => (accounted.opened undrained).1) happened
      have moved := congrArg List.length flow.conserved
      have before := bounded.unrouted
      rw [motion.silent reading, List.append_nil] at moved
      rw [Ledger.books_append, Books.remainder_append, books_entry, List.length_append]
      simp only [List.length_append] at moved
      omega

/-- A run in which only the consumers send keeps the bounds. -/
theorem IsBounded.run
    {events : List Event}
    {later : Ledger}
    {last : Intake}
    (bounded : IsBounded settings ledger intake)
    (accounted : IsAccounted first ledger intake)
    (ownOnly : ∀ event ∈ events, ¬ event.IsForeignSend)
    (unharmed : ∀ event ∈ events, ¬ event.IsStoreCrash)
    (ran : intake.run? events = some (later, last)) :
    IsBounded settings (ledger ++ later) last := by
  refine (run?_induction (fun ledger intake =>
    IsBounded settings ledger intake ∧ IsAccounted first ledger intake) ?_
    ⟨bounded, accounted⟩ ran).1
  intro event present ledger intake next ⟨bounded, accounted⟩ happened
  exact ⟨bounded.happen accounted (ownOnly event present) (unharmed event present) happened,
    accounted.happen (unharmed event present) happened⟩

/-! ## What can be lost -/

/-- The operations written, given up, or dealt with by the last batch. -/
def secured (ledger : Ledger) (intake : Intake) : List Operation :=
  ledger.books.committed.flatMap Batch.operations ++
    ledger.books.letters.flatMap DeadLetter.operations ++
    if intake.warehouse.isOver then ledger.books.remainder else []

/-- Lists of bounded length are together no longer than their number times the bound. -/
private theorem length_flatMap_le {α β : Type}
    {items : List α}
    {parts : α → List β}
    {bound : Nat}
    (short : ∀ item ∈ items, (parts item).length ≤ bound) :
    (items.flatMap parts).length ≤ items.length * bound := by
  induction items with
  | nil => exact Nat.zero_le _
  | cons item rest inductionHypothesis =>
      have first := short item List.mem_cons_self
      have others := inductionHypothesis fun other present =>
        short other (List.mem_cons_of_mem item present)
      rw [List.flatMap_cons, List.length_append, List.length_cons, Nat.succ_mul]
      omega

/-- The operations in the lanes are at most as many as the lanes have room for. -/
theorem length_held_le
    {workers bound : Nat}
    {pool : Pool}
    (within : pool.IsWithinRoom)
    (short : ∀ batch ∈ (List.range workers).flatMap pool.heldBy, batch.size ≤ bound) :
    (((List.range workers).flatMap pool.heldBy).flatMap Batch.operations).length ≤
      workers * (laneRoom + 1) * bound := by
  have batches : ((List.range workers).flatMap pool.heldBy).length ≤
      (List.range workers).length * (laneRoom + 1) :=
    length_flatMap_le fun worker _ => within.length_heldBy worker
  rw [List.length_range] at batches
  exact Nat.le_trans (length_flatMap_le short) (Nat.mul_le_mul_right bound batches)

/--
At every moment of a run without store crashes in which only the consumers send, the
operations that the queue took and that are neither written, nor given up, nor dealt with by
the last batch fit into the queue, into one batch more, and into the lanes of the workers,
each with its buffer and the batch it is writing.
-/
theorem exposes_at_most
    {workers : Nat}
    {shared : Bool}
    {sources : List Source}
    {events : List Event}
    {last : Intake}
    (staffed : 0 < workers)
    (unharmed : ∀ event ∈ events, ¬ event.IsStoreCrash)
    (ownOnly : ∀ event ∈ events, ¬ event.IsForeignSend)
    (ran : (ofSources settings workers shared sources).run? events = some (ledger, last)) :
    ledger.late = [] ∧
      ∃ exposed, ledger.accepted.Perm (secured ledger last ++ exposed) ∧
        exposed.length ≤ max 1 settings.queueCapacity +
          max 1 settings.batch.maxSize * (1 + workers * (laneRoom + 1)) := by
  have start := isAccounted_ofSources settings workers shared sources
  have accounted : IsAccounted _ ledger last := start.run unharmed ran
  have bounded : IsBounded settings ledger last :=
    (isBounded_ofSources settings workers shared sources).run start ownOnly unharmed ran
  obtain ⟨orders, ranOrders, calmOrders⟩ := accounted.ran
  have balanced : last.warehouse.IsBalanced workers settings.deadLetterCapacity ledger.books :=
    (Warehouse.isBalanced_new workers shared settings.retry
      settings.deadLetterCapacity).run ranOrders
  obtain ⟨-, kept⟩ := (Warehouse.isCalm_new workers shared settings.retry
    settings.deadLetterCapacity).run calmOrders ranOrders
  have within := Warehouse.isWithinRoom_of_run? (Warehouse.isWithinRoom_new workers shared
    settings.retry settings.deadLetterCapacity) ranOrders
  have held := length_held_le within fun batch present =>
    bounded.routed batch ((balanced.perm_routed staffed).symm.subset
      (List.mem_append_right _ present))
  have unrouted := bounded.unrouted
  refine ⟨late_of_run? ownOnly ran,
    ((List.range workers).flatMap last.warehouse.pool.heldBy).flatMap Batch.operations ++
      (if last.warehouse.isOver then [] else ledger.books.remainder) ++ last.waiting, ?_, ?_⟩
  · rw [accounted.conserved, secured]
    have routed := balanced.perm_operations_held staffed kept
    refine ((routed.append_right _).append_right _).trans ?_
    split
    · simp only [List.append_nil, List.append_assoc]
      exact ((List.perm_append_comm_assoc _ _ _).append_left _).append_left _
    · simp only [List.append_nil, List.append_assoc]
      exact .refl _
  · rw [Nat.mul_add, Nat.mul_one, Nat.mul_comm (max 1 settings.batch.maxSize)]
    simp only [List.length_append]
    split
    · rw [List.length_nil]
      omega
    · omega

/-- A consumer reads two operations; one is written when the other waits in the queue. -/
def underWay : List Event :=
  [.start, .act (.consume 0 .join), .callBroker 0 (.publish "s" [("op", "create_fuzzer")]),
    .callBroker 0 (.publish "s" [("op", "create_fuzzer")]), .act (.consume 0 .read),
    .act (.consume 0 .read), .act (.enqueue 0), .act (.consume 0 .acknowledge),
    .act (.enqueue 0), .act .look, .act .receive, .act .submit, .act (.work (.start 0))]

/-- Both operations under way are exposed, one of them acknowledged. -/
theorem exposes_at_most_underWay :
    let sources : List Source := [⟨"main", .empty, .new oneByOne.consumer⟩]
    ∃ ledger last, (ofSources oneByOne 1 false sources).run? underWay = some (ledger, last) ∧
      (∀ event ∈ underWay, ¬ event.IsStoreCrash) ∧
      (∀ event ∈ underWay, ¬ event.IsForeignSend) ∧
      ledger.accepted.length = 2 ∧
      ∃ exposed, ledger.accepted.Perm (secured ledger last ++ exposed) ∧
        exposed.length = 2 ∧ exposed.length ≤ 2 + 1 * (1 + 1 * (laneRoom + 1)) := by
  intro sources
  have evaluated : ((ofSources oneByOne 1 false sources).run? underWay).map (fun reached =>
        (reached.1.accepted.length, (secured reached.1 reached.2).length)) = some (2, 0) := by
    decide +kernel
  obtain ⟨⟨ledger, last⟩, ran, counts⟩ := Option.map_eq_some_iff.mp evaluated
  obtain ⟨accepted, nothingSecured⟩ := Prod.mk.inj counts
  have unharmed : ∀ event ∈ underWay, ¬ event.IsStoreCrash := by
    simp [underWay, Event.IsStoreCrash]
  have ownOnly : ∀ event ∈ underWay, ¬ event.IsForeignSend := by
    simp [underWay, Event.IsForeignSend]
  obtain ⟨-, exposed, same, bound⟩ := exposes_at_most Nat.one_pos unharmed ownOnly ran
  refine ⟨ledger, last, ran, unharmed, ownOnly, accepted, exposed, same, ?_, bound⟩
  rw [← accepted, same.length_eq, List.length_append, nothingSecured, Nat.zero_add]

end Intake
end FuzzIntake
