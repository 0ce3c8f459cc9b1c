import FuzzIntake.Proofs.History
import FuzzIntake.Proofs.Lane.Treatment

/-!
# How often and when batches are tried

Every lane treats one batch after another.  It tries the batch until the store writes it, the
attempts of the schedule are used up or the pool is cancelled, with exactly the pause of the
schedule between one failure and the next attempt.  Once the pool is cancelled there are neither
further attempts nor pauses.
-/

namespace FuzzIntake

/-! ## What an event does -/

namespace Warehouse

variable {warehouse next last : Warehouse} {now : Instant} {event : Event} {news : List Record}
  {told : List (Instant × Record)}

/-- What an event other than a crash does to the lanes, with what is told of it. -/
inductive Advance (warehouse : Warehouse) (now : Instant) (next : Warehouse) :
    List Record → Prop
  /-- One lane makes a stride. -/
  | strides {worker : Nat} {news : List Record} :
      Pool.Strides warehouse.pool now worker news next.pool → Advance warehouse now next news
  /-- All lanes go on as they do. -/
  | stays :
      warehouse.pool.Posts [] next.pool → next.pool.phases = warehouse.pool.phases →
      Advance warehouse now next []
  /-- The pool is cancelled. -/
  | cancels :
      next.pool = warehouse.pool.cancel → Advance warehouse now next [.cancelled]

/-- Nothing is told of an event that leaves the pool as it is. -/
theorem advance_of_pool
    (same : next.pool = warehouse.pool)
    (now : Instant) :
    Advance warehouse now next [] :=
  .stays (same ▸ ⟨rfl, rfl, rfl, rfl⟩) (by rw [same])

/-- A batch that is routed waits in its lane, unless the lane is dead. -/
theorem advance_of_route?
    {pool : Pool}
    {batch : Batch}
    (alive : .dead ∉ warehouse.pool.phases)
    (routed : warehouse.pool.route? batch = some pool)
    (now : Instant) :
    Advance warehouse now { warehouse with pool := pool }
      ((warehouse.entry (.route batch)).outcomes.map .ended) := by
  rw [entry]
  cases Pool.route_of_route? routed with
  | blank empty =>
      rw [if_pos empty]
      exact advance_of_pool rfl now
  | nowhere filled _ unrefused =>
      rw [filled, unrefused]
      exact advance_of_pool rfl now
  | refuse _ found _ =>
      exact absurd (List.mem_map_of_mem (List.mem_of_getElem? found)) alive
  | wait filled found _ _ unrefused =>
      rw [filled, unrefused]
      exact .stays ⟨rfl, rfl, rfl, rfl⟩ (Pool.phases_of_buffer found _)

/-- Every event of an instant is an advance, unless it is a crash. -/
theorem advance_of_happen?
    (calm : warehouse.IsCalm)
    (alive : .dead ∉ warehouse.pool.phases)
    (present : event.isAt now = true)
    (happened : warehouse.happen? event = some next) :
    Advance warehouse now next (warehouse.records next event) := by
  cases event with
  | act instant action =>
      obtain rfl := beq_iff_eq.mp present
      cases action with
      | start worker =>
          obtain ⟨store, pool, -, begun, rfl⟩ := calm.exists_of_start? happened
          obtain ⟨batch, number, lane, ready, strides⟩ := Pool.strides_of_start? begun
          rw [records, ready]
          exact .strides strides
      | finish worker =>
          obtain ⟨store, batch, number, pool, found, answering, done, rfl⟩ :=
            exists_of_finish? happened
          rw [records, found, answering]
          exact .strides (Pool.strides_of_finish? answering done)
      | abandon worker =>
          obtain ⟨pool, abandoned, rfl⟩ := Option.map_eq_some_iff.mp happened
          exact .strides (Pool.strides_of_abandon? abandoned)
      | drain => exact advance_of_pool (pool_of_drain? happened) instant
      | settle => exact advance_of_pool (pool_of_settle? happened) instant
  | route batch =>
      obtain ⟨-, pool, routed, rfl⟩ := happen?_route_eq_some_iff.mp happened
      exact advance_of_route? alive routed now
  | cancel =>
      obtain rfl := Option.some.inj happened
      exact .cancels rfl
  | shutdown leftover =>
      obtain ⟨-, reached⟩ := happen?_shutdown_eq_some_iff.mp happened
      exact advance_of_pool (reached ▸ rfl) now
  | touchStore _ _ | delayStore _ _ | crashStore _ _ =>
      exact advance_of_pool (Option.some.inj happened ▸ rfl) now

/-! ## In virtual time -/

variable {later : List (Instant × Record)}

theorem toldOf_append (worker : Nat) (told later : List (Instant × Record)) :
    toldOf worker (told ++ later) = toldOf worker told ++ toldOf worker later :=
  List.filter_append _ _

theorem endings_append (told later : List (Instant × Record)) :
    endings (told ++ later) = endings told ++ endings later :=
  List.filterMap_append

theorem hasCancelled_append (told later : List (Instant × Record)) :
    HasCancelled (told ++ later) ↔ HasCancelled told ∨ HasCancelled later := by
  unfold HasCancelled
  simp only [List.mem_append, exists_or]

/-- Records that each may be told now may be told one after another, as long as the pool is not
cancelled between them. -/
theorem heeds_append
    {most : Nat}
    (heeds : History.Each (fun before entry => entry.2.Heeds most (HasCancelled before)) told)
    (noneCancelled : ¬ HasCancelled later)
    (fit : ∀ entry ∈ later, entry.2.Heeds most (HasCancelled told)) :
    History.Each (fun before entry => entry.2.Heeds most (HasCancelled before))
      (told ++ later) := by
  apply heeds.append
  rintro before entry after rfl
  have same : HasCancelled (told ++ before) = HasCancelled told := by
    rw [hasCancelled_append] at noneCancelled ⊢
    exact propext (or_iff_left fun early => noneCancelled (.inl early))
  rw [same]
  exact fit entry (by simp)

/-- What was told of a worker whose lane is in a phase at an instant: disciplined treatments of one
batch after another, and then what agrees with the phase. -/
def Treats (retry : RetrySchedule) (worker : Nat) (now : Instant)
    (told : List (Instant × Record)) (phase : LanePhase) : Prop :=
  ∃ (treatments : List Treatment) (current : List (Instant × Record)),
    toldOf worker told = treatments.flatMap (Treatment.records worker) ++ current ∧
      (∀ treatment ∈ treatments, treatment.IsDisciplined retry) ∧
      phase.Pursues retry worker now current

/-- A warehouse at an instant, with what has been told so far: the lanes have stores, none of which
crashes, and what was told of every worker agrees with what its lane is doing. -/
structure IsDrilled (retry : RetrySchedule) (workers capacity : Nat)
    (told : List (Instant × Record)) (now : Instant) (warehouse : Warehouse) : Prop where
  schedule : warehouse.pool.retry = retry
  calm : warehouse.IsCalm
  length_phases : warehouse.pool.phases.length = workers
  stocked : ∀ worker < workers, warehouse.storeOf worker < warehouse.stores.length
  cancelled : warehouse.pool.cancelled = true ↔ HasCancelled told
  heeds : History.Each (fun before entry => entry.2.Heeds retry.most (HasCancelled before)) told
  treats : ∀ worker phase, warehouse.pool.phases[worker]? = some phase →
    Treats retry worker now told phase
  committed : warehouse.pool.tally.committed = (endings told).countP Outcome.isCommitted
  deadLetters : warehouse.pool.deadLetters =
    ((endings told).filterMap Outcome.letter?).foldl DeadLetters.push (DeadLetters.new capacity)

variable {retry : RetrySchedule} {workers capacity : Nat}

theorem isDrilled_new
    (workers : Nat)
    (shared : Bool)
    (retry : RetrySchedule)
    (capacity : Nat)
    (now : Instant) :
    (new workers shared retry capacity).IsDrilled retry workers capacity [] now where
  schedule := rfl
  calm := isCalm_new workers shared retry capacity
  length_phases := by simp [new, Pool.new, Pool.phases]
  stocked worker inside := by
    cases shared with
    | false => simpa [new, storeOf] using inside
    | true =>
        simp only [new, storeOf, if_true, List.length_replicate]
        omega
  cancelled := by simp [new, Pool.new, HasCancelled]
  heeds := History.each_nil _
  treats worker phase found := by
    have idle : phase = .idle := by
      rw [Pool.phases, List.getElem?_map] at found
      obtain ⟨lane, placed, rfl⟩ := Option.map_eq_some_iff.mp found
      rw [List.eq_of_mem_replicate (List.mem_of_getElem? placed)]
      rfl
    exact ⟨[], [], rfl, by simp, idle ▸ rfl⟩
  committed := rfl
  deadLetters := rfl

/-- No lane of a warehouse in order is dead. -/
theorem IsDrilled.alive (drilled : warehouse.IsDrilled retry workers capacity told now) :
    .dead ∉ warehouse.pool.phases := by
  intro present
  obtain ⟨worker, found⟩ := List.mem_iff_getElem?.mp present
  obtain ⟨treatments, current, -, -, pursues⟩ := drilled.treats worker .dead found
  exact pursues

/-- A stride goes on with the treatment of the batch at hand, or ends it. -/
theorem Treats.stride
    {pool : Pool}
    {worker : Nat}
    {phase later : LanePhase}
    (stride : Pool.Stride pool now worker phase news later)
    (treats : Treats pool.retry worker now told phase) :
    Treats pool.retry worker now (told ++ news.map (now, ·)) later := by
  obtain ⟨treatments, current, split, disciplined, pursues⟩ := treats
  rw [Treats, toldOf_append, split]
  rcases stride.pursues pursues with ⟨treatment, proper, whole, idle⟩ | goesOn
  · refine ⟨treatments ++ [treatment], [], ?_, ?_, idle⟩
    · rw [List.append_assoc, whole, List.flatMap_append, List.flatMap_singleton,
        List.append_nil]
    · intro other present
      rcases List.mem_append.mp present with earlier | now
      · exact disciplined other earlier
      · rwa [List.mem_singleton.mp now]
  · exact ⟨treatments, _, List.append_assoc _ _ _, disciplined, goesOn⟩

/-- A lane makes a stride and tells of it. -/
theorem IsDrilled.stride
    {worker : Nat}
    (drilled : warehouse.IsDrilled retry workers capacity told now)
    (strides : warehouse.pool.Strides now worker news next.pool)
    (calm : next.IsCalm)
    (stores : next.stores.length = warehouse.stores.length ∧ next.shared = warehouse.shared) :
    next.IsDrilled retry workers capacity (told ++ news.map (now, ·)) now := by
  obtain ⟨posts, phase, later, found, set, stride⟩ := strides
  obtain rfl := drilled.schedule
  have treats := drilled.treats worker phase found
  have silent : ¬ HasCancelled (news.map (now, ·)) := by
    rintro ⟨instant, present⟩
    obtain ⟨record, told, same⟩ := List.mem_map.mp present
    obtain ⟨-, rfl⟩ := Prod.mk.inj same
    exact stride.cancelled_not_mem told
  have outcomes : endings (news.map (now, ·)) = news.filterMap Record.outcome? := by
    rw [endings, List.filterMap_map]
    rfl
  constructor
  · exact posts.retry
  · exact calm
  · rw [set, List.length_set, drilled.length_phases]
  · intro other inside
    rw [storeOf, stores.1, stores.2]
    exact drilled.stocked other inside
  · rw [posts.cancelled, drilled.cancelled, hasCancelled_append, or_iff_left silent]
  · apply heeds_append drilled.heeds silent
    intro entry present
    obtain ⟨record, told, rfl⟩ := List.mem_map.mp present
    obtain ⟨treatments, current, -, -, pursues⟩ := treats
    rw [← propext drilled.cancelled]
    exact stride.heeds pursues record told
  · intro other placed at_
    rw [set] at at_
    by_cases same : worker = other
    · subst same
      rw [List.getElem?_set_self (List.getElem?_eq_some_iff.mp found).1] at at_
      obtain rfl := Option.some.inj at_
      exact .stride stride treats
    · rw [List.getElem?_set_ne same] at at_
      obtain ⟨before, hand, split, proper, pursues⟩ := drilled.treats other placed at_
      refine ⟨before, hand, ?_, proper, pursues⟩
      rw [toldOf_append, stride.toldOf_ne (Ne.symm same), List.append_nil, split]
  · rw [posts.committed, drilled.committed, endings_append, List.countP_append, outcomes]
  · rw [posts.deadLetters, drilled.deadLetters, endings_append, List.filterMap_append,
      List.foldl_append, outcomes]

/-- Nothing is told of any treatment, and all lanes go on as they do. -/
theorem IsDrilled.keep
    {instant : Instant}
    (drilled : warehouse.IsDrilled retry workers capacity told now)
    (calm : next.IsCalm)
    (stores : next.stores.length = warehouse.stores.length ∧ next.shared = warehouse.shared)
    (posts : { warehouse.pool with cancelled := next.pool.cancelled }.Posts [] next.pool)
    (phases : next.pool.phases = warehouse.pool.phases)
    (silent : ∀ entry ∈ later, entry.2.worker? = none ∧ entry.2.outcome? = none)
    (cancelled : next.pool.cancelled = true ↔ HasCancelled (told ++ later))
    (heeds : History.Each (fun before entry => entry.2.Heeds retry.most (HasCancelled before))
      (told ++ later))
    (onTime : ∀ worker (phase : LanePhase) current, warehouse.pool.phases[worker]? = some phase →
      phase.Pursues retry worker now current → phase.Pursues retry worker instant current) :
    next.IsDrilled retry workers capacity (told ++ later) instant := by
  have outcomes : endings (told ++ later) = endings told := by
    rw [endings_append]
    refine (congrArg _ (List.filterMap_eq_nil_iff.mpr ?_)).trans (List.append_nil _)
    exact fun entry present => (silent entry present).2
  constructor
  · rw [posts.retry]
    exact drilled.schedule
  · exact calm
  · rw [phases, drilled.length_phases]
  · intro other inside
    rw [storeOf, stores.1, stores.2]
    exact drilled.stocked other inside
  · exact cancelled
  · exact heeds
  · intro worker phase found
    rw [phases] at found
    obtain ⟨treatments, current, split, disciplined, pursues⟩ := drilled.treats worker phase found
    refine ⟨treatments, current, ?_, disciplined, onTime worker phase current found pursues⟩
    have nothing : toldOf worker later = [] := by
      refine List.filter_eq_nil_iff.mpr fun entry present => ?_
      rw [(silent entry present).1]
      simp
    rw [toldOf_append, nothing, List.append_nil, split]
  · rw [outcomes, posts.committed]
    exact drilled.committed
  · rw [outcomes, posts.deadLetters]
    exact drilled.deadLetters

/-- Every event of an instant other than a crash is in order. -/
theorem IsDrilled.happen
    (drilled : warehouse.IsDrilled retry workers capacity told now)
    (harmless : ¬ event.IsCrash)
    (present : event.isAt now = true)
    (happened : warehouse.happen? event = some next) :
    next.IsDrilled retry workers capacity
      (told ++ (warehouse.records next event).map (now, ·)) now := by
  have calm := (drilled.calm.happen harmless happened).1
  have stores := stores_of_happen? happened
  have advance := advance_of_happen? drilled.calm drilled.alive present happened
  generalize warehouse.records next event = news at advance
  cases advance with
  | strides strides => exact drilled.stride strides calm stores
  | stays posts phases =>
      have same : told ++ ([] : List Record).map (now, ·) = told := List.append_nil told
      refine drilled.keep calm stores ⟨posts.1, rfl, posts.3, posts.4⟩ phases (by simp) ?_ ?_
        fun _ _ _ _ => id
      · rw [posts.cancelled, same]
        exact drilled.cancelled
      · rw [same]
        exact drilled.heeds
  | cancels cancelled =>
      refine drilled.keep calm stores (cancelled ▸ ⟨rfl, rfl, rfl, rfl⟩)
        (by rw [cancelled]; rfl) (by simp [Record.worker?, Record.outcome?]) ?_ ?_
        fun _ _ _ _ => id
      · rw [cancelled, hasCancelled_append]
        exact iff_of_true rfl (.inr ⟨now, List.mem_singleton_self _⟩)
      · exact drilled.heeds.concat trivial

/-! ### Time goes on -/

/-- Nobody pauses at rest once the pool is cancelled, and nobody's pause is over. -/
theorem pausing_of_isAtRest
    {worker number : Nat}
    {batch : Batch}
    {error : BatchFailure}
    {resumeAt : Instant}
    {store : SwitchedStore}
    (resting : warehouse.isAtRest now = true)
    (stocked : warehouse.store? worker = some store)
    (found : warehouse.pool.phases[worker]? = some (.pausing batch number error resumeAt)) :
    warehouse.pool.cancelled = false ∧ now < resumeAt := by
  rw [Pool.phases, List.getElem?_map] at found
  obtain ⟨⟨buffer, phase⟩, placed, rfl⟩ := Option.map_eq_some_iff.mp found
  have inside := (List.getElem?_eq_some_iff.mp placed).1
  have idle : ∀ action ∈ [Action.abandon worker, .finish worker, .start worker],
      warehouse.act? now action = none := by
    intro action present
    have listed : action ∈ warehouse.actions :=
      List.mem_append_left _ (List.mem_flatMap.mpr ⟨worker, List.mem_range.mpr inside, present⟩)
    exact Option.isNone_iff_eq_none.mp (List.all_eq_true.mp resting action listed)
  have abandons := idle (.abandon worker) (by simp)
  have starts := idle (.start worker) (by simp)
  cases going : warehouse.pool.cancelled with
  | true => simp [act?, Pool.abandon?, placed, going] at abandons
  | false =>
      refine ⟨rfl, Nat.lt_of_not_le fun passed => ?_⟩
      have ready : warehouse.pool.next? worker now =
          some (batch, number + 1, ⟨buffer, .pausing batch number error resumeAt⟩) := by
        rw [Pool.next?, placed]
        exact if_pos ⟨passed, by rw [going]; rfl⟩
      rw [act?, start?, stocked, Option.bind_some, Pool.crash?, Pool.start?, ready] at starts
      split at starts
      · cases starts
      · cases starts

/-- Every lane of a warehouse in order has a store. -/
theorem IsDrilled.exists_store
    {worker : Nat}
    {phase : LanePhase}
    (drilled : warehouse.IsDrilled retry workers capacity told now)
    (found : warehouse.pool.phases[worker]? = some phase) :
    ∃ store, warehouse.store? worker = some store := by
  have inside := (List.getElem?_eq_some_iff.mp found).1
  rw [drilled.length_phases] at inside
  exact ⟨_, List.getElem?_eq_getElem (drilled.stocked worker inside)⟩

/-- A lane that pauses has an alarm for the end of its pause. -/
theorem resumeAt_mem_alarms
    {worker number : Nat}
    {batch : Batch}
    {error : BatchFailure}
    {resumeAt : Instant}
    (found : warehouse.pool.phases[worker]? = some (.pausing batch number error resumeAt)) :
    resumeAt ∈ warehouse.alarms := by
  rw [Pool.phases, List.getElem?_map] at found
  obtain ⟨lane, placed, phase⟩ := Option.map_eq_some_iff.mp found
  refine List.mem_append_left _ (List.mem_filterMap.mpr ⟨lane, List.mem_of_getElem? placed, ?_⟩)
  rw [phase]

/-- Only lanes that pause are told to. -/
theorem exists_of_mem_pauses
    {record : Record}
    (present : record ∈ warehouse.pauses) :
    ∃ worker batch number error resumeAt, record = .pausing worker ∧
      warehouse.pool.phases[worker]? = some (.pausing batch number error resumeAt) := by
  obtain ⟨worker, pauses, rfl⟩ := List.mem_map.mp present
  have isPausing := (List.mem_filter.mp pauses).2
  unfold Pool.isPausing at isPausing
  cases placed : warehouse.pool.lanes[worker]? with
  | none => simp [placed] at isPausing
  | some lane =>
      rw [placed] at isPausing
      cases phase : lane.phase with
      | pausing batch number error resumeAt =>
          refine ⟨worker, batch, number, error, resumeAt, rfl, ?_⟩
          rw [Pool.phases, List.getElem?_map, placed, Option.map_some, phase]
      | idle | applying _ _ _ | dead => simp [phase, LanePhase.isPause] at isPausing

/-- While time goes on nobody's pause ends. -/
theorem IsDrilled.wait
    {instant : Instant}
    (drilled : warehouse.IsDrilled retry workers capacity told now)
    (resting : warehouse.isAtRest now = true)
    (untilAlarm : ∀ alarm ∈ warehouse.alarms, instant ≤ alarm) :
    warehouse.IsDrilled retry workers capacity
      (told ++ warehouse.pauses.map (now, ·)) instant := by
  have going : ∀ record ∈ warehouse.pauses,
      (∃ worker, record = .pausing worker) ∧ ¬ HasCancelled told := by
    intro record present
    obtain ⟨worker, batch, number, error, resumeAt, rfl, found⟩ := exists_of_mem_pauses present
    obtain ⟨store, stocked⟩ := drilled.exists_store found
    have still := (pausing_of_isAtRest resting stocked found).1
    refine ⟨⟨worker, rfl⟩, ?_⟩
    rw [← drilled.cancelled, still]
    exact Bool.false_ne_true
  have silent : ¬ HasCancelled (warehouse.pauses.map (now, ·)) := by
    rintro ⟨at_, present⟩
    obtain ⟨record, told, same⟩ := List.mem_map.mp present
    obtain ⟨⟨worker, rfl⟩, -⟩ := going record told
    cases same
  refine drilled.keep drilled.calm ⟨rfl, rfl⟩ ⟨rfl, rfl, rfl, rfl⟩ rfl ?_ ?_ ?_ ?_
  · intro entry present
    obtain ⟨record, told, rfl⟩ := List.mem_map.mp present
    obtain ⟨⟨worker, rfl⟩, -⟩ := going record told
    exact ⟨rfl, rfl⟩
  · rw [hasCancelled_append, or_iff_left silent]
    exact drilled.cancelled
  · apply heeds_append drilled.heeds silent
    intro entry present
    obtain ⟨record, told, rfl⟩ := List.mem_map.mp present
    obtain ⟨⟨worker, rfl⟩, still⟩ := going record told
    exact still
  · intro worker phase current found pursues
    cases phase with
    | pausing batch number error resumeAt =>
        obtain ⟨trials, last, permits, failed, counted, -, split⟩ := pursues
        exact ⟨trials, last, permits, failed, counted,
          untilAlarm resumeAt (resumeAt_mem_alarms found), split⟩
    | idle | applying _ _ _ | dead => exact pursues

/-! ## Runs -/

/-- What one turn keeps, with what is told of it, a whole run keeps. -/
theorem runInTime?_induction
    (holds : List (Instant × Record) → Instant → Warehouse → Prop)
    {turns : List Turn}
    (step : ∀ turn ∈ turns, ∀ {told now warehouse news instant next}, holds told now warehouse →
      turn? now warehouse turn = some (news, instant, next) →
      holds (told ++ news.map (now, ·)) instant next)
    {first last : Warehouse}
    {start now : Instant}
    {earlier later : List (Instant × Record)}
    (begun : holds earlier start first)
    (ran : runInTime? start first turns = some (later, now, last)) :
    holds (earlier ++ later) now last := by
  induction turns generalizing first start earlier later with
  | nil =>
      obtain ⟨rfl, rfl, rfl⟩ : [] = later ∧ start = now ∧ first = last := by
        simpa [runInTime?] using ran
      rwa [List.append_nil]
  | cons turn rest inductionHypothesis =>
      obtain ⟨⟨news, instant, next⟩, turned, remains⟩ := Option.bind_eq_some_iff.mp ran
      obtain ⟨⟨told, reached⟩, ranOn, same⟩ := Option.map_eq_some_iff.mp remains
      obtain ⟨rfl, rfl⟩ := Prod.mk.inj same
      rw [← List.append_assoc]
      exact inductionHypothesis
        (fun other present => step other (List.mem_cons_of_mem turn present))
        (step turn List.mem_cons_self begun turned) ranOn

/-- Every turn other than a crash is in order. -/
theorem IsDrilled.turn
    {turn : Turn}
    {instant : Instant}
    (drilled : warehouse.IsDrilled retry workers capacity told now)
    (harmless : ∀ event, turn = .event event → ¬ event.IsCrash)
    (turned : turn? now warehouse turn = some (news, instant, next)) :
    next.IsDrilled retry workers capacity (told ++ news.map (now, ·)) instant := by
  cases turn with
  | event event =>
      obtain ⟨present, turned⟩ := Option.ite_none_right_eq_some.mp turned
      obtain ⟨reached, happened, same⟩ := Option.map_eq_some_iff.mp turned
      obtain ⟨rfl, rfl, rfl⟩ : warehouse.records reached event = news ∧ now = instant ∧
          reached = next := by simpa using same
      exact drilled.happen (harmless event rfl) present happened
  | wait until_ =>
      obtain ⟨⟨forward, resting, untilAlarm⟩, turned⟩ := Option.ite_none_right_eq_some.mp turned
      obtain ⟨rfl, rfl, rfl⟩ : warehouse.pauses = news ∧ until_ = instant ∧
          warehouse = next := by simpa using turned
      exact drilled.wait resting (by simpa using untilAlarm)

/-- The event of a turn, if it is not a wait. -/
def Turn.event? : Turn → Option Event
  | .event event => some event
  | .wait _ => none

/-- A run in virtual time is a run. -/
theorem exists_run?_of_runInTime?
    {turns : List Turn}
    {start : Instant}
    (ran : warehouse.runInTime? start turns = some (told, now, last)) :
    ∃ books, warehouse.run? (turns.filterMap Turn.event?) = some (books, last) := by
  induction turns generalizing warehouse start told with
  | nil =>
      obtain ⟨-, -, rfl⟩ : [] = told ∧ start = now ∧ warehouse = last := by
        simpa [runInTime?] using ran
      exact ⟨_, rfl⟩
  | cons turn rest inductionHypothesis =>
      obtain ⟨⟨news, instant, next⟩, turned, remains⟩ := Option.bind_eq_some_iff.mp ran
      obtain ⟨⟨later, reached⟩, ranOn, same⟩ := Option.map_eq_some_iff.mp remains
      obtain ⟨rfl, rfl⟩ := Prod.mk.inj same
      obtain ⟨books, through⟩ := inductionHypothesis ranOn
      cases turn with
      | event event =>
          obtain ⟨-, turned⟩ := Option.ite_none_right_eq_some.mp turned
          obtain ⟨other, happened, same⟩ := Option.map_eq_some_iff.mp turned
          obtain ⟨-, -, rfl⟩ : warehouse.records other event = news ∧ start = instant ∧
              other = next := by simpa using same
          refine ⟨warehouse.entry event ++ books, ?_⟩
          have own : Turn.event? (.event event) = some event := rfl
          rw [List.filterMap_cons_some own, run?, happened, Option.bind_some, through]
          rfl
      | wait until_ =>
          obtain ⟨-, turned⟩ := Option.ite_none_right_eq_some.mp turned
          obtain ⟨-, -, rfl⟩ : warehouse.pauses = news ∧ until_ = instant ∧
              warehouse = next := by simpa using turned
          exact ⟨books, through⟩

/-- A warehouse in virtual time without crashes, from one that has taken nothing yet. -/
theorem isDrilled_of_runInTime?
    {shared : Bool}
    {turns : List Turn}
    {start : Instant}
    (harmless : ∀ event, .event event ∈ turns → ¬ event.IsCrash)
    (ran : (new workers shared retry capacity).runInTime? start turns = some (told, now, last)) :
    last.IsDrilled retry workers capacity told now := by
  have drilled := runInTime?_induction (IsDrilled retry workers capacity)
    (fun turn present _ _ _ _ _ _ drilled turned =>
      drilled.turn (fun event same => harmless event (same ▸ present)) turned)
    (isDrilled_new workers shared retry capacity start) ran
  exact drilled

/-- The lanes of a warehouse that has been closed are idle. -/
theorem idle_of_isOver
    {shared : Bool}
    {turns : List Turn}
    {start : Instant}
    {worker : Nat}
    {phase : LanePhase}
    (ran : (new workers shared retry capacity).runInTime? start turns = some (told, now, last))
    (finished : last.isOver = true)
    (found : last.pool.phases[worker]? = some phase) :
    phase = .idle ∨ phase = .dead := by
  obtain ⟨books, through⟩ := exists_run?_of_runInTime? ran
  have closing := ((isBalanced_new workers shared retry capacity).run through).closing
  have quiet := isQuiet_of_isOver closing finished
  rw [Pool.phases, List.getElem?_map] at found
  obtain ⟨lane, placed, rfl⟩ := Option.map_eq_some_iff.mp found
  have resting := List.all_eq_true.mp quiet lane (List.mem_of_getElem? placed)
  unfold Pool.isResting at resting
  cases phase : lane.phase with
  | idle => exact .inl rfl
  | dead => exact .inr rfl
  | applying _ _ _ | pausing _ _ _ _ => simp [phase] at resting

/--
In virtual time, whatever the stores answer and whenever the pool is cancelled: every lane treats
one batch after another, and has treated all its batches once the warehouse is closed.  A batch has
at least one attempt and at most those of the schedule; all but the last one failed; exactly the
pause lies between a failure and the next attempt; and the batch was written if the last attempt
succeeded, and otherwise given up after these attempts with the words of the last error.  Once the
pool is cancelled only first attempts start and no pause begins or goes on, and before that a batch
is given up only after all attempts of the schedule.  The ends of the batches are those in the
counter of batches written and in the dead letters.
-/
theorem retries_with_discipline
    {shared : Bool}
    {turns : List Turn}
    {start : Instant}
    (harmless : ∀ event, .event event ∈ turns → ¬ event.IsCrash)
    (ran : (new workers shared retry capacity).runInTime? start turns = some (told, now, last)) :
    (∀ worker < workers, ∃ (treatments : List Treatment) (current : List (Instant × Record)),
      toldOf worker told = treatments.flatMap (Treatment.records worker) ++ current ∧
        (∀ treatment ∈ treatments, treatment.IsDisciplined retry) ∧
        (∃ phase, last.pool.phases[worker]? = some phase ∧
          phase.Pursues retry worker now current) ∧
        (last.isOver = true → current = [])) ∧
      (∀ before instant record after, told = before ++ (instant, record) :: after →
        record.Heeds retry.most (HasCancelled before)) ∧
      last.pool.tally.committed = (endings told).countP Outcome.isCommitted ∧
      last.pool.deadLetters = ((endings told).filterMap Outcome.letter?).foldl DeadLetters.push
        (DeadLetters.new capacity) := by
  have drilled := isDrilled_of_runInTime? harmless ran
  refine ⟨?_, fun before _ _ after split => drilled.heeds before _ after split,
    drilled.committed, drilled.deadLetters⟩
  intro worker inside
  rw [← drilled.length_phases] at inside
  have found := List.getElem?_eq_getElem inside
  obtain ⟨treatments, current, split, disciplined, pursues⟩ := drilled.treats worker _ found
  refine ⟨treatments, current, split, disciplined, ⟨_, found, pursues⟩, fun finished => ?_⟩
  rcases idle_of_isOver ran finished found with idle | dead
  · rwa [idle] at pursues
  · rw [dead] at pursues
    exact pursues.elim

/-- The attempts that were started, each with its instant and its number. -/
def starts (told : List (Instant × Record)) : List (Instant × Nat) :=
  told.filterMap fun entry =>
    match entry.2 with
    | .started _ _ number => some (entry.1, number)
    | _ => none

/-- A batch fails twice and is written by the third attempt; the next one is given up when the pool
is cancelled during its first pause. -/
def cutShort : List Turn :=
  [.event (.touchStore 0 (LocalStore.injectFailures · .deletes 2)),
    .event (.route ⟨[.delete "a"]⟩), .event (.act 0 (.start 0)), .event (.act 0 (.finish 0)),
    .wait 10, .event (.act 10 (.start 0)), .event (.act 10 (.finish 0)),
    .wait 15, .wait 20, .event (.act 20 (.start 0)), .event (.act 20 (.finish 0)),
    .event (.touchStore 0 (LocalStore.injectFailures · .deletes 2)),
    .event (.route ⟨[.delete "b"]⟩), .event (.act 20 (.start 0)), .event (.act 20 (.finish 0)),
    .wait 25, .event .cancel, .event (.act 25 (.abandon 0)), .event (.shutdown []),
    .event (.act 25 .drain)]

/-- With three attempts and the pause ten, the attempts at the first batch start at intervals of
ten, and the second batch has one. -/
theorem retries_with_discipline_cutShort :
    ∃ told now last, (new 1 false ⟨3, ⟨10⟩⟩ 4).runInTime? 0 cutShort = some (told, now, last) ∧
      (∀ event, .event event ∈ cutShort → ¬ event.IsCrash) ∧
      starts told = [(0, 1), (10, 2), (20, 3), (20, 1)] ∧ now = 25 ∧
      last.pool.tally.committed = 1 ∧
      last.pool.deadLetters.letters.map DeadLetter.attempts = [1] ∧
      ∃ treatments : List Treatment,
        toldOf 0 told = treatments.flatMap (Treatment.records 0) ∧
          ∀ treatment ∈ treatments, treatment.IsDisciplined ⟨3, ⟨10⟩⟩ := by
  have evaluated : ((new 1 false ⟨3, ⟨10⟩⟩ 4).runInTime? 0 cutShort).map (fun reached =>
        (starts reached.1, reached.2.1, reached.2.2.pool.tally.committed,
          reached.2.2.pool.deadLetters.letters.map DeadLetter.attempts, reached.2.2.isOver)) =
      some ([(0, 1), (10, 2), (20, 3), (20, 1)], 25, 1, [1], true) := by decide +kernel
  obtain ⟨⟨told, now, last⟩, ran, facts⟩ := Option.map_eq_some_iff.mp evaluated
  simp only [Prod.mk.injEq] at facts
  obtain ⟨started, at_, committed, letters, finished⟩ := facts
  have harmless : ∀ event, .event event ∈ cutShort → ¬ event.IsCrash := by
    simp [cutShort, Event.IsCrash]
  obtain ⟨treats, -⟩ := retries_with_discipline harmless ran
  obtain ⟨treatments, current, split, disciplined, -, done⟩ := treats 0 Nat.one_pos
  rw [done finished, List.append_nil] at split
  exact ⟨told, now, last, ran, harmless, started, at_, committed, letters, treatments, split,
    disciplined⟩

end Warehouse
end FuzzIntake
