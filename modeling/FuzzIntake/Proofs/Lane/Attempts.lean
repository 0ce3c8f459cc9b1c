import FuzzIntake.Proofs.Lane.Register

/-!
# Every answer of a store belongs to one batch

A lane begins one batch at a time and tries it until the batch comes to an end.  So at every
moment the batches a worker began are those that ended and at most one more, and the answers
of its store are those that belong to the batches that ended and then those to the batch at
hand.  `Trail` says it of one change of one lane, and `Traces` of a register.
-/

namespace FuzzIntake

/-- The answers of a store to a batch that came to an end: all failures, but for the last one
if the batch was written. -/
def Outcome.attempts (outcome : Outcome) : List Attempt :=
  match outcome.fate with
  | .committed number =>
      List.replicate (number - 1) ⟨outcome.worker, outcome.batch, false⟩ ++
        [⟨outcome.worker, outcome.batch, true⟩]
  | .givenUp number _ => List.replicate number ⟨outcome.worker, outcome.batch, false⟩
  | .lost => []

namespace Lane

/-- The batch that a lane is writing or pausing for. -/
def current (lane : Lane) : List Batch :=
  match lane.phase with
  | .applying batch _ _ => [batch]
  | .pausing batch _ _ _ => [batch]
  | _ => []

/-- The failures so far of the batch that the lane of a worker is writing or pausing for. -/
def tried (worker : Nat) (lane : Lane) : List Attempt :=
  match lane.phase with
  | .applying batch number _ => List.replicate (number - 1) ⟨worker, batch, false⟩
  | .pausing batch number _ _ => List.replicate number ⟨worker, batch, false⟩
  | _ => []

/-- A lane that is not dead and counts its attempts from one. -/
def IsAlive (lane : Lane) : Prop :=
  match lane.phase with
  | .idle => True
  | .applying _ number _ => 1 ≤ number
  | .pausing _ number _ _ => 1 ≤ number
  | .dead => False

theorem length_current_le (lane : Lane) : lane.current.length ≤ 1 := by
  rw [current]
  split
  · exact Nat.le_refl 1
  · exact Nat.le_refl 1
  · exact Nat.zero_le 1

theorem held_eq (lane : Lane) : lane.held = lane.current ++ lane.buffer := by
  obtain ⟨buffer, phase⟩ := lane
  cases phase with
  | idle | applying _ _ _ | pausing _ _ _ _ | dead => rfl

/-- A lane that holds no batch is not trying one. -/
theorem not_trying_of_held_eq_nil
    {lane : Lane}
    (holdsNothing : lane.held = [])
    (worker : Nat) :
    lane.current = [] ∧ lane.tried worker = [] := by
  obtain ⟨buffer, phase⟩ := lane
  cases phase with
  | idle | dead => exact ⟨rfl, rfl⟩
  | applying batch number due => cases holdsNothing
  | pausing batch number error resumeAt => cases holdsNothing

end Lane

namespace Pool

/-- A change of one lane that lives on: what it began and tried belongs to the batches that
ended and to the batch at hand. -/
structure Trail (pool : Pool) (index : Nat) (begun : List Batch) (attempts : List Attempt)
    (outcomes : List Outcome) (next : Pool) : Prop where
  change : ∃ lane later, pool.lanes[index]? = some lane ∧
    next.lanes = pool.lanes.set index later ∧
    (lane.IsAlive → later.IsAlive ∧
      lane.current ++ begun = outcomes.map Outcome.batch ++ later.current ∧
      lane.tried index ++ attempts =
        outcomes.flatMap Outcome.attempts ++ later.tried index)
  ownAttempts : ∀ attempt ∈ attempts, attempt.worker = index
  ownOutcomes : ∀ outcome ∈ outcomes, outcome.worker = index

variable {pool next : Pool} {index : Nat} {now : Instant}

theorem trail_of_start?
    {due : Instant}
    (started : pool.start? index now due = some next) :
    Trail pool index (pool.beginning index) [] [] next := by
  obtain ⟨⟨batch, attempt, later⟩, ready, rfl⟩ := Option.map_eq_some_iff.mp started
  cases ready_of_next? ready with
  | first found =>
      refine ⟨⟨_, _, found, rfl, fun alive => ?_⟩, by simp, by simp⟩
      rw [beginning, found]
      exact ⟨Nat.le_refl 1, rfl, rfl⟩
  | @again buffer batch attempt error resumeAt found _ _ =>
      refine ⟨⟨_, _, found, rfl, fun alive => ?_⟩, by simp, by simp⟩
      rw [beginning, found]
      refine ⟨Nat.le_add_left 1 attempt, ?_, List.append_nil _⟩
      cases buffer with
      | nil => rfl
      | cons _ _ => rfl

theorem trail_of_finish?
    {result : Except BatchFailure Receipt}
    {batch : Batch}
    {number : Nat}
    (answering : pool.answering? index now = some (batch, number))
    (finished : pool.finish? index now result = some next) :
    Trail pool index [] [⟨index, batch, result.isOk⟩] (pool.answers index now result) next := by
  cases answer_of_finish? answering finished with
  | commit found _ answers =>
      rw [answers]
      refine ⟨⟨_, _, found, rfl, fun _ => ⟨trivial, rfl, ?_⟩⟩, by simp, by simp⟩
      simp [Lane.tried, Outcome.attempts, Except.isOk, Except.toBool]
  | retry found _ _ _ answers =>
      rw [answers]
      exact ⟨⟨_, _, found, rfl, fun alive => ⟨alive, rfl, List.replicate_pred_append alive _⟩⟩,
        by simp, by simp⟩
  | giveUp found _ _ answers =>
      rw [answers]
      refine ⟨⟨_, _, found, rfl, fun alive => ⟨trivial, rfl, ?_⟩⟩, by simp, by simp⟩
      rw [List.flatMap_singleton]
      exact (List.replicate_pred_append alive _).trans (List.append_nil _).symm

theorem trail_of_abandon? (abandoned : pool.abandon? index = some next) :
    Trail pool index [] [] (pool.abandonments index) next := by
  obtain ⟨buffer, batch, attempt, error, resumeAt, found, -, gaveUp, rfl⟩ :=
    exists_of_abandon? abandoned
  rw [gaveUp]
  exact ⟨⟨_, _, found, rfl, fun _ => ⟨trivial, rfl, by simp [Lane.tried, Outcome.attempts]⟩⟩,
    by simp, by simp⟩

/-- A batch that is routed to a living lane waits in its buffer. -/
theorem trail_of_route?
    {batch : Batch}
    (routed : pool.route? batch = some next)
    (filled : batch.isEmpty = false)
    (staffed : 0 < pool.lanes.length)
    (alive : ∀ lane ∈ pool.lanes, lane.IsAlive) :
    Trail pool (pool.laneOf batch) [] [] (pool.refusals batch) next := by
  cases route_of_route? routed with
  | blank empty => simp [filled] at empty
  | nowhere _ missing _ => exact absurd missing (getElem?_laneOf_ne_none staffed batch)
  | refuse _ found _ => exact absurd (alive _ (List.mem_of_getElem? found)) id
  | wait _ found _ _ unrefused =>
      rw [unrefused]
      exact ⟨⟨_, _, found, rfl, fun still => ⟨still, List.append_nil _, List.append_nil _⟩⟩,
        by simp, by simp⟩

end Pool

namespace Warehouse

/-- A register that traces every batch of every lane, all of which are alive. -/
structure Traces (register : Register) (warehouse : Warehouse) : Prop where
  alive : ∀ lane ∈ warehouse.pool.lanes, lane.IsAlive
  begun : ∀ index lane, warehouse.pool.lanes[index]? = some lane →
    register.begunBy index =
      (register.books.outcomesOf index).map Outcome.batch ++ lane.current
  attempts : ∀ index lane, warehouse.pool.lanes[index]? = some lane →
    register.attemptsOf index =
      (register.books.outcomesOf index).flatMap Outcome.attempts ++ lane.tried index
  within : ∀ attempt ∈ register.attempts, attempt.worker < warehouse.pool.lanes.length

variable {warehouse next : Warehouse} {register : Register} {given : List Batch}
  {remainder : List Operation} {calls : List (Batch × Routed)}

theorem traces_new
    (workers : Nat)
    (shared : Bool)
    (retry : RetrySchedule)
    (capacity : Nat) :
    Traces .empty (new workers shared retry capacity) := by
  have idle : ∀ lane ∈ (new workers shared retry capacity).pool.lanes, lane = Lane.empty :=
    fun lane present => List.eq_of_mem_replicate present
  constructor
  · intro lane present
    rw [idle lane present]
    trivial
  · intro index lane found
    rw [idle lane (List.mem_of_getElem? found)]
    rfl
  · intro index lane found
    rw [idle lane (List.mem_of_getElem? found)]
    rfl
  · exact fun _ present => nomatch present

theorem outcomesOf_append
    {later : Books}
    {index : Nat}
    (own : ∀ outcome ∈ later.outcomes, outcome.worker = index)
    (books : Books)
    (worker : Nat) :
    (books ++ later).outcomesOf worker =
      books.outcomesOf worker ++ if index = worker then later.outcomes else [] := by
  rw [Books.outcomesOf, Books.outcomes_append, List.filter_append, List.filter_place own]
  rfl

theorem attemptsOf_append
    {later : Register}
    {index : Nat}
    (own : ∀ attempt ∈ later.attempts, attempt.worker = index)
    (register : Register)
    (worker : Nat) :
    (register ++ later).attemptsOf worker =
      register.attemptsOf worker ++ if index = worker then later.attempts else [] := by
  rw [Register.attemptsOf, Register.attempts_append, List.filter_append, List.filter_place own]
  rfl

theorem begunBy_append
    {later : Register}
    {index : Nat}
    {begun : List Batch}
    (own : later.begun = begun.map (Assignment.mk index))
    (register : Register)
    (worker : Nat) :
    (register ++ later).begunBy worker =
      register.begunBy worker ++ if index = worker then begun else [] := by
  have together : ∀ assignment ∈ later.begun, assignment.worker = index := by
    intro assignment present
    rw [own] at present
    obtain ⟨batch, -, rfl⟩ := List.mem_map.mp present
    rfl
  rw [Register.begunBy, Register.begun_append, List.filter_append, List.filter_place together,
    List.map_append, apply_ite (List.map Assignment.batch), own, List.map_map]
  congr 2
  exact List.map_id _

/-- A change of one lane that lives on is traced. -/
theorem Traces.trail
    {index : Nat}
    (begun : List Batch)
    {attempts : List Attempt}
    {outcomes : List Outcome}
    (traces : Traces register warehouse)
    (trail : Pool.Trail warehouse.pool index begun attempts outcomes next.pool) :
    Traces (register ++ ⟨⟨given, outcomes, remainder⟩, begun.map (Assignment.mk index),
      attempts, calls⟩) next := by
  obtain ⟨lane, later, found, set, moves⟩ := trail.change
  obtain ⟨laterAlive, beginning, trying⟩ := moves (traces.alive lane (List.mem_of_getElem? found))
  have inside : index < warehouse.pool.lanes.length := (List.getElem?_eq_some_iff.mp found).1
  have place : ∀ other placed, next.pool.lanes[other]? = some placed →
      index = other ∧ placed = later ∨
        index ≠ other ∧ warehouse.pool.lanes[other]? = some placed := by
    intro other placed at_
    rw [set] at at_
    by_cases same : index = other
    · subst same
      rw [List.getElem?_set_self inside] at at_
      exact .inl ⟨rfl, (Option.some.inj at_).symm⟩
    · rw [List.getElem?_set_ne same] at at_
      exact .inr ⟨same, at_⟩
  constructor
  · intro other present
    rw [set] at present
    rcases List.mem_or_eq_of_mem_set present with old | rfl
    · exact traces.alive other old
    · exact laterAlive
  · intro other placed at_
    rw [begunBy_append rfl, Register.books_append, outcomesOf_append trail.ownOutcomes,
      List.map_append]
    rcases place other placed at_ with ⟨rfl, rfl⟩ | ⟨elsewhere, old⟩
    · rw [if_pos rfl, if_pos rfl, traces.begun index lane found, List.append_assoc, beginning,
        List.append_assoc]
    · rw [if_neg elsewhere, if_neg elsewhere, traces.begun other placed old]
      simp only [List.map_nil, List.append_nil]
  · intro other placed at_
    rw [attemptsOf_append trail.ownAttempts, Register.books_append,
      outcomesOf_append trail.ownOutcomes, List.flatMap_append]
    rcases place other placed at_ with ⟨rfl, rfl⟩ | ⟨elsewhere, old⟩
    · rw [if_pos rfl, if_pos rfl, traces.attempts index lane found, List.append_assoc, trying,
        List.append_assoc]
    · rw [if_neg elsewhere, if_neg elsewhere, traces.attempts other placed old]
      simp only [List.flatMap_nil, List.append_nil]
  · intro attempt present
    rw [set, List.length_set]
    rcases List.mem_append.mp present with old | now
    · exact traces.within attempt old
    · rw [trail.ownAttempts attempt now]
      exact inside

/-- Where no lane changes there is nothing to trace. -/
theorem Traces.keep
    (traces : Traces register warehouse)
    (sameLanes : next.pool.lanes = warehouse.pool.lanes) :
    Traces (register ++ ⟨⟨given, [], remainder⟩, [], [], calls⟩) next := by
  have books : (register ++ ⟨⟨given, [], remainder⟩, [], [], calls⟩).books.outcomes =
      register.books.outcomes := List.append_nil _
  have begun : (register ++ ⟨⟨given, [], remainder⟩, [], [], calls⟩).begun = register.begun :=
    List.append_nil _
  have attempts : (register ++ ⟨⟨given, [], remainder⟩, [], [], calls⟩).attempts =
      register.attempts := List.append_nil _
  constructor
  · rw [sameLanes]
    exact traces.alive
  · rw [sameLanes]
    simp only [Register.begunBy, Books.outcomesOf, books, begun]
    exact traces.begun
  · rw [sameLanes]
    simp only [Register.attemptsOf, Books.outcomesOf, books, attempts]
    exact traces.attempts
  · rw [sameLanes, attempts]
    exact traces.within

theorem Traces.start
    {now : Instant}
    {index : Nat}
    (traces : Traces register warehouse)
    (calm : warehouse.IsCalm)
    (happened : warehouse.happen? (.act now (.start index)) = some next) :
    Traces (register ++ warehouse.note (.act now (.start index))) next := by
  have quiet := (calm.start happened).2
  obtain ⟨store, pool, -, begun, rfl⟩ := calm.exists_of_start? happened
  have note : warehouse.note (.act now (.start index)) =
      ⟨⟨[], [], []⟩, (warehouse.pool.beginning index).map (Assignment.mk index), [], []⟩ := by
    rw [Warehouse.note, entry, quiet]
    rfl
  rw [note]
  exact traces.trail _ (Pool.trail_of_start? begun)

theorem Traces.finish
    {now : Instant}
    {index : Nat}
    (traces : Traces register warehouse)
    (happened : warehouse.happen? (.act now (.finish index)) = some next) :
    Traces (register ++ warehouse.note (.act now (.finish index))) next := by
  obtain ⟨store, batch, number, pool, found, answering, done, rfl⟩ := exists_of_finish? happened
  have note : warehouse.note (.act now (.finish index)) =
      ⟨⟨[], warehouse.pool.answers index now (batch.writeTo index store).1, []⟩, [],
        [⟨index, batch, (batch.writeTo index store).1.isOk⟩], []⟩ := by
    simp only [Warehouse.note, entry, outcomes, Warehouse.begun, Warehouse.attempts, found,
      answering]
  rw [note]
  exact traces.trail [] (Pool.trail_of_finish? answering done)

/-- Every event without crash is traced. -/
theorem Traces.happen
    {event : Event}
    (traces : Traces register warehouse)
    (calm : warehouse.IsCalm)
    (noRoute : ∀ batch, event ≠ .route batch)
    (happened : warehouse.happen? event = some next) :
    Traces (register ++ warehouse.note event) next := by
  cases event with
  | act now action =>
      cases action with
      | start index => exact traces.start calm happened
      | finish index => exact traces.finish happened
      | abandon index =>
          obtain ⟨pool, abandoned, rfl⟩ := Option.map_eq_some_iff.mp happened
          exact traces.trail [] (Pool.trail_of_abandon? abandoned)
      | drain => exact traces.keep (by rw [pool_of_drain? happened])
      | settle => exact traces.keep (by rw [pool_of_settle? happened])
  | route batch => exact absurd rfl (noRoute batch)
  | cancel => exact traces.keep (Option.some.inj happened ▸ rfl)
  | shutdown leftover =>
      obtain ⟨-, rfl⟩ := happen?_shutdown_eq_some_iff.mp happened
      exact traces.keep rfl
  | touchStore _ _ | delayStore _ _ | crashStore _ _ =>
      exact traces.keep (Option.some.inj happened ▸ rfl)

/-- A batch that is accepted is traced. -/
theorem Traces.accept
    {batch : Batch}
    (traces : Traces register warehouse)
    (staffed : 0 < warehouse.pool.lanes.length)
    (happened : warehouse.happen? (.route batch) = some next) :
    Traces (register ++ warehouse.callNote batch .accepted) next := by
  obtain ⟨-, pool, routed, rfl⟩ := happen?_route_eq_some_iff.mp happened
  simp only [callNote, entry]
  split
  · next empty => exact traces.keep (by rw [Pool.eq_of_route?_of_isEmpty routed empty])
  · next filled =>
      have filled : batch.isEmpty = false := by simpa using filled
      exact traces.trail []
        (Pool.trail_of_route? routed filled staffed traces.alive)

end Warehouse
end FuzzIntake
