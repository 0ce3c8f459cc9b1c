import FuzzIntake.Proofs.Lane.Register
import Mathlib.Data.List.Chain

/-!
# How a lane treats a batch

In virtual time what lanes and stores do takes no time: time goes on only while nothing can
happen in the warehouse, and never beyond the instant at which something moves on by itself.
What is told of a run are the attempts at batches with their answers, the pauses between them and
the ends of the batches.

A treatment is what a lane does with one batch.  A schedule says how many attempts there may be and
which pause lies between them.  `Pool.Stride` lists what a lane can do by itself, and every stride
goes on with the treatment of the batch at hand or ends it.
-/

namespace FuzzIntake

/-- Whether a lane pauses after a failed attempt. -/
def LanePhase.isPause : LanePhase → Bool
  | .pausing _ _ _ _ => true
  | _ => false

/-- Whether the lane of a worker pauses after a failed attempt. -/
def Pool.isPausing (pool : Pool) (worker : Nat) : Bool :=
  pool.lanes[worker]?.any fun lane => lane.phase.isPause

namespace Warehouse

/-- What is told of a run. -/
inductive Record
  /-- A lane starts an attempt at a batch, counted from one. -/
  | started (worker : Nat) (batch : Batch) (number : Nat)
  /-- The store answers to an attempt. -/
  | answered (worker : Nat) (batch : Batch) (number : Nat)
      (result : Except BatchFailure Receipt)
  /-- A lane begins to pause, or goes on pausing as time goes on. -/
  | pausing (worker : Nat)
  /-- A batch comes to an end. -/
  | ended (outcome : Outcome)
  /-- The pool is cancelled. -/
  | cancelled

/-- The worker whose treatment of a batch a record is about. -/
def Record.worker? : Record → Option Nat
  | .started worker _ _ => some worker
  | .answered worker _ _ _ => some worker
  | .ended outcome => some outcome.worker
  | _ => none

/-- The outcome of the batch that comes to an end in a record. -/
def Record.outcome? : Record → Option Outcome
  | .ended outcome => some outcome
  | _ => none

/-- What was told of the treatments of a worker. -/
def toldOf (worker : Nat) (told : List (Instant × Record)) : List (Instant × Record) :=
  told.filter fun entry => entry.2.worker? == some worker

/-- The batches that came to an end. -/
def endings (told : List (Instant × Record)) : List Outcome :=
  told.filterMap fun entry => entry.2.outcome?

/-- Whether the pool has been cancelled. -/
def HasCancelled (told : List (Instant × Record)) : Prop :=
  ∃ instant, (instant, Record.cancelled) ∈ told

/-- Whether a record may be told while the pool has been cancelled or not, where `most` attempts
are to be made at a batch: once it has been cancelled, only first attempts start and no lane pauses,
and before that a batch is given up only after all attempts. -/
def Record.Heeds (most : Nat) (cancelled : Prop) : Record → Prop
  | .started _ _ number => cancelled → number = 1
  | .pausing _ => ¬ cancelled
  | .ended ⟨_, _, .givenUp attempts _⟩ => ¬ cancelled → attempts = most
  | _ => True

/-- The workers whose lanes pause. -/
def pauses (warehouse : Warehouse) : List Record :=
  ((List.range warehouse.pool.lanes.length).filter warehouse.pool.isPausing).map .pausing

/-- What is told of an event that leads to another warehouse. -/
def records (warehouse next : Warehouse) : Event → List Record
  | .act now (.start worker) =>
      match warehouse.pool.next? worker now with
      | some (batch, number, _) => [.started worker batch number]
      | none => []
  | .act now (.finish worker) =>
      match warehouse.store? worker, warehouse.pool.answering? worker now with
      | some store, some (batch, number) =>
          let result := (batch.writeTo worker store).1
          .answered worker batch number result ::
            (warehouse.pool.answers worker now result).map .ended ++
              if next.pool.isPausing worker then [.pausing worker] else []
      | _, _ => []
  | .cancel => [.cancelled]
  | event => (warehouse.entry event).outcomes.map .ended

/-! ## Virtual time -/

/-- What happens in virtual time. -/
inductive Turn
  /-- Something happens. -/
  | event (event : Event)
  /-- Time goes on. -/
  | wait (instant : Instant)

/-- Whether nothing can happen at an instant. -/
def isAtRest (warehouse : Warehouse) (now : Instant) : Bool :=
  warehouse.actions.all fun action => (warehouse.act? now action).isNone

/-- Whether an event can be one of an instant. -/
def Event.isAt (now : Instant) : Event → Bool
  | .act instant _ => instant == now
  | _ => true

/-- What is told of a turn, the instant after it and the warehouse after it, if the turn is
possible: an action takes place now, and time goes on only while nothing can happen, and not
beyond the instant at which something moves on by itself. -/
def turn? (now : Instant) (warehouse : Warehouse) :
    Turn → Option (List Record × Instant × Warehouse)
  | .event event =>
      if event.isAt now then
        (warehouse.happen? event).map fun next => (warehouse.records next event, now, next)
      else
        none
  | .wait instant =>
      if now ≤ instant ∧ warehouse.isAtRest now ∧ warehouse.alarms.all (instant ≤ ·) then
        some (warehouse.pauses, instant, warehouse)
      else
        none

/-- What is told of some turns, and the instant and the warehouse after them, if they are
possible. -/
def runInTime? (now : Instant) (warehouse : Warehouse) :
    List Turn → Option (List (Instant × Record) × Instant × Warehouse)
  | [] => some ([], now, warehouse)
  | turn :: rest =>
      (warehouse.turn? now turn).bind fun (news, later, next) =>
        (next.runInTime? later rest).map fun (told, last) => (news.map (now, ·) ++ told, last)

end Warehouse

/-! ## Trials and treatments -/

/-- An attempt at a batch: when it started, when the store answered and what. -/
structure Trial where
  /-- When the lane started it. -/
  startedAt : Instant
  /-- When the store answered. -/
  answeredAt : Instant
  /-- What the store answered. -/
  result : Except BatchFailure Receipt

namespace Trial

/-- Whether the store failed. -/
def HasFailed (trial : Trial) : Prop :=
  ∃ error, trial.result = .error error

/-- The fate of a batch whose last trial has a number. -/
def fate (trial : Trial) (number : Nat) : Fate :=
  match trial.result with
  | .ok _ => .committed number
  | .error error => .givenUp number error.message

/-- What is told of a trial with a number. -/
def records (worker : Nat) (batch : Batch) (trial : Trial) (number : Nat) :
    List (Instant × Warehouse.Record) :=
  [(trial.startedAt, .started worker batch number),
    (trial.answeredAt, .answered worker batch number trial.result)]

end Trial

/-- What is told of trials, which are counted from one. -/
def trialRecords (worker : Nat) (batch : Batch) (trials : List Trial) :
    List (Instant × Warehouse.Record) :=
  (trials.zipIdx 1).flatMap fun (trial, number) => trial.records worker batch number

theorem trialRecords_concat
    (worker : Nat)
    (batch : Batch)
    (trials : List Trial)
    (trial : Trial) :
    trialRecords worker batch (trials ++ [trial]) =
      trialRecords worker batch trials ++ trial.records worker batch (trials.length + 1) := by
  unfold trialRecords
  rw [List.zipIdx_append, List.flatMap_append, Nat.add_comm]
  exact congrArg _ (List.flatMap_singleton _ _)

namespace RetrySchedule

variable {retry : RetrySchedule} {trials : List Trial} {trial : Trial} {startedAt : Instant}

/-- The most attempts at a batch. -/
def most (retry : RetrySchedule) : Nat :=
  max retry.maxAttempts 1

/-- Whether a trial starts exactly the pause of a schedule after the one before it. -/
def Spaces (retry : RetrySchedule) (earlier later : Trial) : Prop :=
  later.startedAt = earlier.answeredAt.after retry.backoff

/-- Trials of one batch as a schedule has them: they are not too many, all but the last one failed,
and exactly the pause lies between them. -/
structure Allows (retry : RetrySchedule) (trials : List Trial) : Prop where
  bounded : trials.length ≤ retry.most
  failed : ∀ trial ∈ trials.dropLast, trial.HasFailed
  spaced : trials.IsChain retry.Spaces

/-- Failed trials of one batch after which a schedule has another one start at an instant. -/
structure Permits (retry : RetrySchedule) (trials : List Trial) (startedAt : Instant) : Prop where
  fewer : trials.length < retry.most
  failed : ∀ trial ∈ trials, trial.HasFailed
  spaced : trials.IsChain retry.Spaces
  ready : ∀ last ∈ trials.getLast?, startedAt = last.answeredAt.after retry.backoff

/-- The first trial may start at any instant. -/
theorem permits_nil (retry : RetrySchedule) (startedAt : Instant) :
    retry.Permits [] startedAt where
  fewer := Nat.le_max_right _ _
  failed := by simp
  spaced := .nil
  ready := by simp

/-- A schedule allows the trials that it asks to be followed by another one. -/
theorem Permits.allows_failed (permits : retry.Permits trials startedAt) : retry.Allows trials where
  bounded := Nat.le_of_lt permits.fewer
  failed trial present := permits.failed trial (List.dropLast_subset _ present)
  spaced := permits.spaced

theorem Permits.spaced_concat
    (permits : retry.Permits trials startedAt)
    (starts : trial.startedAt = startedAt) :
    (trials ++ [trial]).IsChain retry.Spaces := by
  apply permits.spaced.append (.singleton trial)
  rintro last isLast next ⟨⟩
  rw [Spaces, starts]
  exact permits.ready last isLast

/-- A schedule allows the trial that it permits. -/
theorem Permits.allows_concat
    (permits : retry.Permits trials startedAt)
    (starts : trial.startedAt = startedAt) :
    retry.Allows (trials ++ [trial]) where
  bounded := by
    rw [List.length_append]
    exact permits.fewer
  failed := by
    rw [List.dropLast_concat]
    exact permits.failed
  spaced := permits.spaced_concat starts

/-- A trial that failed is followed by another one after the pause, if any is left. -/
theorem Permits.concat
    (permits : retry.Permits trials startedAt)
    (starts : trial.startedAt = startedAt)
    (failed : trial.HasFailed)
    (left : trials.length + 1 < retry.most) :
    retry.Permits (trials ++ [trial]) (trial.answeredAt.after retry.backoff) where
  fewer := by
    rw [List.length_append]
    exact left
  failed := by
    intro other present
    rcases List.mem_append.mp present with earlier | now
    · exact permits.failed other earlier
    · rwa [List.mem_singleton.mp now]
  spaced := permits.spaced_concat starts
  ready := by
    rintro last isLast
    rw [List.getLast?_concat, Option.mem_some_iff] at isLast
    rw [isLast]

end RetrySchedule

/-- What a lane did with a batch: its trials, and when and how the batch came to an end. -/
structure Treatment where
  /-- The batch. -/
  batch : Batch
  /-- The attempts. -/
  trials : List Trial
  /-- When the batch came to an end. -/
  endedAt : Instant
  /-- How it ended. -/
  fate : Fate

/-- What is told of a treatment. -/
def Treatment.records (worker : Nat) (treatment : Treatment) : List (Instant × Warehouse.Record) :=
  trialRecords worker treatment.batch treatment.trials ++
    [(treatment.endedAt, .ended ⟨worker, treatment.batch, treatment.fate⟩)]

/-- A treatment as a schedule has it: there is a trial, the trials are as they should be, and the
fate of the batch is that of the last one. -/
structure Treatment.IsDisciplined (retry : RetrySchedule) (treatment : Treatment) : Prop where
  allowed : retry.Allows treatment.trials
  concluded : ∃ last, treatment.trials.getLast? = some last ∧
    treatment.fate = last.fate treatment.trials.length

/-- A treatment that ends with the fate of its last trial is disciplined. -/
theorem Treatment.isDisciplined_concat
    {retry : RetrySchedule}
    {trials : List Trial}
    {last : Trial}
    (allowed : retry.Allows (trials ++ [last]))
    (batch : Batch)
    (endedAt : Instant) :
    IsDisciplined retry ⟨batch, trials ++ [last], endedAt, last.fate (trials.length + 1)⟩ := by
  refine ⟨allowed, last, List.getLast?_concat, ?_⟩
  rw [List.length_append]
  rfl

/-- What was told of the batch at hand of a lane that is in a phase at an instant: its failed
trials, the start of the one under way, or that the pause is not over yet. -/
def LanePhase.Pursues (retry : RetrySchedule) (worker : Nat) (now : Instant) (phase : LanePhase)
    (current : List (Instant × Warehouse.Record)) : Prop :=
  match phase with
  | .idle => current = []
  | .applying batch number _ =>
      ∃ trials startedAt, retry.Permits trials startedAt ∧ number = trials.length + 1 ∧
        current = trialRecords worker batch trials ++
          [(startedAt, .started worker batch number)]
  | .pausing batch number error resumeAt =>
      ∃ trials last, retry.Permits (trials ++ [last]) resumeAt ∧ last.result = .error error ∧
        number = trials.length + 1 ∧ now ≤ resumeAt ∧
        current = trialRecords worker batch (trials ++ [last])
  | .dead => False

/-! ## What one lane does -/

namespace Pool

open Warehouse (Record toldOf)

/-- What the lanes are doing. -/
def phases (pool : Pool) : List LanePhase :=
  pool.lanes.map Lane.phase

/-- What the lane of a worker does by itself without a crash, with what is told of it. -/
inductive Stride (pool : Pool) (now : Instant) (worker : Nat) :
    LanePhase → List Record → LanePhase → Prop
  /-- It starts the first attempt at a batch. -/
  | begin (batch : Batch) (due : Instant) :
      Stride pool now worker .idle [.started worker batch 1] (.applying batch 1 due)
  /-- It starts another attempt after a pause. -/
  | again {batch : Batch} {number : Nat} {error : BatchFailure} {resumeAt : Instant}
      (due : Instant) :
      resumeAt ≤ now → pool.cancelled = false →
      Stride pool now worker (.pausing batch number error resumeAt)
        [.started worker batch (number + 1)] (.applying batch (number + 1) due)
  /-- Its batch is written. -/
  | commit {batch : Batch} {number : Nat} {due : Instant} (receipt : Receipt) :
      Stride pool now worker (.applying batch number due)
        [.answered worker batch number (.ok receipt), .ended ⟨worker, batch, .committed number⟩]
        .idle
  /-- An attempt fails, and a pause begins. -/
  | retry {batch : Batch} {number : Nat} {due : Instant} (error : BatchFailure) :
      number < pool.maxAttempts → pool.cancelled = false →
      Stride pool now worker (.applying batch number due)
        [.answered worker batch number (.error error), .pausing worker]
        (.pausing batch number error (Instant.after now pool.retry.backoff))
  /-- The last attempt fails. -/
  | giveUp {batch : Batch} {number : Nat} {due : Instant} (error : BatchFailure) :
      (pool.maxAttempts ≤ number ∨ pool.cancelled = true) →
      Stride pool now worker (.applying batch number due)
        [.answered worker batch number (.error error),
          .ended ⟨worker, batch, .givenUp number error.message⟩]
        .idle
  /-- The pool is cancelled during the pause. -/
  | abandon {batch : Batch} {number : Nat} {error : BatchFailure} {resumeAt : Instant} :
      pool.cancelled = true →
      Stride pool now worker (.pausing batch number error resumeAt)
        [.ended ⟨worker, batch, .givenUp number error.message⟩] .idle

/-- What a pool is after batches have ended: it has the same schedule, it is cancelled if it was,
and the outcomes are in its counters and dead letters. -/
structure Posts (pool : Pool) (outcomes : List Outcome) (next : Pool) : Prop where
  retry : next.retry = pool.retry
  cancelled : next.cancelled = pool.cancelled
  committed : next.tally.committed =
    pool.tally.committed + outcomes.countP Outcome.isCommitted
  deadLetters : next.deadLetters =
    (outcomes.filterMap Outcome.letter?).foldl DeadLetters.push pool.deadLetters

/-- One lane makes a stride. -/
structure Strides (pool : Pool) (now : Instant) (worker : Nat) (news : List Record)
    (next : Pool) : Prop where
  posts : Posts pool (news.filterMap Record.outcome?) next
  stride : ∃ phase later, pool.phases[worker]? = some phase ∧
    next.phases = pool.phases.set worker later ∧ Stride pool now worker phase news later

variable {pool next : Pool} {now : Instant} {worker : Nat} {news : List Record}

/-- A change of its buffer leaves what a lane is doing. -/
theorem phases_of_buffer
    {lane : Lane}
    (found : pool.lanes[worker]? = some lane)
    (buffer : List Batch) :
    (pool.setLane worker { lane with buffer := buffer }).phases = pool.phases := by
  obtain ⟨inside, same⟩ := List.getElem?_eq_some_iff.mp found
  unfold phases setLane
  rw [List.map_set, ← same, ← List.getElem_map Lane.phase]
  · exact List.set_getElem_self _
  · rwa [List.length_map]

/-- Routing a batch leaves what the lanes are doing. -/
theorem phases_of_route?
    {batch : Batch}
    (routed : pool.route? batch = some next) :
    next.phases = pool.phases := by
  cases route_of_route? routed with
  | blank _ | nowhere _ _ _ | refuse _ _ _ => rfl
  | wait _ found _ _ _ => exact phases_of_buffer found _

/-- A lane that is replaced makes the stride between its phases. -/
theorem strides_of_lanes
    {lane later : Lane}
    (found : pool.lanes[worker]? = some lane)
    (set : next.lanes = pool.lanes.set worker later)
    (posts : Posts pool (news.filterMap Record.outcome?) next)
    (stride : Stride pool now worker lane.phase news later.phase) :
    Strides pool now worker news next := by
  refine ⟨posts, lane.phase, later.phase, ?_, ?_, stride⟩
  · rw [phases, List.getElem?_map, found]
    rfl
  · rw [phases, phases, set, List.map_set]

theorem isPausing_of_lanes
    {lane later : Lane}
    (found : pool.lanes[worker]? = some lane)
    (set : next.lanes = pool.lanes.set worker later) :
    next.isPausing worker = later.phase.isPause := by
  have inside := (List.getElem?_eq_some_iff.mp found).1
  unfold isPausing
  rw [set, List.getElem?_set_self inside]
  rfl

theorem strides_of_start?
    {due : Instant}
    (started : pool.start? worker now due = some next) :
    ∃ batch number lane, pool.next? worker now = some (batch, number, lane) ∧
      Strides pool now worker [.started worker batch number] next := by
  obtain ⟨⟨batch, number, lane⟩, ready, same⟩ := Option.map_eq_some_iff.mp started
  have set : next.lanes = pool.lanes.set worker ⟨lane.buffer, .applying batch number due⟩ :=
    same ▸ rfl
  refine ⟨batch, number, lane, ready, ?_⟩
  cases ready_of_next? ready with
  | first found =>
      exact strides_of_lanes found set (same ▸ ⟨rfl, rfl, rfl, rfl⟩) (.begin _ due)
  | again found passed going =>
      exact strides_of_lanes found set (same ▸ ⟨rfl, rfl, rfl, rfl⟩) (.again due passed going)

theorem strides_of_finish?
    {result : Except BatchFailure Receipt}
    {batch : Batch}
    {number : Nat}
    (answering : pool.answering? worker now = some (batch, number))
    (finished : pool.finish? worker now result = some next) :
    Strides pool now worker
      (.answered worker batch number result :: (pool.answers worker now result).map .ended ++
        if next.isPausing worker then [.pausing worker] else [])
      next := by
  cases answer_of_finish? answering finished with
  | commit found _ answers =>
      rw [answers, isPausing_of_lanes found rfl]
      exact strides_of_lanes found rfl ⟨rfl, rfl, rfl, rfl⟩ (.commit _)
  | retry found _ more going answers =>
      rw [answers, isPausing_of_lanes found rfl]
      exact strides_of_lanes found rfl ⟨rfl, rfl, rfl, rfl⟩ (.retry _ more going)
  | giveUp found _ last answers =>
      rw [answers, isPausing_of_lanes found rfl]
      exact strides_of_lanes found rfl ⟨rfl, rfl, rfl, rfl⟩ (.giveUp _ last)

theorem strides_of_abandon? (abandoned : pool.abandon? worker = some next) :
    Strides pool now worker ((pool.abandonments worker).map .ended) next := by
  obtain ⟨buffer, batch, attempt, error, resumeAt, found, stopped, gaveUp, rfl⟩ :=
    exists_of_abandon? abandoned
  rw [gaveUp]
  exact strides_of_lanes found rfl ⟨rfl, rfl, rfl, rfl⟩ (.abandon stopped)

end Pool

namespace Pool

open Warehouse (Record toldOf)

variable {pool : Pool} {now : Instant} {worker : Nat} {news : List Record}
  {phase later : LanePhase} {current : List (Instant × Record)}

/-- Of a stride nothing is told about the treatments of other workers. -/
theorem Stride.toldOf_ne
    {other : Nat}
    (stride : Stride pool now worker phase news later)
    (different : other ≠ worker) :
    toldOf other (news.map (now, ·)) = [] := by
  cases stride <;> simp [toldOf, Record.worker?, different.symm]

/-- A stride is no cancellation. -/
theorem Stride.cancelled_not_mem (stride : Stride pool now worker phase news later) :
    .cancelled ∉ news := by
  cases stride <;> simp

/-- What is told of a stride may be told while the pool is cancelled or not as it is. -/
theorem Stride.heeds
    (stride : Stride pool now worker phase news later)
    (pursues : phase.Pursues pool.retry worker now current) :
    ∀ record ∈ news, record.Heeds pool.retry.most (pool.cancelled = true) := by
  cases stride with
  | begin batch due => simp [Record.Heeds]
  | again due passed going => simp [Record.Heeds, going]
  | commit receipt => simp [Record.Heeds]
  | retry error more going => simp [Record.Heeds, going]
  | @giveUp batch number due error last =>
      obtain ⟨trials, startedAt, permits, rfl, rfl⟩ := pursues
      have exhausted : ¬ pool.cancelled = true → trials.length + 1 = pool.retry.most :=
        fun going => Nat.le_antisymm permits.fewer (last.resolve_right going)
      simpa [Record.Heeds] using exhausted
  | abandon stopped => simp [Record.Heeds, stopped]

/-- After a stride the batch at hand has had a disciplined treatment, or what was told of it still
agrees with the phase of the lane. -/
theorem Stride.pursues
    (stride : Stride pool now worker phase news later)
    (pursues : phase.Pursues pool.retry worker now current) :
    (∃ treatment : Treatment, treatment.IsDisciplined pool.retry ∧
      current ++ toldOf worker (news.map (now, ·)) = treatment.records worker ∧
      later.Pursues pool.retry worker now []) ∨
    later.Pursues pool.retry worker now (current ++ toldOf worker (news.map (now, ·))) := by
  cases stride with
  | begin batch due =>
      obtain rfl : current = [] := pursues
      right
      refine ⟨[], now, pool.retry.permits_nil now, rfl, ?_⟩
      simp [toldOf, Record.worker?, trialRecords]
  | @again batch number error resumeAt due passed going =>
      obtain ⟨trials, last, permits, failed, rfl, notYet, rfl⟩ := pursues
      obtain rfl := Nat.le_antisymm notYet passed
      right
      refine ⟨trials ++ [last], now, permits, ?_, ?_⟩
      · simp
      · simp [toldOf, Record.worker?]
  | @commit batch number due receipt =>
      obtain ⟨trials, startedAt, permits, rfl, rfl⟩ := pursues
      have allowed : pool.retry.Allows (trials ++ [⟨startedAt, now, .ok receipt⟩]) :=
        permits.allows_concat rfl
      refine .inl ⟨_, Treatment.isDisciplined_concat allowed batch now, ?_, rfl⟩
      simp [toldOf, Record.worker?, Treatment.records, trialRecords_concat, Trial.records,
        Trial.fate]
  | @retry batch number due error more going =>
      obtain ⟨trials, startedAt, permits, rfl, rfl⟩ := pursues
      right
      refine ⟨trials, ⟨startedAt, now, .error error⟩, permits.concat rfl ⟨error, rfl⟩ more, rfl,
        rfl, Nat.le_add_right _ _, ?_⟩
      simp [toldOf, Record.worker?, trialRecords_concat, Trial.records]
  | @giveUp batch number due error last =>
      obtain ⟨trials, startedAt, permits, rfl, rfl⟩ := pursues
      have allowed : pool.retry.Allows (trials ++ [⟨startedAt, now, .error error⟩]) :=
        permits.allows_concat rfl
      refine .inl ⟨_, Treatment.isDisciplined_concat allowed batch now, ?_, rfl⟩
      simp [toldOf, Record.worker?, Treatment.records, trialRecords_concat, Trial.records,
        Trial.fate]
  | @abandon batch number error resumeAt stopped =>
      obtain ⟨trials, last, permits, failed, rfl, notYet, rfl⟩ := pursues
      refine .inl ⟨_, Treatment.isDisciplined_concat permits.allows_failed batch now, ?_, rfl⟩
      simp [toldOf, Record.worker?, Treatment.records, Trial.fate, failed]

end Pool

end FuzzIntake
