import FuzzIntake.DeadLetters
import FuzzIntake.Lane
import FuzzIntake.Routing
import FuzzIntake.Settings

/-!
# The worker pool

The lanes of all workers.  A failing batch is tried again after a pause, a bounded
number of times, and then becomes a dead letter.  Once the pool is cancelled no batch is
tried again.  A lane whose store crashes loses its batches and is dead; batches
routed to it become dead letters without attempts.
-/

namespace FuzzIntake

/-- How many batches ended in which way. -/
structure PoolTally where
  /-- Batches written. -/
  committed : Nat
  /-- Failed attempts that another one was to follow. -/
  retried : Nat
  /-- Batches given up. -/
  deadLettered : Nat
deriving DecidableEq, Repr

/-- The lanes of all workers and what they share. -/
structure Pool where
  /-- How often a batch is tried. -/
  retry : RetrySchedule
  /-- The lanes in the order of the workers. -/
  lanes : List Lane
  /-- The batches given up. -/
  deadLetters : DeadLetters
  /-- How many batches ended in which way. -/
  tally : PoolTally
  /-- Whether the pool is cancelled. -/
  cancelled : Bool
deriving BEq, Repr

namespace Pool

/-- A pool without batches. -/
def new (workers : Nat) (retry : RetrySchedule) (deadLetterCapacity : Nat) : Pool where
  retry := retry
  lanes := List.replicate workers Lane.empty
  deadLetters := DeadLetters.new deadLetterCapacity
  tally := ⟨0, 0, 0⟩
  cancelled := false

/-- The most attempts at a batch. -/
def maxAttempts (pool : Pool) : Nat :=
  max pool.retry.maxAttempts 1

/-- Replace a lane. -/
def setLane (pool : Pool) (index : Nat) (lane : Lane) : Pool :=
  { pool with lanes := pool.lanes.set index lane }

/-- Change what a lane is doing. -/
def setPhase (pool : Pool) (index : Nat) (phase : LanePhase) : Pool :=
  { pool with lanes := pool.lanes.modify index fun lane => { lane with phase := phase } }

/-- Give a batch up. -/
def giveUp (pool : Pool) (worker attempts : Nat) (error : String) (batch : Batch) : Pool :=
  { pool with
    deadLetters := pool.deadLetters.push ⟨worker, attempts, error, batch.operations⟩
    tally := { pool.tally with deadLettered := pool.tally.deadLettered + 1 } }

/-- The lane a batch belongs to. -/
def laneOf (pool : Pool) (batch : Batch) : Nat :=
  Routing.index batch.laneKey pool.lanes.length

/--
Hand a batch to its lane, if the lane has room.  An empty batch, and every batch
of a pool without workers, is taken without effect; the batch of a dead lane is
given up.
-/
def route? (pool : Pool) (batch : Batch) : Option Pool :=
  if batch.isEmpty then
    some pool
  else
    let index := pool.laneOf batch
    match pool.lanes[index]? with
    | none => some pool
    | some lane =>
        if lane.phase == .dead then
          some (pool.giveUp index 0 "worker lane closed" batch)
        else if lane.buffer.length < laneRoom then
          some (pool.setLane index { lane with buffer := lane.buffer ++ [batch] })
        else
          none

/-- The batch a lane would start next: the oldest one waiting, or the failed one after its pause. -/
def next? (pool : Pool) (index : Nat) (now : Instant) : Option (Batch × Nat × Lane) :=
  match pool.lanes[index]? with
  | none => none
  | some lane =>
      match lane.phase with
      | .idle =>
          match lane.buffer with
          | [] => none
          | batch :: rest => some (batch, 1, { lane with buffer := rest })
      | .pausing batch attempt _ resumeAt =>
          if resumeAt ≤ now ∧ !pool.cancelled then some (batch, attempt + 1, lane) else none
      | _ => none

/-- Start the next attempt of a lane; the store answers at the instant `due`. -/
def start? (pool : Pool) (index : Nat) (now due : Instant) : Option Pool :=
  (pool.next? index now).map fun (batch, attempt, lane) =>
    pool.setLane index { lane with phase := .applying batch attempt due }

/-- The store of a lane crashes as the lane starts its next attempt. -/
def crash? (pool : Pool) (index : Nat) (now : Instant) : Option Pool :=
  (pool.next? index now).map fun _ => pool.setLane index ⟨[], .dead⟩

/-- The batch a lane is writing, once its store answers. -/
def answering? (pool : Pool) (index : Nat) (now : Instant) : Option (Batch × Nat) :=
  match pool.lanes[index]? with
  | some ⟨_, .applying batch attempt due⟩ => if due ≤ now then some (batch, attempt) else none
  | _ => none

/-- The store of a lane answers: the batch is written, tried again after a pause, or given up. -/
def finish? (pool : Pool) (index : Nat) (now : Instant)
    (result : Except BatchFailure Receipt) : Option Pool :=
  (pool.answering? index now).map fun (batch, attempt) =>
    match result with
    | .ok _ =>
        { (pool.setPhase index .idle) with
          tally := { pool.tally with committed := pool.tally.committed + 1 } }
    | .error error =>
        if attempt < pool.maxAttempts ∧ !pool.cancelled then
          { (pool.setPhase index
              (.pausing batch attempt error (Instant.after now pool.retry.backoff))) with
            tally := { pool.tally with retried := pool.tally.retried + 1 } }
        else
          (pool.setPhase index .idle).giveUp index attempt error.message batch

/-- A lane of a cancelled pool gives up the batch it is pausing for. -/
def abandon? (pool : Pool) (index : Nat) : Option Pool :=
  match pool.lanes[index]? with
  | some ⟨_, .pausing batch attempt error _⟩ =>
      if pool.cancelled then
        some ((pool.setPhase index .idle).giveUp index attempt error.message batch)
      else
        none
  | _ => none

/-- Try no batch again. -/
def cancel (pool : Pool) : Pool :=
  { pool with cancelled := true }

/-- A lane that will do nothing more unless a batch is routed to it. -/
def isResting (lane : Lane) : Bool :=
  match lane.phase with
  | .idle => lane.buffer.isEmpty
  | .dead => true
  | _ => false

/-- Whether all lanes have finished what was routed to them. -/
def isQuiet (pool : Pool) : Bool :=
  pool.lanes.all isResting

/-- The instants at which a lane moves on by itself. -/
def alarms (pool : Pool) : List Instant :=
  pool.lanes.filterMap fun lane =>
    match lane.phase with
    | .applying _ _ due => some due
    | .pausing _ _ _ resumeAt => some resumeAt
    | _ => none

end Pool
end FuzzIntake
