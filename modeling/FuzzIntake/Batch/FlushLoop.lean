import FuzzIntake.Batch.Accumulator

/-!
# The flush loop

The flush loop takes operations from a queue, collects them into batches and
hands each batch to a sink.  It never waits longer for an operation than the
batch in progress may still age, and not longer than a poll interval.  When it
stops it gives back what it could not hand over: a refused batch, then the batch
in progress.
-/

namespace FuzzIntake

/-- The longest wait for one operation. -/
def pollInterval : Span :=
  Span.ofMillis 100

/-- Where the flush loop stands. -/
inductive FlushPhase
  /-- About to look at the clock. -/
  | polling
  /-- Waiting for an operation until an instant. -/
  | waiting (deadline : Instant)
  /-- Taking what else is in the queue. -/
  | filling
  /-- Handing a batch to the sink. -/
  | submitting (batch : Batch)
  /-- Ended, with the operations it gives back. -/
  | stopped (leftover : List Operation)
deriving BEq, Repr

/-- What can happen to the flush loop. -/
inductive FlushSignal
  /-- It looks at the clock. -/
  | look
  /-- It takes an operation from the queue. -/
  | receive (operation : Operation)
  /-- It finds nothing more in the queue. -/
  | runDry
  /-- Its wait is over. -/
  | lapse
  /-- It is cancelled, or the queue is empty and has no sender left. -/
  | stop
  /-- The sink takes the batch. -/
  | accept
  /-- The sink refuses the batch. -/
  | refuse
deriving BEq, Repr

/-- The flush loop. -/
structure FlushLoop where
  /-- The batch in progress. -/
  accumulator : Accumulator
  /-- Where the loop stands. -/
  phase : FlushPhase
deriving BEq, Repr

namespace FlushLoop

/-- A loop that has taken nothing yet. -/
def new (limits : BatchLimits) : FlushLoop :=
  ⟨Accumulator.new limits, .polling⟩

/-- How long to wait for an operation: until the batch is due, at most a poll interval. -/
def patience (accumulator : Accumulator) (now : Instant) : Span :=
  match accumulator.timeLeft now with
  | none => pollInterval
  | some left => ⟨min left.nanos pollInterval.nanos⟩

/-- Submit a due batch, or wait for an operation. -/
def look (loop : FlushLoop) (now : Instant) : FlushLoop :=
  match loop.accumulator.takeDue now with
  | (some batch, accumulator) => ⟨accumulator, .submitting batch⟩
  | (none, accumulator) =>
      ⟨accumulator, .waiting (Instant.after now (patience accumulator now))⟩

/--
Whether the loop crashes when it looks at the clock: it asks how much longer a batch that is
not due may age, and the clock cannot show when it is due.
-/
def crashesAt (loop : FlushLoop) (now : Instant) : Bool :=
  match loop.phase with
  | .polling => (loop.accumulator.takeDue now).1.isNone && !loop.accumulator.showsDeadline
  | _ => false

/-- Add an operation; a complete batch is submitted at once. -/
def receive (loop : FlushLoop) (operation : Operation) (now : Instant) : FlushLoop :=
  match loop.accumulator.push operation now with
  | (some batch, accumulator) => ⟨accumulator, .submitting batch⟩
  | (none, accumulator) => ⟨accumulator, .filling⟩

/-- The loop after a signal, if the signal can reach it where it stands. -/
def react? (loop : FlushLoop) (now : Instant) : FlushSignal → Option FlushLoop
  | .look =>
      match loop.phase with
      | .polling => some (loop.look now)
      | _ => none
  | .receive operation =>
      match loop.phase with
      | .waiting _ => some (loop.receive operation now)
      | .filling => some (loop.receive operation now)
      | _ => none
  | .runDry =>
      match loop.phase with
      | .filling => some { loop with phase := .polling }
      | _ => none
  | .lapse =>
      match loop.phase with
      | .waiting deadline => if deadline ≤ now then some { loop with phase := .polling } else none
      | _ => none
  | .stop =>
      match loop.phase with
      | .waiting _ =>
          some ⟨loop.accumulator.take.2, .stopped loop.accumulator.held⟩
      | _ => none
  | .accept =>
      match loop.phase with
      | .submitting _ => some { loop with phase := .polling }
      | _ => none
  | .refuse =>
      match loop.phase with
      | .submitting batch =>
          some ⟨loop.accumulator.take.2,
            .stopped (batch.operations ++ loop.accumulator.held)⟩
      | _ => none

/-- What the loop gave back, once it has ended. -/
def leftover? (loop : FlushLoop) : Option (List Operation) :=
  match loop.phase with
  | .stopped leftover => some leftover
  | _ => none

end FlushLoop
end FuzzIntake
