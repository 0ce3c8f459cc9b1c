import FuzzIntake.Batch.FlushLoop
import FuzzIntake.Queue
import FuzzIntake.Rehearsal.Clock

/-!
# Rehearsing the flush loop

The flush loop in virtual time between a queue and a sink that takes a number of
batches, each after a delay, and refuses all later ones.
-/

namespace FuzzIntake

/-- A sink that records batches. -/
structure RecordingSink where
  /-- The most batches it takes; no bound if absent. -/
  limit : Option Nat
  /-- How long it takes to record a batch. -/
  delay : Span
  /-- When the batch at hand is recorded. -/
  due : Option Instant
  /-- The recorded batches and when they were recorded. -/
  recorded : List (Instant × Batch)

/-- Whether the sink refuses another batch. -/
def RecordingSink.isFull (sink : RecordingSink) : Bool :=
  match sink.limit with
  | none => false
  | some limit => decide (limit ≤ sink.recorded.length)

/-- A flush loop between a queue and a sink. -/
structure FlushRehearsal where
  /-- The present instant. -/
  now : Instant
  /-- The queue the loop takes operations from. -/
  queue : Queue
  /-- Whether the queue still has a sender. -/
  hasSender : Bool
  /-- Whether the loop is cancelled. -/
  cancelled : Bool
  /-- The loop. -/
  loop : FlushLoop
  /-- The sink. -/
  sink : RecordingSink
  /-- When the loop ended. -/
  endedAt : Option Instant

namespace FlushRehearsal

/-- A loop that has not started yet. -/
def new (limits : BatchLimits) (capacity : Nat) (limit : Option Nat) (delay : Span) :
    FlushRehearsal where
  now := 0
  queue := Queue.new capacity
  hasSender := true
  cancelled := false
  loop := FlushLoop.new limits
  sink := ⟨limit, delay, none, []⟩
  endedAt := none

/-- Send the loop a signal. -/
def signal? (rehearsal : FlushRehearsal) (signal : FlushSignal) : Option FlushRehearsal :=
  (rehearsal.loop.react? rehearsal.now signal).map fun loop =>
    { rehearsal with
      loop := loop
      endedAt := if loop.leftover?.isSome then some rehearsal.now else rehearsal.endedAt }

/-- Give the loop the oldest operation in the queue. -/
def receive? (rehearsal : FlushRehearsal) : Option FlushRehearsal :=
  rehearsal.queue.pop?.bind fun (operation, queue) =>
    { rehearsal with queue := queue }.signal? (.receive operation)

/-- Let the sink deal with a batch. -/
def submit? (rehearsal : FlushRehearsal) (batch : Batch) : Option FlushRehearsal :=
  let sink := rehearsal.sink
  if sink.isFull then
    rehearsal.signal? .refuse
  else
    match sink.due with
    | none =>
        some { rehearsal with
          sink := { sink with due := some (Instant.after rehearsal.now sink.delay) } }
    | some due =>
        if due ≤ rehearsal.now then
          let recorded := sink.recorded ++ [(rehearsal.now, batch)]
          { rehearsal with
            sink := { sink with due := none, recorded := recorded } }.signal? .accept
        else
          none

/-- The first thing that can happen now. -/
def step? (rehearsal : FlushRehearsal) : Option FlushRehearsal :=
  match rehearsal.loop.phase with
  | .polling => rehearsal.signal? .look
  | .filling => rehearsal.receive?.or (rehearsal.signal? .runDry)
  | .waiting _ =>
      if rehearsal.cancelled then
        rehearsal.signal? .stop
      else
        rehearsal.receive?.or
          (rehearsal.signal? (if rehearsal.hasSender then .lapse else .stop))
  | .submitting batch => rehearsal.submit? batch
  | .stopped _ => none

/-- The instants at which the loop or the sink moves on by itself. -/
def alarms (rehearsal : FlushRehearsal) : List Instant :=
  match rehearsal.loop.phase with
  | .waiting deadline => [deadline]
  | .submitting _ => rehearsal.sink.due.toList
  | _ => []

instance : Rehearsable FlushRehearsal where
  now := now
  setNow instant rehearsal := { rehearsal with now := instant }
  step? := step?
  alarms := alarms

/-- What a script asks for. -/
inductive Command
  | send (operations : List Operation)
  | advance (span : Span)
  /-- Drop the sender. -/
  | close
  | cancel

/-- Follow a command; also how many operations were sent. -/
def follow (rehearsal : FlushRehearsal) : Command → Nat × FlushRehearsal
  | .send operations =>
      if rehearsal.hasSender then
        let (count, queue) := rehearsal.queue.sendAll operations
        (count, Rehearsal.settle { rehearsal with queue := queue })
      else
        (0, rehearsal)
  | .advance span => (0, Rehearsal.advance span rehearsal)
  | .close => (0, Rehearsal.settle { rehearsal with hasSender := false })
  | .cancel => (0, Rehearsal.settle { rehearsal with cancelled := true })

/-- Cancel the loop and run until it has ended. -/
def finish (rehearsal : FlushRehearsal) : FlushRehearsal :=
  Rehearsal.runUntil (fun rehearsal => rehearsal.endedAt.isSome)
    { rehearsal with cancelled := true }

end FlushRehearsal
end FuzzIntake
