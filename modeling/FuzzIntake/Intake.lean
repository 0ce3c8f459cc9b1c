import FuzzIntake.Batch.FlushLoop
import FuzzIntake.Broker.Consumer
import FuzzIntake.Lane.Warehouse
import FuzzIntake.Queue

/-!
# The intake

An intake reads any number of sources into one queue, batches the queue, and
routes the batches to the workers of a warehouse.  When its token is cancelled it
stops in order: first the consumers, then the flush loop, then it empties the
queue, and last it closes the warehouse with the operations left over.

An intake is a state and the actions that can change it.  Any action that is
possible may happen next, so a run is any sequence of possible actions.
-/

namespace FuzzIntake

/-- A source of an intake: a broker and the consumer that reads it. -/
structure Source where
  /-- The name of the source. -/
  label : String
  /-- The broker. -/
  broker : SwitchedBroker
  /-- The consumer. -/
  consumer : Consumer

/-- How far an intake has come. -/
inductive Stage
  /-- Not started. -/
  | ready
  /-- Reading, batching and routing. -/
  | running
  /-- Emptying the queue into the operations left over. -/
  | collecting (leftover : List Operation)
  /-- Closing the warehouse. -/
  | closing
  /-- Ended. -/
  | finished
deriving BEq, Repr

/-- An intake. -/
structure Intake where
  /-- The present instant. -/
  now : Instant
  /-- Whether the token is cancelled. -/
  cancelled : Bool
  /-- The sources. -/
  sources : List Source
  /-- The operation queue. -/
  queue : Queue
  /-- Whether somebody else than the consumers can send to the queue. -/
  hasSender : Bool
  /-- The flush loop. -/
  flush : FlushLoop
  /-- Whether the flush loop is cancelled. -/
  flushCancelled : Bool
  /-- The warehouse. -/
  warehouse : Warehouse
  /-- How far the intake has come. -/
  stage : Stage

namespace Intake

/-- What can happen in an intake. -/
inductive Action
  /-- A consumer does something at its broker. -/
  | consume (source : Nat) (move : Consumer.Move)
  /-- A consumer puts its operation into the queue. -/
  | enqueue (source : Nat)
  /-- A consumer waits for room in the queue. -/
  | stand (source : Nat)
  /-- A cancelled consumer ends. -/
  | halt (source : Nat)
  /-- The flush loop looks at the clock. -/
  | look
  /-- The flush loop takes an operation from the queue. -/
  | receive
  /-- The flush loop finds the queue empty. -/
  | runDry
  /-- The flush loop has waited long enough. -/
  | lapse
  /-- The flush loop ends, cancelled or without senders. -/
  | stopFlush
  /-- A batch is routed. -/
  | submit
  /-- A batch comes back from a cancelled pool without room. -/
  | refuse
  /-- Something happens in the warehouse. -/
  | work (action : Warehouse.Action)
  /-- All consumers have ended after the token was cancelled. -/
  | release
  /-- The flush loop has ended and is not needed any more. -/
  | collect
  /-- An operation still in the queue is added to those left over. -/
  | gather
  /-- The queue is empty; the warehouse is closed with what is left over. -/
  | close
  /-- The warehouse is closed. -/
  | finish
deriving DecidableEq, Repr

/-- An intake that has not started. -/
def new (settings : IntakeSettings) (workers : Nat) (shared : Bool) (labels : List String) :
    Intake where
  now := 0
  cancelled := false
  sources := labels.map fun label => ⟨label, .empty, Consumer.new settings.consumer⟩
  queue := Queue.new settings.queueCapacity
  hasSender := true
  flush := FlushLoop.new settings.batch
  flushCancelled := false
  warehouse := Warehouse.new workers shared settings.retry settings.deadLetterCapacity
  stage := .ready

/-- Replace a source. -/
def setSource (intake : Intake) (index : Nat) (source : Source) : Intake :=
  { intake with sources := intake.sources.set index source }

/-- Send the flush loop a signal. -/
def signal? (intake : Intake) (signal : FlushSignal) : Option Intake :=
  (intake.flush.react? intake.now signal).map fun flush => { intake with flush := flush }

/-- Whether a consumer has ended. -/
def hasEnded (source : Source) : Bool :=
  source.consumer.result?.isSome

/-- Whether nobody can send to the queue any more. -/
def isUnfed (intake : Intake) : Bool :=
  !intake.hasSender && intake.sources.all hasEnded

/-- Whether consumers, flush loop and lanes work. -/
def isRunning (intake : Intake) : Bool :=
  intake.stage == .running

/-- A consumer does something at its broker. -/
def consume? (intake : Intake) (index : Nat) (move : Consumer.Move) : Option Intake :=
  if intake.isRunning then
    intake.sources[index]?.bind fun source =>
      (source.consumer.move? intake.now intake.cancelled source.broker move).map
        fun (consumer, broker) =>
          intake.setSource index { source with consumer := consumer, broker := broker }
  else
    none

/-- A consumer puts its operation into the queue. -/
def enqueue? (intake : Intake) (index : Nat) : Option Intake :=
  if intake.isRunning ∧ !intake.cancelled then
    intake.sources[index]?.bind fun source =>
      source.consumer.offered?.bind fun operation =>
        (intake.queue.send? index operation).bind fun queue =>
          source.consumer.enqueued?.map fun consumer =>
            { (intake.setSource index { source with consumer := consumer }) with
              queue := queue }
  else
    none

/-- A consumer waits for room in the queue. -/
def stand? (intake : Intake) (index : Nat) : Option Intake :=
  if intake.isRunning ∧ !intake.cancelled then
    intake.sources[index]?.bind fun source =>
      source.consumer.offered?.bind fun operation =>
        match intake.queue.send? index operation with
        | some _ => none
        | none =>
            (intake.queue.stand? index).map fun queue => { intake with queue := queue }
  else
    none

/-- A cancelled consumer ends. -/
def halt? (intake : Intake) (index : Nat) : Option Intake :=
  if intake.isRunning ∧ intake.cancelled then
    intake.sources[index]?.bind fun source =>
      if source.consumer.isInterruptible then
        some { (intake.setSource index { source with consumer := source.consumer.stop }) with
          queue := intake.queue.leave index }
      else
        none
  else
    none

/-- The flush loop takes an operation from the queue, unless it is cancelled while waiting. -/
def receive? (intake : Intake) : Option Intake :=
  intake.queue.pop?.bind fun (operation, queue) =>
    { intake with queue := queue }.signal? (.receive operation)

/-- Whether the flush loop is waiting for an operation. -/
def isWaiting (intake : Intake) : Bool :=
  match intake.flush.phase with
  | .waiting _ => true
  | _ => false

/-- The batch that the flush loop is submitting is routed. -/
def submit? (intake : Intake) : Option Intake :=
  match intake.flush.phase with
  | .submitting batch =>
      (intake.warehouse.route? batch).bind fun warehouse =>
        { intake with warehouse := warehouse }.signal? .accept
  | _ => none

/-- The batch that the flush loop is submitting comes back from a cancelled pool without room. -/
def refuse? (intake : Intake) : Option Intake :=
  match intake.flush.phase with
  | .submitting batch =>
      if intake.warehouse.pool.cancelled ∧ (intake.warehouse.route? batch).isNone then
        intake.signal? .refuse
      else
        none
  | _ => none

/-- The intake after an action, if the action is possible now. -/
def act? (intake : Intake) : Action → Option Intake
  | .consume source move => intake.consume? source move
  | .enqueue source => intake.enqueue? source
  | .stand source => intake.stand? source
  | .halt source => intake.halt? source
  | .look => if intake.isRunning then intake.signal? .look else none
  | .receive =>
      if intake.isRunning ∧ !(intake.isWaiting && intake.flushCancelled) then
        intake.receive?
      else
        none
  | .runDry =>
      if intake.isRunning ∧ intake.queue.items = [] then
        intake.signal? .runDry
      else
        none
  | .lapse =>
      if intake.isRunning ∧ !intake.flushCancelled ∧ intake.queue.items = [] then
        intake.signal? .lapse
      else
        none
  | .stopFlush =>
      let closed := intake.isUnfed && intake.queue.items.isEmpty
      if intake.isRunning ∧ (intake.flushCancelled || closed) then
        intake.signal? .stop
      else
        none
  | .submit => if intake.isRunning then intake.submit? else none
  | .refuse => if intake.isRunning then intake.refuse? else none
  | .work action =>
      if intake.stage == .ready then
        none
      else
        (intake.warehouse.act? intake.now action).map fun warehouse =>
          { intake with warehouse := warehouse }
  | .release =>
      if intake.isRunning ∧ intake.cancelled ∧ !intake.flushCancelled ∧
          intake.sources.all hasEnded then
        some { intake with flushCancelled := true }
      else
        none
  | .collect =>
      if intake.isRunning ∧ intake.flushCancelled then
        intake.flush.leftover?.map fun leftover =>
          { intake with stage := .collecting leftover }
      else
        none
  | .gather =>
      match intake.stage with
      | .collecting leftover =>
          intake.queue.pop?.map fun (operation, queue) =>
            { intake with queue := queue, stage := .collecting (leftover ++ [operation]) }
      | _ => none
  | .close =>
      match intake.stage with
      | .collecting leftover =>
          if intake.queue.items.isEmpty then
            some { intake with
              warehouse := intake.warehouse.shutdown leftover
              stage := .closing }
          else
            none
      | _ => none
  | .finish =>
      match intake.stage, intake.warehouse.closing with
      | .closing, .closed _ => some { intake with stage := .finished }
      | .closing, .crashed => some { intake with stage := .finished }
      | _, _ => none

/-- Start reading, batching and routing. -/
def start (intake : Intake) : Intake :=
  match intake.stage with
  | .ready => { intake with stage := .running }
  | _ => intake

/-- Cancel the token: the consumers end, and no batch is tried again. -/
def cancel (intake : Intake) : Intake :=
  { intake with cancelled := true, warehouse := intake.warehouse.cancel }

/-- Send operations to the queue without waiting; also how many it took. -/
def send (intake : Intake) (operations : List Operation) : Nat × Intake :=
  if intake.hasSender ∧ intake.stage != .finished then
    let (count, queue) := intake.queue.sendAll operations
    (count, { intake with queue := queue })
  else
    (0, intake)

/-- How the intake ended, once its warehouse is closed. -/
def report? (intake : Intake) : Option ClosingReport :=
  match intake.stage, intake.warehouse.closing with
  | .finished, .closed report => some report
  | _, _ => none

/-- The instants at which something moves on by itself. -/
def alarms (intake : Intake) : List Instant :=
  let waiting :=
    match intake.flush.phase with
    | .waiting deadline => [deadline]
    | _ => []
  intake.sources.filterMap (fun source => source.consumer.alarm?) ++ waiting ++
    intake.warehouse.alarms

end Intake
end FuzzIntake
