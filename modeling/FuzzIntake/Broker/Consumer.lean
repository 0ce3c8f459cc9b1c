import FuzzIntake.Broker.Switched
import FuzzIntake.Entry.Decode
import FuzzIntake.Settings

/-!
# Consumers

A consumer is one member of a consumer group.  It makes sure that the group
exists, then reads entries, turns each into an operation for the queue or drops
it, and acknowledges it directly afterwards.  Entries it was handed earlier and
has not acknowledged come first, page by page, at the start and after every
pause; only then does it wait for new ones.  A failed read or acknowledgement is
followed by a pause.
-/

namespace FuzzIntake

/-- What a consumer has counted. -/
structure ConsumerTally where
  /-- Entries looked at. -/
  read : Nat
  /-- Operations put into the queue. -/
  enqueued : Nat
  /-- Entries dropped. -/
  dropped : Nat
  /-- Entries acknowledged. -/
  acked : Nat
  /-- Failed reads and acknowledgements. -/
  errors : Nat
deriving DecidableEq, Repr

/-- Nothing counted yet. -/
def ConsumerTally.zero : ConsumerTally :=
  ⟨0, 0, 0, 0, 0⟩

/-- How a consumer ended. -/
inductive ConsumerResult
  /-- It was cancelled, or the queue was closed. -/
  | stopped (tally : ConsumerTally)
  /-- The group could not be set up. -/
  | failed (error : BrokerError)
  /-- A read crashed it. -/
  | crashed
deriving DecidableEq, Repr

/-- What a consumer is doing. -/
inductive ConsumerPhase
  /-- About to ask for the group. -/
  | joining
  /-- About to read. -/
  | reading
  /-- Waiting for new entries until an instant. -/
  | listening (deadline : Instant)
  /-- Putting an operation into the queue; other entries of the page follow. -/
  | enqueuing (entry : Delivery) (operation : Operation) (rest : List Delivery)
  /-- About to acknowledge an entry; other entries of the page follow. -/
  | acknowledging (entry : Delivery) (rest : List Delivery)
  /-- Pausing until an instant. -/
  | pausing (resumeAt : Instant)
  | ended (result : ConsumerResult)
deriving BEq, Repr

/-- A member of a consumer group. -/
structure Consumer where
  /-- How the stream is read. -/
  settings : ConsumerSettings
  /-- What was counted. -/
  tally : ConsumerTally
  /-- The start of the next read. -/
  start : String
  /-- What the consumer is doing. -/
  phase : ConsumerPhase
deriving BEq, Repr

namespace Consumer

/-- A consumer that has not asked for its group yet. -/
def new (settings : ConsumerSettings) : Consumer :=
  ⟨settings, .zero, ownHistory, .joining⟩

/-- Turn to the next entry of a page, or to the next read after the last one. -/
def turnTo (consumer : Consumer) : List Delivery → Consumer
  | [] => { consumer with phase := .reading }
  | entry :: rest =>
      let tally := { consumer.tally with read := consumer.tally.read + 1 }
      match Entry.decode entry.fields with
      | .operation operation =>
          { consumer with tally := tally, phase := .enqueuing entry operation rest }
      | .dropped _ =>
          { consumer with
            tally := { tally with dropped := tally.dropped + 1 }
            phase := .acknowledging entry rest }

/-- The answer to the request for the group. -/
def joined (consumer : Consumer) : Except BrokerError GroupOutcome → Consumer
  | .ok _ => { consumer with phase := .reading }
  | .error error => { consumer with phase := .ended (.failed error) }

/-- Where the next read starts after a page: behind it, or at new entries when it was empty. -/
def startAfter (start : String) (page : List Delivery) : String :=
  if start = freshEntries then
    start
  else
    match page.getLast? with
    | some entry => entry.id
    | none => freshEntries

/-- Pause after a failure, and start over with the entries not acknowledged. -/
def pause (consumer : Consumer) (now : Instant) : Consumer :=
  { consumer with
    tally := { consumer.tally with errors := consumer.tally.errors + 1 }
    start := ownHistory
    phase := .pausing (Instant.after now consumer.settings.errorBackoff) }

/-- The answer to a read. -/
def received (consumer : Consumer) (now : Instant) :
    Except BrokerError (List Delivery) → Consumer
  | .ok page => { consumer with start := startAfter consumer.start page }.turnTo page
  | .error _ => consumer.pause now

/-- The answer to an acknowledgement. -/
def acknowledged (consumer : Consumer) (now : Instant) (rest : List Delivery) :
    Except BrokerError Unit → Consumer
  | .ok () =>
      { consumer with
        tally := { consumer.tally with acked := consumer.tally.acked + 1 } }.turnTo rest
  | .error _ => consumer.pause now

/-- A read crashes the consumer. -/
def crash (consumer : Consumer) : Consumer :=
  { consumer with phase := .ended .crashed }

/-- End with what was counted. -/
def stop (consumer : Consumer) : Consumer :=
  { consumer with phase := .ended (.stopped consumer.tally) }

/-- How the consumer ended, if it has. -/
def result? (consumer : Consumer) : Option ConsumerResult :=
  match consumer.phase with
  | .ended result => some result
  | _ => none

/-- The operation the consumer wants to put into the queue. -/
def offered? (consumer : Consumer) : Option Operation :=
  match consumer.phase with
  | .enqueuing _ operation _ => some operation
  | _ => none

/-- The queue has taken the offered operation. -/
def enqueued? (consumer : Consumer) : Option Consumer :=
  match consumer.phase with
  | .enqueuing entry _ rest =>
      some { consumer with
        tally := { consumer.tally with enqueued := consumer.tally.enqueued + 1 }
        phase := .acknowledging entry rest }
  | _ => none

/-- Whether the consumer looks at its cancellation where it stands. -/
def isInterruptible (consumer : Consumer) : Bool :=
  match consumer.phase with
  | .reading => true
  | .listening _ => true
  | .enqueuing _ _ _ => true
  | .pausing _ => true
  | _ => false

/-- The instant at which the consumer moves on by itself. -/
def alarm? (consumer : Consumer) : Option Instant :=
  match consumer.phase with
  | .listening deadline => some deadline
  | .pausing resumeAt => some resumeAt
  | _ => none

/-- What a consumer can do at its broker. -/
inductive Move
  /-- Ask for the group. -/
  | join
  /-- Begin a read. -/
  | read
  /-- Take new entries that have come while waiting. -/
  | wake
  /-- Stop waiting for new entries. -/
  | lapse
  /-- Acknowledge an entry. -/
  | acknowledge
  /-- Go on after a pause. -/
  | resume
deriving DecidableEq, Repr

/-- All moves. -/
def moves : List Move :=
  [.join, .read, .wake, .lapse, .acknowledge, .resume]

/-- Begin a read; a read of new entries that finds none waits for them. -/
def beginRead (consumer : Consumer) (now : Instant) (switched : SwitchedBroker) :
    Consumer × SwitchedBroker :=
  let s := consumer.settings
  if 0 < switched.crashes then
    (consumer.crash, { switched with crashes := switched.crashes - 1 })
  else
    match switched.broker.read? s.stream s.group s.consumer consumer.start s.readCount with
    | none => (consumer.crash, switched)
    | some (answer, broker) =>
        let switched := { switched with broker := broker }
        match answer with
        | .ok [] =>
            if consumer.start = freshEntries ∧ 0 < s.readBlock.nanos then
              ({ consumer with phase := .listening (Instant.after now s.readBlock) }, switched)
            else
              (consumer.received now (.ok []), switched)
        | answer => (consumer.received now answer, switched)

/-- Look for new entries while waiting; the wait goes on if there are none. -/
def wake? (consumer : Consumer) (now : Instant) (switched : SwitchedBroker) :
    Option (Consumer × SwitchedBroker) :=
  let s := consumer.settings
  match switched.broker.readNow? s.stream s.group s.consumer consumer.start s.readCount with
  | none => some (consumer.crash, switched)
  | some (.ok [], _) => none
  | some (answer, broker) =>
      some (consumer.received now answer, { switched with broker := broker })

/-- A consumer and its broker after a move, if the move is possible now. -/
def move? (consumer : Consumer) (now : Instant) (cancelled : Bool)
    (switched : SwitchedBroker) : Move → Option (Consumer × SwitchedBroker)
  | .join =>
      match consumer.phase with
      | .joining =>
          let s := consumer.settings
          let (answer, broker) := switched.broker.setUpGroup s.stream s.group
          some (consumer.joined answer, { switched with broker := broker })
      | _ => none
  | .read =>
      match consumer.phase with
      | .reading => if cancelled then none else some (consumer.beginRead now switched)
      | _ => none
  | .wake =>
      match consumer.phase with
      | .listening _ => if cancelled then none else consumer.wake? now switched
      | _ => none
  | .lapse =>
      match consumer.phase with
      | .listening deadline =>
          if !cancelled ∧ deadline ≤ now then
            some (consumer.received now (.ok []), switched)
          else
            none
      | _ => none
  | .acknowledge =>
      match consumer.phase with
      | .acknowledging entry rest =>
          let s := consumer.settings
          let (answer, broker) := switched.broker.acknowledge s.stream s.group [entry.id]
          some (consumer.acknowledged now rest answer, { switched with broker := broker })
      | _ => none
  | .resume =>
      match consumer.phase with
      | .pausing resumeAt =>
          if !cancelled ∧ resumeAt ≤ now then
            some ({ consumer with phase := .reading }, switched)
          else
            none
      | _ => none

end Consumer
end FuzzIntake
