import FuzzIntake.Broker.Local
import FuzzIntake.Rehearsal.Clock

/-!
# Rehearsing a broker

A broker in memory in virtual time.  A read of new entries waits for them until
its deadline, and entries can be scheduled for publication.  A read without an
answer ends the rehearsal.
-/

namespace FuzzIntake

/-- An entry to be published. -/
structure ScheduledEntry where
  /-- When it is published. -/
  due : Instant
  /-- The stream it is published to. -/
  stream : String
  /-- Its fields. -/
  fields : Fields

/-- A broker with a clock. -/
structure BrokerRehearsal where
  /-- The present instant. -/
  now : Instant
  /-- The broker. -/
  broker : LocalBroker
  /-- The entries to be published. -/
  scheduled : List ScheduledEntry
  /-- Whether a read had no answer. -/
  crashed : Bool

/-- A read at a broker. -/
structure ReadRequest where
  /-- The stream. -/
  stream : String
  /-- The group. -/
  group : String
  /-- The reading member. -/
  consumer : String
  /-- Where to start. -/
  start : String
  /-- The most entries. -/
  count : Nat
  /-- The longest wait for new entries. -/
  block : Span

namespace BrokerRehearsal

/-- A broker without streams. -/
def new : BrokerRehearsal :=
  ⟨0, .empty, [], false⟩

/-- Publish the entries that are due. -/
def publishDue (rehearsal : BrokerRehearsal) : BrokerRehearsal :=
  let due := rehearsal.scheduled.filter fun entry => entry.due ≤ rehearsal.now
  { rehearsal with
    broker := due.foldl
      (fun broker entry => (broker.publish entry.stream entry.fields).2) rehearsal.broker
    scheduled := rehearsal.scheduled.filter fun entry => rehearsal.now < entry.due }

instance : Rehearsable BrokerRehearsal where
  now := now
  setNow instant rehearsal := { rehearsal with now := instant }
  step? rehearsal :=
    if rehearsal.scheduled.any fun entry => entry.due ≤ rehearsal.now then
      some rehearsal.publishDue
    else
      none
  alarms rehearsal := rehearsal.scheduled.map ScheduledEntry.due

/-- Look for new entries at the present instant and at every publication until the deadline. -/
def listen (request : ReadRequest) (deadline : Instant) :
    (looks : Nat) → BrokerRehearsal → List Delivery × BrokerRehearsal
  | 0, rehearsal => ([], rehearsal)
  | looks + 1, rehearsal =>
      let rehearsal := Rehearsal.settle rehearsal
      match rehearsal.broker.readNow? request.stream request.group request.consumer
          request.start request.count with
      | some (.ok (entry :: page), broker) =>
          (entry :: page, { rehearsal with broker := broker })
      | _ =>
          match Rehearsal.nextAlarm? rehearsal deadline with
          | none => ([], Rehearsal.advance (Instant.until rehearsal.now deadline) rehearsal)
          | some alarm => listen request deadline looks (Rehearsable.setNow alarm rehearsal)

/-- Begin a read and wait for new entries if none are there. -/
def awaitRead? (rehearsal : BrokerRehearsal) (request : ReadRequest) :
    Option (Except BrokerError (List Delivery) × BrokerRehearsal) :=
  (rehearsal.broker.read? request.stream request.group request.consumer request.start
      request.count).map fun (answer, broker) =>
    let rehearsal := { rehearsal with broker := broker }
    match answer with
    | .ok [] =>
        if request.start = freshEntries ∧ 0 < request.block.nanos then
          let deadline := Instant.after rehearsal.now request.block
          let (page, rehearsal) :=
            rehearsal.listen request deadline (rehearsal.scheduled.length + 1)
          (.ok page, rehearsal)
        else
          (.ok [], rehearsal)
    | answer => (answer, rehearsal)

/-- Read entries, then publish what is due. -/
def read (rehearsal : BrokerRehearsal) (request : ReadRequest) :
    Option (Except BrokerError (List Delivery)) × BrokerRehearsal :=
  match rehearsal.awaitRead? request with
  | some (answer, rehearsal) => (some answer, Rehearsal.settle rehearsal)
  | none => (none, { rehearsal with crashed := true })

end BrokerRehearsal
end FuzzIntake
