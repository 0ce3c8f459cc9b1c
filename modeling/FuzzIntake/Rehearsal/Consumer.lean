import FuzzIntake.Broker.Consumer
import FuzzIntake.Queue
import FuzzIntake.Rehearsal.Clock

/-!
# Rehearsing consumers

Runs of consumers in virtual time, all at one broker and each in front of a queue
of its own.  A run whose name another one takes goes on without a receiver for its
queue.
-/

namespace FuzzIntake

/-- A consumer in front of a queue. -/
structure ConsumerRun where
  /-- The name of the run, unless another run has taken it. -/
  label : Option String
  /-- The consumer. -/
  consumer : Consumer
  /-- The queue. -/
  queue : Queue
  /-- Whether the queue still has a receiver. -/
  queueOpen : Bool
  /-- Whether the run is cancelled. -/
  cancelled : Bool
  /-- Whether the result of the run has been asked for and given. -/
  polled : Bool

namespace ConsumerRun

/-- A run that has not started yet. -/
def new (label : String) (settings : ConsumerSettings) (capacity : Nat) (cancelled : Bool) :
    ConsumerRun :=
  ⟨some label, Consumer.new settings, Queue.new capacity, true, cancelled, false⟩

/-- Drop the receiver of the queue and what is in it. -/
def closeQueue (run : ConsumerRun) : ConsumerRun :=
  { run with queueOpen := false, queue := { run.queue with items := [] } }

/-- Give the name of the run away. -/
def lose (run : ConsumerRun) : ConsumerRun :=
  { run.closeQueue with label := none }

/-- Cancel the run. -/
def cancel (run : ConsumerRun) : ConsumerRun :=
  { run with cancelled := true }

/-- The result of a run that has ended, unless it has been given. -/
def result? (run : ConsumerRun) : Option ConsumerResult :=
  if run.polled then none else run.consumer.result?

/-- The consumer ends when it is cancelled or its queue is closed. -/
def stop? (run : ConsumerRun) : Option ConsumerRun :=
  let refused := run.consumer.offered?.isSome && !run.queueOpen
  if run.consumer.isInterruptible && (run.cancelled || refused) then
    some { run with consumer := run.consumer.stop, queue := run.queue.leave 0 }
  else
    none

/-- The queue takes the operation on offer, or the consumer waits for room. -/
def offer? (run : ConsumerRun) : Option ConsumerRun :=
  run.consumer.offered?.bind fun operation =>
    match run.queue.send? 0 operation with
    | some queue =>
        run.consumer.enqueued?.map fun consumer =>
          { run with consumer := consumer, queue := queue }
    | none => (run.queue.stand? 0).map fun queue => { run with queue := queue }

/-- The first thing that can happen to the run now. -/
def step? (run : ConsumerRun) (now : Instant) (broker : SwitchedBroker) :
    Option (ConsumerRun × SwitchedBroker) :=
  let moved := Consumer.moves.findSome? fun move =>
    run.consumer.move? now run.cancelled broker move
  (run.stop?.map fun run => (run, broker)).or
    ((moved.map fun (consumer, broker) => ({ run with consumer := consumer }, broker)).or
      (run.offer?.map fun run => (run, broker)))

end ConsumerRun

/-- Runs at one broker with a clock. -/
structure ConsumerRehearsal where
  /-- The present instant. -/
  now : Instant
  /-- The broker. -/
  broker : SwitchedBroker
  /-- The runs, oldest first. -/
  runs : List ConsumerRun

namespace ConsumerRehearsal

/-- No runs at a broker without streams. -/
def new : ConsumerRehearsal :=
  ⟨0, .empty, []⟩

/-- The first of the runs to which something can happen goes on. -/
def stepRuns? (now : Instant) (broker : SwitchedBroker) :
    List ConsumerRun → Option (List ConsumerRun × SwitchedBroker)
  | [] => none
  | run :: rest =>
      match run.step? now broker with
      | some (run, broker) => some (run :: rest, broker)
      | none => (stepRuns? now broker rest).map fun (rest, broker) => (run :: rest, broker)

instance : Rehearsable ConsumerRehearsal where
  now := now
  setNow instant rehearsal := { rehearsal with now := instant }
  step? rehearsal :=
    (stepRuns? rehearsal.now rehearsal.broker rehearsal.runs).map fun (runs, broker) =>
      { rehearsal with runs := runs, broker := broker }
  alarms rehearsal := rehearsal.runs.filterMap fun run => run.consumer.alarm?

/-- The run of a name. -/
def run? (rehearsal : ConsumerRehearsal) (label : String) : Option ConsumerRun :=
  rehearsal.runs.find? fun run => run.label == some label

/-- Change the run of a name and let everything happen that can. -/
def change (rehearsal : ConsumerRehearsal) (label : String)
    (change : ConsumerRun → ConsumerRun) : ConsumerRehearsal :=
  Rehearsal.settle { rehearsal with
    runs := rehearsal.runs.map fun run => if run.label == some label then change run else run }

/-- Start a run in place of one of the same name. -/
def start (rehearsal : ConsumerRehearsal) (run : ConsumerRun) : ConsumerRehearsal :=
  let others := rehearsal.runs.map fun other =>
    if other.label == run.label then other.lose else other
  Rehearsal.settle { rehearsal with runs := others ++ [run] }

/-- Change the broker and let everything happen that can. -/
def changeBroker (rehearsal : ConsumerRehearsal) (change : SwitchedBroker → SwitchedBroker) :
    ConsumerRehearsal :=
  Rehearsal.settle { rehearsal with broker := change rehearsal.broker }

/-- Take the oldest operations from the queue of a run, then let the consumer go on. -/
def receive (rehearsal : ConsumerRehearsal) (label : String) (limit : Nat) :
    List Operation × ConsumerRehearsal :=
  let taken := (rehearsal.run? label).map fun run => run.queue.items.take limit
  (taken.getD [],
    rehearsal.change label fun run =>
      { run with queue := { run.queue with items := run.queue.items.drop limit } })

/-- The result of a run, which is given once. -/
def poll (rehearsal : ConsumerRehearsal) (label : String) :
    Option ConsumerResult × ConsumerRehearsal :=
  match (rehearsal.run? label).bind ConsumerRun.result? with
  | some result => (some result, rehearsal.change label fun run => { run with polled := true })
  | none => (none, rehearsal)

/-- Cancel every run that has its name. -/
def cancelAll (rehearsal : ConsumerRehearsal) : ConsumerRehearsal :=
  Rehearsal.settle { rehearsal with
    runs := rehearsal.runs.map fun run => if run.label.isSome then run.cancel else run }

/-- The results not given yet, each with the name of its run. -/
def unpolled (rehearsal : ConsumerRehearsal) : List (String × ConsumerResult) :=
  rehearsal.runs.filterMap fun run =>
    run.label.bind fun label => run.result?.map (label, ·)

end ConsumerRehearsal
end FuzzIntake
