import FuzzIntake.Intake
import FuzzIntake.Proofs.Broker.Calls
import FuzzIntake.Proofs.Lane.Books

/-!
# Runs of an intake

A run of an intake is a list of events: the actions of the intake in any order that is
possible, and what others do meanwhile, to the brokers, to the queue and to the stores.
Its ledger says what the queue took and what became of the batches.
-/

namespace FuzzIntake

/-- What the queue of an intake took, and the books of its warehouse. -/
@[ext]
structure Ledger where
  /-- The operations taken before the queue was found empty for the last time. -/
  accepted : List Operation
  /-- The operations taken after that. -/
  late : List Operation
  /-- The books of the warehouse. -/
  books : Books

namespace Ledger

/-- A ledger without entries. -/
def empty : Ledger :=
  ⟨[], [], .empty⟩

instance : Append Ledger where
  append earlier later :=
    ⟨earlier.accepted ++ later.accepted, earlier.late ++ later.late,
      earlier.books ++ later.books⟩

theorem append_assoc (first second third : Ledger) :
    first ++ second ++ third = first ++ (second ++ third) := by
  ext1
  · exact List.append_assoc _ _ _
  · exact List.append_assoc _ _ _
  · exact Books.append_assoc _ _ _

@[simp] theorem append_empty (ledger : Ledger) : ledger ++ empty = ledger := by
  ext1
  · exact List.append_nil _
  · exact List.append_nil _
  · exact Books.append_empty _

@[simp] theorem empty_append (ledger : Ledger) : empty ++ ledger = ledger := rfl

@[simp] theorem accepted_append (earlier later : Ledger) :
    (earlier ++ later).accepted = earlier.accepted ++ later.accepted := rfl

@[simp] theorem late_append (earlier later : Ledger) :
    (earlier ++ later).late = earlier.late ++ later.late := rfl

@[simp] theorem books_append (earlier later : Ledger) :
    (earlier ++ later).books = earlier.books ++ later.books := rfl

end Ledger

namespace Intake

/-- What can happen to an intake. -/
inductive Event
  /-- The intake does something. -/
  | act (action : Action)
  /-- The intake is started. -/
  | start
  /-- The token is cancelled. -/
  | cancel
  /-- Time goes on. -/
  | wait (instant : Instant)
  /-- Somebody else sends to the queue without waiting. -/
  | send (operations : List Operation)
  /-- The queue takes an operation from somebody else who may have waited. -/
  | offer (sender : Nat) (operation : Operation)
  /-- Somebody else begins to wait for room in the queue. -/
  | line (sender : Nat)
  /-- Somebody else waits no longer. -/
  | withdraw (sender : Nat)
  /-- Nobody else can send any more. -/
  | dropSender
  /-- Somebody calls the broker of a source. -/
  | callBroker (source : Nat) (call : LocalBroker.Call)
  /-- The broker of a source is told to crash its readers. -/
  | crashReads (source : Nat) (count : Nat)
  /-- A store is changed from outside. -/
  | touchStore (worker : Nat) (change : LocalStore → LocalStore)
  /-- A store is told how long to take. -/
  | delayStore (worker : Nat) (delay : Span)
  /-- A store is told to crash. -/
  | crashStore (worker : Nat) (count : Nat)

namespace Event

/-- A store that is told to crash. -/
def IsStoreCrash : Event → Prop
  | .crashStore _ _ => True
  | _ => False

/-- An operation that does not come from a consumer. -/
def IsForeignSend : Event → Prop
  | .send _ => True
  | .offer _ _ => True
  | _ => False

end Event

/-- Whether somebody else than the consumers can send under this number. -/
def admits (intake : Intake) (sender : Nat) : Bool :=
  intake.hasSender && intake.stage != .finished && decide (intake.sources.length ≤ sender)

/-- Change the broker of a source. -/
def withBroker (intake : Intake) (index : Nat) (source : Source) (broker : SwitchedBroker) :
    Intake :=
  intake.setSource index { source with broker := broker }

/-- The intake after an event, if the event is possible. -/
def happen? (intake : Intake) : Event → Option Intake
  | .act action => intake.act? action
  | .start => some intake.start
  | .cancel => some intake.cancel
  | .wait instant => if intake.now ≤ instant then some { intake with now := instant } else none
  | .send operations => some (intake.send operations).2
  | .offer sender operation =>
      if intake.admits sender then
        (intake.queue.send? sender operation).map fun queue => { intake with queue := queue }
      else
        none
  | .line sender =>
      if intake.admits sender then
        (intake.queue.stand? sender).map fun queue => { intake with queue := queue }
      else
        none
  | .withdraw sender =>
      if intake.admits sender then
        some { intake with queue := intake.queue.leave sender }
      else
        none
  | .dropSender => some { intake with hasSender := false }
  | .callBroker index call =>
      intake.sources[index]?.bind fun source =>
        (source.broker.broker.serve? call).map fun broker =>
          intake.withBroker index source { source.broker with broker := broker }
  | .crashReads index count =>
      intake.sources[index]?.map fun source =>
        intake.withBroker index source { source.broker with crashes := count }
  | .touchStore worker change =>
      (intake.warehouse.happen? (.touchStore worker change)).map fun warehouse =>
        { intake with warehouse := warehouse }
  | .delayStore worker delay =>
      (intake.warehouse.happen? (.delayStore worker delay)).map fun warehouse =>
        { intake with warehouse := warehouse }
  | .crashStore worker count =>
      (intake.warehouse.happen? (.crashStore worker count)).map fun warehouse =>
        { intake with warehouse := warehouse }

/-- The operations that the queue takes at an event. -/
def taken (intake : Intake) : Event → List Operation
  | .act (.enqueue index) =>
      (intake.sources[index]?.bind fun source => source.consumer.offered?).toList
  | .send operations => operations.take (intake.send operations).1
  | .offer _ operation => [operation]
  | _ => []

theorem taken_enqueue (intake : Intake) (index : Nat) :
    intake.taken (.act (.enqueue index)) =
      (intake.sources[index]?.bind fun source => source.consumer.offered?).toList := rfl

theorem taken_send (intake : Intake) (operations : List Operation) :
    intake.taken (.send operations) = operations.take (intake.send operations).1 := rfl

/-- What happens to the warehouse at an event. -/
def order? (intake : Intake) : Event → Option Warehouse.Event
  | .act (.work action) => some (.act intake.now action)
  | .act .submit =>
      match intake.flush.phase with
      | .submitting batch => some (.route batch)
      | _ => none
  | .act .close =>
      match intake.stage with
      | .collecting leftover => some (.shutdown leftover)
      | _ => none
  | .cancel => some .cancel
  | .touchStore worker change => some (.touchStore worker change)
  | .delayStore worker delay => some (.delayStore worker delay)
  | .crashStore worker count => some (.crashStore worker count)
  | _ => none

theorem order?_submit
    {intake : Intake}
    {batch : Batch}
    (submitting : intake.flush.phase = .submitting batch) :
    intake.order? (.act .submit) = some (.route batch) := by
  rw [order?, submitting]

theorem order?_close
    {intake : Intake}
    {leftover : List Operation}
    (collecting : intake.stage = .collecting leftover) :
    intake.order? (.act .close) = some (.shutdown leftover) := by
  rw [order?, collecting]

/-- Where nothing happens to the warehouse, it is not shut down. -/
theorem order?_ne_shutdown
    {intake : Intake}
    {event : Event}
    (noOrder : intake.order? event = none)
    (leftover : List Operation) :
    intake.order? event ≠ some (.shutdown leftover) := by
  rw [noOrder]
  nofun

/-- What an event adds to the books of the warehouse. -/
def bookings (intake : Intake) (event : Event) : Books :=
  match intake.order? event with
  | some order => intake.warehouse.entry order
  | none => .empty

/-- Whether the queue has been found empty for the last time. -/
def isDrained (intake : Intake) : Bool :=
  match intake.stage with
  | .closing => true
  | .finished => true
  | _ => false

/-- What an event adds to the ledger. -/
def entry (intake : Intake) (event : Event) : Ledger :=
  if intake.isDrained then
    ⟨[], intake.taken event, intake.bookings event⟩
  else
    ⟨intake.taken event, [], intake.bookings event⟩

/-- The intake after some events, with the ledger kept meanwhile, if they are possible. -/
def run? (intake : Intake) : List Event → Option (Ledger × Intake)
  | [] => some (.empty, intake)
  | event :: rest =>
      (intake.happen? event).bind fun next =>
        (next.run? rest).map fun (ledger, last) => (intake.entry event ++ ledger, last)

/-- A run of one event. -/
theorem run?_singleton
    {intake next : Intake}
    {event : Event}
    (happened : intake.happen? event = some next) :
    intake.run? [event] = some (intake.entry event, next) := by
  simp only [run?, happened, Option.bind_some, Option.map_some, Ledger.append_empty]

/-- One run after the other is a run, with the entries of both. -/
theorem run?_append
    {earlier later : List Event}
    {first middle last : Intake}
    {before after : Ledger}
    (ran : first.run? earlier = some (before, middle))
    (ranOn : middle.run? later = some (after, last)) :
    first.run? (earlier ++ later) = some (before ++ after, last) := by
  induction earlier generalizing first before with
  | nil =>
      obtain ⟨rfl, rfl⟩ := Prod.mk.inj (Option.some.inj ran)
      exact ranOn
  | cons event rest inductionHypothesis =>
      obtain ⟨next, happened, remains⟩ := Option.bind_eq_some_iff.mp ran
      obtain ⟨⟨ledger, reached⟩, ranThere, same⟩ := Option.map_eq_some_iff.mp remains
      obtain ⟨rfl, rfl⟩ := Prod.mk.inj same
      rw [List.cons_append, run?, happened, Option.bind_some, inductionHypothesis ranThere,
        Ledger.append_assoc]
      rfl

/-- What one event keeps, with the entry it makes, a whole run keeps. -/
theorem run?_induction
    (holds : Ledger → Intake → Prop)
    {events : List Event}
    {first last : Intake}
    {earlier later : Ledger}
    (step : ∀ event ∈ events, ∀ {ledger intake next}, holds ledger intake →
      intake.happen? event = some next → holds (ledger ++ intake.entry event) next)
    (start : holds earlier first)
    (ran : first.run? events = some (later, last)) :
    holds (earlier ++ later) last := by
  induction events generalizing first earlier later with
  | nil =>
      obtain ⟨rfl, rfl⟩ := Prod.mk.inj (Option.some.inj ran)
      rwa [Ledger.append_empty]
  | cons event rest inductionHypothesis =>
      obtain ⟨next, happened, remains⟩ := Option.bind_eq_some_iff.mp ran
      obtain ⟨⟨ledger, reached⟩, ranOn, same⟩ := Option.map_eq_some_iff.mp remains
      obtain ⟨rfl, rfl⟩ := Prod.mk.inj same
      rw [← Ledger.append_assoc]
      exact inductionHypothesis
        (fun other present => step other (List.mem_cons_of_mem event present))
        (step event List.mem_cons_self start happened) ranOn

end Intake
end FuzzIntake
