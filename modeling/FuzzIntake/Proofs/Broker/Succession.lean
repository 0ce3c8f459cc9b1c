import FuzzIntake.Proofs.Broker.Membership
import FuzzIntake.Proofs.Broker.Session

/-!
# Consumers that take turns

One consumer after the other takes the same name in a group that nobody else reads or
acknowledges in.  Each may be cut off at any moment.  A run is a list of events, and the
log of a run holds the records of all its consumers.
-/

namespace FuzzIntake

/-- Whether a call reads or acknowledges in a group. -/
def LocalBroker.Call.worksIn (name group : String) : LocalBroker.Call → Bool
  | .setUpGroup _ _ => false
  | call => call.target? = some (name, group)

namespace Session

open Consumer

/-- What can happen while consumers take turns at a broker. -/
inductive Event
  /-- The consumer does something at its broker. -/
  | move (move : Move)
  /-- The queue takes the operation on offer. -/
  | enqueue
  /-- The consumer ends, cancelled or before a closed queue. -/
  | stop
  /-- Somebody else calls the broker. -/
  | call (call : LocalBroker.Call)
  /-- The broker is told to crash its readers. -/
  | crashReads (count : Nat)
  /-- The consumer is cancelled. -/
  | cancel
  /-- Time goes on. -/
  | wait (instant : Instant)
  /-- Another consumer takes the name of this one, whatever this one was about to do. -/
  | restart (readCount : Nat) (readBlock errorBackoff : Span)

/-- A consumer in front of a broker without streams. -/
def new (settings : ConsumerSettings) : Session :=
  ⟨0, false, .empty, Consumer.new settings⟩

/-- A new consumer in the place of the old one. -/
def restart (session : Session) (readCount : Nat) (readBlock errorBackoff : Span) : Session :=
  { session with
    cancelled := false
    consumer := Consumer.new { session.consumer.settings with
      readCount := readCount
      readBlock := readBlock
      errorBackoff := errorBackoff } }

/--
The session after an event and the records of the consumer, if the event is possible.  A
consumer does not stop waiting as long as it finds something, and nobody else reads or
acknowledges in its group.
-/
def happen? (session : Session) : Event → Option (List Deed × Session)
  | .move move =>
      if move = .lapse ∧ (session.consumer.wake? session.now session.switched).isSome then
        none
      else
        (session.consumer.move? session.now session.cancelled session.switched move).map
          fun (consumer, switched) =>
            (session.consumer.deedsOf session.now session.switched move,
              { session with consumer := consumer, switched := switched })
  | .enqueue =>
      match session.consumer.phase with
      | .enqueuing entry operation _ =>
          session.consumer.enqueued?.map fun consumer =>
            ([.enqueued entry operation], { session with consumer := consumer })
      | _ => none
  | .stop =>
      if session.consumer.isInterruptible then
        some ([.stopped], { session with consumer := session.consumer.stop })
      else
        none
  | .call call =>
      if call.worksIn session.consumer.settings.stream session.consumer.settings.group then
        none
      else
        (session.switched.broker.serve? call).map fun broker =>
          ([], { session with switched := { session.switched with broker := broker } })
  | .crashReads count =>
      some ([], { session with switched := { session.switched with crashes := count } })
  | .cancel => some ([], { session with cancelled := true })
  | .wait instant =>
      if session.now ≤ instant then some ([], { session with now := instant }) else none
  | .restart readCount readBlock errorBackoff =>
      some ([], session.restart readCount readBlock errorBackoff)

/-- Events one after the other, with the records of all consumers, if all are possible. -/
def run? (session : Session) : List Event → Option (List Deed × Session)
  | [] => some ([], session)
  | event :: rest =>
      (session.happen? event).bind fun (deeds, next) =>
        (next.run? rest).map fun (log, last) => (deeds ++ log, last)

/-- The calls that a session makes at its broker or lets others make. -/
inductive Asks (session : Session) : LocalBroker.Call → Prop
  /-- The consumer reads. -/
  | look (start : String) (count : Nat) :
      Asks session (.readNow session.consumer.settings.stream session.consumer.settings.group
        session.consumer.settings.consumer start count)
  /-- The consumer acknowledges the entry it has dealt with. -/
  | acknowledge {entry : Delivery} {rest : List Delivery} :
      session.consumer.phase = .acknowledging entry rest →
      Asks session (.acknowledge session.consumer.settings.stream
        session.consumer.settings.group [entry.id])
  /-- A call has nothing to do with what the group has handed out. -/
  | outside {call : LocalBroker.Call} :
      call.worksIn session.consumer.settings.stream session.consumer.settings.group = false →
      Asks session call

end Session

/-- A call that does not work in a group does not read in the name of its members. -/
theorem LocalBroker.Call.not_readsFor_of_worksIn
    {call : LocalBroker.Call}
    {name group consumer : String}
    (idle : call.worksIn name group = false) :
    ¬ call.ReadsFor name group consumer := by
  intro reads
  have target := Call.target?_of_readsFor reads
  cases call with
  | setUpGroup => exact reads
  | _ => simp [worksIn, target] at idle

namespace Session

open Consumer

variable {session next : Session} {event : Event} {deeds : List Deed}

/-! ## What an event does -/

/-- A run begins with its first event. -/
theorem run?_cons
    {last : Session}
    {rest : List Event}
    {log : List Deed}
    (ran : session.run? (event :: rest) = some (log, last)) :
    ∃ deeds next later, session.happen? event = some (deeds, next) ∧
      next.run? rest = some (later, last) ∧ log = deeds ++ later := by
  obtain ⟨⟨deeds, next⟩, happened, remains⟩ := Option.bind_eq_some_iff.mp ran
  obtain ⟨⟨later, _⟩, ranOn, same⟩ := Option.map_eq_some_iff.mp remains
  obtain ⟨rfl, rfl⟩ := Prod.mk.inj same
  exact ⟨deeds, next, later, happened, ranOn, rfl⟩

/-- The broker stays as it is. -/
theorem asks_nothing (session : Session) :
    ∃ call, session.Asks call ∧
      session.switched.broker.Change call session.switched.broker :=
  ⟨.failReads 0, .outside rfl, .nothing rfl⟩

/-- An exchange changes the broker as a call that the consumer makes. -/
theorem asks_of_exchange
    {consumer : Consumer}
    {broker : LocalBroker}
    (exchange : Exchange session.consumer session.switched.broker deeds consumer broker) :
    ∃ call, session.Asks call ∧ session.switched.broker.Change call broker := by
  cases exchange with
  | join joining => exact ⟨_, .outside rfl, LocalBroker.change_of_setUpGroup _ _ _⟩
  | crash waiting => exact session.asks_nothing
  | listen deadline reading fresh answered =>
      exact ⟨_, .look freshEntries 0, answered.change ⟨rfl, rfl, rfl⟩⟩
  | receive now waiting answered =>
      exact ⟨_, .look freshEntries 0, answered.change ⟨rfl, rfl, rfl⟩⟩
  | lapse now listening => exact session.asks_nothing
  | acknowledge now acknowledging answered =>
      refine ⟨_, .acknowledge acknowledging, LocalBroker.change_of_serve? ?_⟩
      rw [LocalBroker.serve?, answered]
  | resume now pausing due => exact session.asks_nothing

/--
An event changes the broker as a call that is made or let pass.  It is a step of the
session, or a new consumer takes the place of the old one.
-/
theorem cases_of_happen?
    (happened : session.happen? event = some (deeds, next)) :
    (∃ call, session.Asks call ∧ session.switched.broker.Change call next.switched.broker) ∧
      (Step session deeds next ∨
        (deeds = [] ∧ ∃ readCount readBlock errorBackoff,
          next = session.restart readCount readBlock errorBackoff)) := by
  cases event with
  | move move =>
      rw [happen?, Option.ite_none_left_eq_some] at happened
      obtain ⟨⟨consumer, switched⟩, moved, same⟩ := Option.map_eq_some_iff.mp happened.2
      obtain ⟨rfl, rfl⟩ := Prod.mk.inj same
      exact ⟨asks_of_exchange (exchange_of_move? moved), .inl (.move move moved)⟩
  | enqueue =>
      rw [happen?] at happened
      split at happened
      · next entry operation rest entering =>
          obtain ⟨consumer, enqueued, same⟩ := Option.map_eq_some_iff.mp happened
          obtain ⟨rfl, rfl⟩ := Prod.mk.inj same
          exact ⟨session.asks_nothing, .inl (.enqueue entering enqueued)⟩
      · cases happened
  | stop =>
      rw [happen?, Option.ite_none_right_eq_some] at happened
      obtain ⟨rfl, rfl⟩ := Prod.mk.inj (Option.some.inj happened.2)
      exact ⟨session.asks_nothing, .inl (.stop happened.1)⟩
  | call call =>
      rw [happen?, Option.ite_none_left_eq_some, Bool.not_eq_true] at happened
      obtain ⟨idle, answered⟩ := happened
      obtain ⟨broker, served, same⟩ := Option.map_eq_some_iff.mp answered
      obtain ⟨rfl, rfl⟩ := Prod.mk.inj same
      exact ⟨⟨call, .outside idle, LocalBroker.change_of_serve? served⟩,
        .inl (.call call (LocalBroker.Call.not_readsFor_of_worksIn idle) served)⟩
  | crashReads count =>
      obtain ⟨rfl, rfl⟩ := Prod.mk.inj (Option.some.inj happened)
      exact ⟨session.asks_nothing, .inl (.crashReads count)⟩
  | cancel =>
      obtain ⟨rfl, rfl⟩ := Prod.mk.inj (Option.some.inj happened)
      exact ⟨session.asks_nothing, .inl .cancel⟩
  | wait instant =>
      rw [happen?, Option.ite_none_right_eq_some] at happened
      obtain ⟨rfl, rfl⟩ := Prod.mk.inj (Option.some.inj happened.2)
      exact ⟨session.asks_nothing, .inl (.wait instant happened.1)⟩
  | restart readCount readBlock errorBackoff =>
      obtain ⟨rfl, rfl⟩ := Prod.mk.inj (Option.some.inj happened)
      exact ⟨session.asks_nothing, .inr ⟨rfl, readCount, readBlock, errorBackoff, rfl⟩⟩

end Session
end FuzzIntake
