import FuzzIntake.Proofs.Broker.Conversation
import FuzzIntake.Proofs.Broker.Soundness

/-!
# Consumers at a broker in memory

A session is a consumer at a broker in memory that others call as well.  Its log holds
the answers the broker really gave, so a run of a session is also a run of its consumer
before an arbitrary broker.  Others may do anything but read in the consumer's own name.
-/

namespace FuzzIntake
namespace Consumer

/-- The records of a move, with the answers of the broker. -/
def deedsOf (consumer : Consumer) (now : Instant) (switched : SwitchedBroker) :
    Move → List Deed
  | .join =>
      let s := consumer.settings
      [.joined (switched.broker.setUpGroup s.stream s.group).1]
  | .read =>
      let s := consumer.settings
      if 0 < switched.crashes then
        [.crashed]
      else
        match switched.broker.read? s.stream s.group s.consumer consumer.start s.readCount with
        | none => [.crashed]
        | some (.ok [], _) =>
            if consumer.start = freshEntries ∧ 0 < s.readBlock.nanos then
              []
            else
              [.read consumer.start (.ok [])]
        | some (answer, _) => .read consumer.start answer :: turning (pageOf answer)
  | .wake =>
      let s := consumer.settings
      match switched.broker.readNow? s.stream s.group s.consumer consumer.start s.readCount with
      | none => [.crashed]
      | some (answer, _) => .read consumer.start answer :: turning (pageOf answer)
  | .lapse => [.read consumer.start (.ok [])]
  | .acknowledge =>
      match consumer.phase with
      | .acknowledging entry rest =>
          let s := consumer.settings
          let (answer, _) := switched.broker.acknowledge s.stream s.group [entry.id]
          .acknowledged now [entry.id] answer :: turningAfter rest answer
      | _ => []
  | .resume => [.resumed now]

/-- What a move can do to a consumer and to its broker, with the records it makes. -/
inductive Exchange (consumer : Consumer) (broker : LocalBroker) :
    List Deed → Consumer → LocalBroker → Prop
  /-- The request for the group is answered. -/
  | join :
      consumer.phase = .joining →
      Exchange consumer broker
        [.joined (broker.setUpGroup consumer.settings.stream consumer.settings.group).1]
        (consumer.joined
          (broker.setUpGroup consumer.settings.stream consumer.settings.group).1)
        (broker.setUpGroup consumer.settings.stream consumer.settings.group).2
  /-- A read crashes the consumer. -/
  | crash :
      (consumer.phase = .reading ∨ ∃ deadline, consumer.phase = .listening deadline) →
      Exchange consumer broker [.crashed] consumer.crash broker
  /-- A read of new entries finds none and waits. -/
  | listen {next : LocalBroker} (deadline : Instant) :
      consumer.phase = .reading → consumer.start = freshEntries →
      broker.Reading consumer.settings.stream consumer.settings.group
        consumer.settings.consumer consumer.start consumer.settings.readCount (.ok []) next →
      Exchange consumer broker [] { consumer with phase := .listening deadline } next
  /-- A read is answered. -/
  | receive {next : LocalBroker} (now : Instant)
      {answer : Except BrokerError (List Delivery)} :
      (consumer.phase = .reading ∨ ∃ deadline, consumer.phase = .listening deadline) →
      broker.Reading consumer.settings.stream consumer.settings.group
        consumer.settings.consumer consumer.start consumer.settings.readCount answer next →
      Exchange consumer broker (.read consumer.start answer :: turning (pageOf answer))
        (consumer.received now answer) next
  /-- The wait for new entries is over. -/
  | lapse (now : Instant) {deadline : Instant} :
      consumer.phase = .listening deadline →
      Exchange consumer broker [.read consumer.start (.ok [])]
        (consumer.received now (.ok [])) broker
  /-- An acknowledgement is answered. -/
  | acknowledge {next : LocalBroker} (now : Instant) {entry : Delivery}
      {rest : List Delivery} {answer : Except BrokerError Unit} :
      consumer.phase = .acknowledging entry rest →
      broker.acknowledge consumer.settings.stream consumer.settings.group [entry.id] =
        (answer, next) →
      Exchange consumer broker (.acknowledged now [entry.id] answer :: turningAfter rest answer)
        (consumer.acknowledged now rest answer) next
  /-- The pause is over. -/
  | resume (now : Instant) {resumeAt : Instant} :
      consumer.phase = .pausing resumeAt → resumeAt ≤ now →
      Exchange consumer broker [.resumed now] { consumer with phase := .reading } broker

/-- The beginning of a read crashes the consumer, waits, or is answered. -/
theorem exchange_of_beginRead
    (consumer : Consumer)
    (now : Instant)
    (switched : SwitchedBroker)
    (reading : consumer.phase = .reading) :
    Exchange consumer switched.broker (consumer.deedsOf now switched .read)
      (consumer.beginRead now switched).1 (consumer.beginRead now switched).2.broker := by
  simp only [deedsOf, beginRead]
  split
  · exact .crash (.inl reading)
  · cases served : switched.broker.read? consumer.settings.stream consumer.settings.group
      consumer.settings.consumer consumer.start consumer.settings.readCount with
    | none => exact .crash (.inl reading)
    | some response =>
        obtain ⟨answer, next⟩ := response
        have answered := LocalBroker.reading_of_read? served
        cases answer with
        | error error => exact .receive now (.inl reading) answered
        | ok page =>
            cases page with
            | cons entry rest => exact .receive now (.inl reading) answered
            | nil =>
                simp only
                split
                · next waits => exact .listen _ reading waits.1 answered
                · exact .receive now (.inl reading) answered

/-- New entries that have come while waiting are the answer to the read that waits. -/
theorem exchange_of_wake?
    {consumer next : Consumer}
    {now deadline : Instant}
    {switched after : SwitchedBroker}
    (listening : consumer.phase = .listening deadline)
    (woken : consumer.wake? now switched = some (next, after)) :
    Exchange consumer switched.broker (consumer.deedsOf now switched .wake) next
      after.broker := by
  rw [wake?] at woken
  rw [deedsOf]
  cases served : switched.broker.readNow? consumer.settings.stream consumer.settings.group
    consumer.settings.consumer consumer.start consumer.settings.readCount with
  | none =>
      simp only [served, Option.some.injEq, Prod.mk.injEq] at woken
      obtain ⟨rfl, rfl⟩ := woken
      exact .crash (.inr ⟨deadline, listening⟩)
  | some response =>
      obtain ⟨answer, broker⟩ := response
      have answered := LocalBroker.reading_of_readNow? served
      simp only [served] at woken
      cases answer with
      | error error =>
          obtain ⟨rfl, rfl⟩ := Prod.mk.inj (Option.some.inj woken)
          exact .receive now (.inr ⟨deadline, listening⟩) answered
      | ok page =>
          cases page with
          | nil => simp at woken
          | cons entry rest =>
              obtain ⟨rfl, rfl⟩ := Prod.mk.inj (Option.some.inj woken)
              exact .receive now (.inr ⟨deadline, listening⟩) answered

/-- A move is an exchange with the broker, and its records tell what was exchanged. -/
theorem exchange_of_move?
    {consumer next : Consumer}
    {now : Instant}
    {cancelled : Bool}
    {switched after : SwitchedBroker}
    {move : Move}
    (moved : consumer.move? now cancelled switched move = some (next, after)) :
    Exchange consumer switched.broker (consumer.deedsOf now switched move) next
      after.broker := by
  cases move with
  | join =>
      rw [move?] at moved
      split at moved
      · next joining =>
          obtain ⟨rfl, rfl⟩ := Prod.mk.inj (Option.some.inj moved)
          exact .join joining
      · simp at moved
  | read =>
      rw [move?] at moved
      split at moved
      · next reading =>
          split at moved
          · simp at moved
          · have begun := consumer.exchange_of_beginRead now switched reading
            rwa [Option.some.inj moved] at begun
      · simp at moved
  | wake =>
      rw [move?] at moved
      split at moved
      · next deadline listening =>
          split at moved
          · simp at moved
          · exact exchange_of_wake? listening moved
      · simp at moved
  | lapse =>
      rw [move?] at moved
      split at moved
      · next deadline listening =>
          rw [Option.ite_none_right_eq_some] at moved
          obtain ⟨rfl, rfl⟩ := Prod.mk.inj (Option.some.inj moved.2)
          exact .lapse now listening
      · simp at moved
  | acknowledge =>
      rw [move?] at moved
      split at moved
      · next entry rest acknowledging =>
          obtain ⟨rfl, rfl⟩ := Prod.mk.inj (Option.some.inj moved)
          simp only [deedsOf, acknowledging]
          exact .acknowledge now acknowledging rfl
      · simp at moved
  | resume =>
      rw [move?] at moved
      split at moved
      · next resumeAt pausing =>
          rw [Option.ite_none_right_eq_some] at moved
          obtain ⟨⟨-, due⟩, moved⟩ := moved
          obtain ⟨rfl, rfl⟩ := Prod.mk.inj (Option.some.inj moved)
          exact .resume now pausing due
      · simp at moved

/-- An exchange is a step of the consumer. -/
theorem Exchange.step
    {consumer next : Consumer}
    {broker after : LocalBroker}
    {deeds : List Deed}
    (exchange : Exchange consumer broker deeds next after) :
    Step consumer deeds next := by
  cases exchange with
  | join joining => exact .join _ joining
  | crash waiting => exact .crash waiting
  | listen deadline reading _ _ => exact .listen deadline reading
  | receive now waiting _ => exact .receive now _ waiting
  | lapse now listening => exact .receive now (.ok []) (.inr ⟨_, listening⟩)
  | acknowledge now acknowledging _ => exact .acknowledge now _ acknowledging
  | resume now pausing due => exact .resume now pausing due

end Consumer

/-- A consumer at a broker in memory. -/
structure Session where
  /-- The present instant. -/
  now : Instant
  /-- Whether the consumer is cancelled. -/
  cancelled : Bool
  /-- The broker. -/
  switched : SwitchedBroker
  /-- The consumer. -/
  consumer : Consumer

namespace Session

/-- What can happen in a session, with the records of the consumer. -/
inductive Step : Session → List Consumer.Deed → Session → Prop
  /-- The consumer does something at its broker. -/
  | move {session : Session} {consumer : Consumer} {switched : SwitchedBroker}
      (move : Consumer.Move) :
      session.consumer.move? session.now session.cancelled session.switched move =
        some (consumer, switched) →
      Step session (session.consumer.deedsOf session.now session.switched move)
        { session with consumer := consumer, switched := switched }
  /-- The queue takes the operation on offer. -/
  | enqueue {session : Session} {consumer : Consumer} {entry : Delivery}
      {operation : Operation} {rest : List Delivery} :
      session.consumer.phase = .enqueuing entry operation rest →
      session.consumer.enqueued? = some consumer →
      Step session [.enqueued entry operation] { session with consumer := consumer }
  /-- The consumer ends, cancelled or before a closed queue. -/
  | stop {session : Session} :
      session.consumer.isInterruptible = true →
      Step session [.stopped] { session with consumer := session.consumer.stop }
  /-- Somebody else calls the broker. -/
  | call {session : Session} {broker : LocalBroker} (call : LocalBroker.Call) :
      ¬ call.ReadsFor session.consumer.settings.stream session.consumer.settings.group
        session.consumer.settings.consumer →
      session.switched.broker.serve? call = some broker →
      Step session []
        { session with switched := { session.switched with broker := broker } }
  /-- The broker is told to crash its readers. -/
  | crashReads {session : Session} (count : Nat) :
      Step session [] { session with switched := { session.switched with crashes := count } }
  /-- The consumer is cancelled. -/
  | cancel {session : Session} :
      Step session [] { session with cancelled := true }
  /-- Time goes on. -/
  | wait {session : Session} (instant : Instant) :
      session.now ≤ instant → Step session [] { session with now := instant }

/-- A run of a session, told by the records of its consumer. -/
inductive Run : Session → List Consumer.Deed → Session → Prop
  | done (session : Session) : Run session [] session
  | step {session next last : Session} {deeds log : List Consumer.Deed} :
      Step session deeds next → Run next log last → Run session (deeds ++ log) last

/-- The moves of the consumer one after the other, with their records, if all are possible. -/
def play? (session : Session) : List Consumer.Move → Option (List Consumer.Deed × Session)
  | [] => some ([], session)
  | move :: rest =>
      (session.consumer.move? session.now session.cancelled session.switched move).bind
        fun (consumer, switched) =>
          (play? { session with consumer := consumer, switched := switched } rest).map
            fun (log, last) =>
              (session.consumer.deedsOf session.now session.switched move ++ log, last)

/-- Moves that are possible one after the other are a run. -/
theorem run_of_play?
    {first last : Session}
    {moves : List Consumer.Move}
    {log : List Consumer.Deed}
    (played : first.play? moves = some (log, last)) :
    Run first log last := by
  induction moves generalizing first log with
  | nil =>
      obtain ⟨rfl, rfl⟩ := Prod.mk.inj (Option.some.inj played)
      exact .done first
  | cons move rest inductionHypothesis =>
      obtain ⟨⟨consumer, switched⟩, moved, later⟩ := Option.bind_eq_some_iff.mp played
      obtain ⟨⟨log, last⟩, remains, same⟩ := Option.map_eq_some_iff.mp later
      obtain ⟨rfl, rfl⟩ := Prod.mk.inj same
      exact .step (.move move moved) (inductionHypothesis remains)

/-- What happens in a session is a step of its consumer, or leaves the consumer alone. -/
theorem Step.consumer
    {session next : Session}
    {deeds : List Consumer.Deed}
    (step : Step session deeds next) :
    Consumer.Step session.consumer deeds next.consumer ∨
      (deeds = [] ∧ next.consumer = session.consumer) := by
  cases step with
  | move move moved => exact .inl (Consumer.exchange_of_move? moved).step
  | enqueue entering enqueued => exact .inl (.enqueue entering enqueued)
  | stop interruptible => exact .inl (.stop interruptible)
  | call call _ _ => exact .inr ⟨rfl, rfl⟩
  | crashReads count => exact .inr ⟨rfl, rfl⟩
  | cancel => exact .inr ⟨rfl, rfl⟩
  | wait instant _ => exact .inr ⟨rfl, rfl⟩

/-- A run of a session is a run of its consumer before an arbitrary broker and queue. -/
theorem Run.consumer
    {first last : Session}
    {log : List Consumer.Deed}
    (run : Run first log last) :
    Consumer.Run first.consumer log last.consumer := by
  induction run with
  | done session => exact .done session.consumer
  | step step _ inductionHypothesis =>
      rcases step.consumer with stepped | ⟨rfl, same⟩
      · exact .step stepped inductionHypothesis
      · rwa [List.nil_append, ← same]

end Session
end FuzzIntake
