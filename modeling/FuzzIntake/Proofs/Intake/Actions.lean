import FuzzIntake.Proofs.Intake.Run

/-!
# What an event does

`Effect` opens every action of an intake once, and `Occurrence` everything else that happens to
it: when it is possible, which of the parts take part in it, and what the intake is afterwards.
-/

namespace FuzzIntake
namespace Intake

/-- What an action does, and when it is possible. -/
inductive Effect (intake : Intake) : Action → Intake → Prop
  /-- A consumer does something at its broker. -/
  | consume {index : Nat} {move : Consumer.Move} {source : Source} {consumer : Consumer}
      {broker : SwitchedBroker} :
      intake.stage = .running → intake.sources[index]? = some source →
      source.consumer.move? intake.now intake.cancelled source.broker move =
        some (consumer, broker) →
      Effect intake (.consume index move)
        (intake.setSource index { source with consumer := consumer, broker := broker })
  /-- A consumer puts its operation into the queue. -/
  | enqueue {index : Nat} {source : Source} {operation : Operation} {queue : Queue}
      {consumer : Consumer} :
      intake.stage = .running → intake.cancelled = false →
      intake.sources[index]? = some source → source.consumer.offered? = some operation →
      intake.queue.send? index operation = some queue →
      source.consumer.enqueued? = some consumer →
      Effect intake (.enqueue index)
        { (intake.setSource index { source with consumer := consumer }) with queue := queue }
  /-- A consumer waits for room in the queue. -/
  | stand {index : Nat} {source : Source} {operation : Operation} {queue : Queue} :
      intake.stage = .running → intake.cancelled = false →
      intake.sources[index]? = some source → source.consumer.offered? = some operation →
      intake.queue.send? index operation = none → intake.queue.stand? index = some queue →
      Effect intake (.stand index) { intake with queue := queue }
  /-- A cancelled consumer ends. -/
  | halt {index : Nat} {source : Source} :
      intake.stage = .running → intake.cancelled = true →
      intake.sources[index]? = some source → source.consumer.isInterruptible = true →
      Effect intake (.halt index)
        { (intake.setSource index { source with consumer := source.consumer.stop }) with
          queue := intake.queue.leave index }
  /-- The flush loop looks at the clock. -/
  | look {flush : FlushLoop} :
      intake.stage = .running → intake.flush.react? intake.now .look = some flush →
      Effect intake .look { intake with flush := flush }
  /-- The flush loop takes an operation from the queue. -/
  | receive {operation : Operation} {queue : Queue} {flush : FlushLoop} :
      intake.stage = .running → (intake.isWaiting && intake.flushCancelled) = false →
      intake.queue.pop? = some (operation, queue) →
      intake.flush.react? intake.now (.receive operation) = some flush →
      Effect intake .receive { intake with queue := queue, flush := flush }
  /-- The flush loop finds nothing more in the queue. -/
  | runDry {flush : FlushLoop} :
      intake.stage = .running → intake.queue.items = [] →
      intake.flush.react? intake.now .runDry = some flush →
      Effect intake .runDry { intake with flush := flush }
  /-- The wait of the flush loop is over. -/
  | lapse {flush : FlushLoop} :
      intake.stage = .running → intake.flushCancelled = false → intake.queue.items = [] →
      intake.flush.react? intake.now .lapse = some flush →
      Effect intake .lapse { intake with flush := flush }
  /-- The flush loop is cancelled, or nobody can send to it any more. -/
  | stopFlush {flush : FlushLoop} :
      intake.stage = .running →
      (intake.flushCancelled || (intake.isUnfed && intake.queue.items.isEmpty)) = true →
      intake.flush.react? intake.now .stop = some flush →
      Effect intake .stopFlush { intake with flush := flush }
  /-- The batch that the flush loop is submitting is routed. -/
  | submit {batch : Batch} {warehouse : Warehouse} {flush : FlushLoop} :
      intake.stage = .running → intake.flush.phase = .submitting batch →
      intake.warehouse.route? batch = some warehouse →
      intake.flush.react? intake.now .accept = some flush →
      Effect intake .submit { intake with warehouse := warehouse, flush := flush }
  /-- The batch that the flush loop is submitting comes back. -/
  | refuse {batch : Batch} {flush : FlushLoop} :
      intake.stage = .running → intake.flush.phase = .submitting batch →
      intake.warehouse.pool.cancelled = true → (intake.warehouse.route? batch).isNone = true →
      intake.flush.react? intake.now .refuse = some flush →
      Effect intake .refuse { intake with flush := flush }
  /-- Something happens in the warehouse. -/
  | work {action : Warehouse.Action} {warehouse : Warehouse} :
      (intake.stage == .ready) = false →
      intake.warehouse.act? intake.now action = some warehouse →
      Effect intake (.work action) { intake with warehouse := warehouse }
  /-- All consumers have ended; the flush loop is to stop. -/
  | release :
      intake.stage = .running → intake.cancelled = true → intake.flushCancelled = false →
      intake.sources.all hasEnded = true →
      Effect intake .release { intake with flushCancelled := true }
  /-- The flush loop has ended. -/
  | collect {leftover : List Operation} :
      intake.stage = .running → intake.flushCancelled = true →
      intake.flush.leftover? = some leftover →
      Effect intake .collect { intake with stage := .collecting leftover }
  /-- The oldest operation of the queue joins those left over. -/
  | gather {leftover : List Operation} {operation : Operation} {queue : Queue} :
      intake.stage = .collecting leftover → intake.queue.pop? = some (operation, queue) →
      Effect intake .gather
        { intake with queue := queue, stage := .collecting (leftover ++ [operation]) }
  /-- The warehouse is closed once the queue is empty. -/
  | close {leftover : List Operation} :
      intake.stage = .collecting leftover → intake.queue.items = [] →
      Effect intake .close
        { intake with warehouse := intake.warehouse.shutdown leftover, stage := .closing }
  /-- The intake finishes once its warehouse is closed. -/
  | finish :
      intake.stage = .closing → intake.warehouse.isOver = true →
      Effect intake .finish { intake with stage := .finished }

variable {intake next : Intake}

theorem stage_of_isRunning (running : intake.isRunning = true) : intake.stage = .running := by
  rw [isRunning] at running
  cases stage : intake.stage with
  | running => rfl
  | _ =>
      rw [stage] at running
      exact absurd running Bool.false_ne_true

theorem effect_of_consume?
    {index : Nat}
    {move : Consumer.Move}
    (consumed : intake.consume? index move = some next) :
    Effect intake (.consume index move) next := by
  obtain ⟨running, consumed⟩ := Option.ite_none_right_eq_some.mp consumed
  obtain ⟨source, found, consumed⟩ := Option.bind_eq_some_iff.mp consumed
  obtain ⟨moved, took, rfl⟩ := Option.map_eq_some_iff.mp consumed
  exact .consume (stage_of_isRunning running) found took

theorem effect_of_enqueue?
    {index : Nat}
    (enqueued : intake.enqueue? index = some next) :
    Effect intake (.enqueue index) next := by
  obtain ⟨⟨running, going⟩, enqueued⟩ := Option.ite_none_right_eq_some.mp enqueued
  obtain ⟨source, found, enqueued⟩ := Option.bind_eq_some_iff.mp enqueued
  obtain ⟨operation, offered, enqueued⟩ := Option.bind_eq_some_iff.mp enqueued
  obtain ⟨queue, room, enqueued⟩ := Option.bind_eq_some_iff.mp enqueued
  obtain ⟨consumer, sent, rfl⟩ := Option.map_eq_some_iff.mp enqueued
  exact .enqueue (stage_of_isRunning running) (by simpa using going) found offered room sent

theorem effect_of_stand?
    {index : Nat}
    (stood : intake.stand? index = some next) :
    Effect intake (.stand index) next := by
  obtain ⟨⟨running, going⟩, stood⟩ := Option.ite_none_right_eq_some.mp stood
  obtain ⟨source, found, stood⟩ := Option.bind_eq_some_iff.mp stood
  obtain ⟨operation, offered, stood⟩ := Option.bind_eq_some_iff.mp stood
  split at stood
  · cases stood
  · next full =>
      obtain ⟨queue, joined, rfl⟩ := Option.map_eq_some_iff.mp stood
      exact .stand (stage_of_isRunning running) (by simpa using going) found offered full joined

theorem effect_of_halt?
    {index : Nat}
    (halted : intake.halt? index = some next) :
    Effect intake (.halt index) next := by
  obtain ⟨⟨running, cancelled⟩, halted⟩ := Option.ite_none_right_eq_some.mp halted
  obtain ⟨source, found, halted⟩ := Option.bind_eq_some_iff.mp halted
  obtain ⟨interruptible, halted⟩ := Option.ite_none_right_eq_some.mp halted
  obtain rfl := Option.some.inj halted
  exact .halt (stage_of_isRunning running) cancelled found interruptible

theorem effect_of_submit?
    (running : intake.stage = .running)
    (submitted : intake.submit? = some next) :
    Effect intake .submit next := by
  rw [submit?] at submitted
  split at submitted
  · next batch submitting =>
      obtain ⟨warehouse, routed, signalled⟩ := Option.bind_eq_some_iff.mp submitted
      obtain ⟨flush, reacted, rfl⟩ := Option.map_eq_some_iff.mp signalled
      exact .submit running submitting routed reacted
  · cases submitted

theorem effect_of_refuse?
    (running : intake.stage = .running)
    (refused : intake.refuse? = some next) :
    Effect intake .refuse next := by
  rw [refuse?] at refused
  split at refused
  · next batch submitting =>
      obtain ⟨⟨cancelled, full⟩, signalled⟩ := Option.ite_none_right_eq_some.mp refused
      obtain ⟨flush, reacted, rfl⟩ := Option.map_eq_some_iff.mp signalled
      exact .refuse running submitting cancelled full reacted
  · cases refused

theorem effect_of_act?
    {action : Action}
    (acted : intake.act? action = some next) :
    Effect intake action next := by
  cases action with
  | consume index move => exact effect_of_consume? acted
  | enqueue index => exact effect_of_enqueue? acted
  | stand index => exact effect_of_stand? acted
  | halt index => exact effect_of_halt? acted
  | look =>
      obtain ⟨running, signalled⟩ := Option.ite_none_right_eq_some.mp acted
      obtain ⟨flush, reacted, rfl⟩ := Option.map_eq_some_iff.mp signalled
      exact .look (stage_of_isRunning running) reacted
  | receive =>
      obtain ⟨⟨running, going⟩, received⟩ := Option.ite_none_right_eq_some.mp acted
      obtain ⟨⟨operation, queue⟩, popped, signalled⟩ := Option.bind_eq_some_iff.mp received
      obtain ⟨flush, reacted, rfl⟩ := Option.map_eq_some_iff.mp signalled
      exact .receive (stage_of_isRunning running) (Bool.not_eq_true' _ ▸ going) popped reacted
  | runDry =>
      obtain ⟨⟨running, empty⟩, signalled⟩ := Option.ite_none_right_eq_some.mp acted
      obtain ⟨flush, reacted, rfl⟩ := Option.map_eq_some_iff.mp signalled
      exact .runDry (stage_of_isRunning running) empty reacted
  | lapse =>
      obtain ⟨⟨running, going, empty⟩, signalled⟩ := Option.ite_none_right_eq_some.mp acted
      obtain ⟨flush, reacted, rfl⟩ := Option.map_eq_some_iff.mp signalled
      exact .lapse (stage_of_isRunning running) (by simpa using going) empty reacted
  | stopFlush =>
      obtain ⟨⟨running, unfed⟩, signalled⟩ := Option.ite_none_right_eq_some.mp acted
      obtain ⟨flush, reacted, rfl⟩ := Option.map_eq_some_iff.mp signalled
      exact .stopFlush (stage_of_isRunning running) unfed reacted
  | submit =>
      obtain ⟨running, submitted⟩ := Option.ite_none_right_eq_some.mp acted
      exact effect_of_submit? (stage_of_isRunning running) submitted
  | refuse =>
      obtain ⟨running, refused⟩ := Option.ite_none_right_eq_some.mp acted
      exact effect_of_refuse? (stage_of_isRunning running) refused
  | work action =>
      obtain ⟨started, worked⟩ := Option.ite_none_left_eq_some.mp acted
      obtain ⟨warehouse, happened, rfl⟩ := Option.map_eq_some_iff.mp worked
      exact .work (Bool.eq_false_iff.mpr started) happened
  | release =>
      obtain ⟨⟨running, cancelled, going, ended⟩, released⟩ :=
        Option.ite_none_right_eq_some.mp acted
      obtain rfl := Option.some.inj released
      exact .release (stage_of_isRunning running) cancelled (by simpa using going) ended
  | collect =>
      obtain ⟨⟨running, cancelled⟩, collected⟩ := Option.ite_none_right_eq_some.mp acted
      obtain ⟨leftover, found, rfl⟩ := Option.map_eq_some_iff.mp collected
      exact .collect (stage_of_isRunning running) cancelled found
  | gather =>
      rw [act?] at acted
      split at acted
      · next leftover collecting =>
          obtain ⟨⟨operation, queue⟩, popped, rfl⟩ := Option.map_eq_some_iff.mp acted
          exact .gather collecting popped
      · cases acted
  | close =>
      rw [act?] at acted
      split at acted
      · next leftover collecting =>
          obtain ⟨empty, closed⟩ := Option.ite_none_right_eq_some.mp acted
          obtain rfl := Option.some.inj closed
          exact .close collecting (List.isEmpty_iff.mp empty)
      · cases acted
  | finish =>
      rw [act?] at acted
      split at acted
      · next closing closed =>
          exact Option.some.inj acted ▸ .finish closing (by simp [Warehouse.isOver, closed])
      · next closing crashed =>
          exact Option.some.inj acted ▸ .finish closing (by simp [Warehouse.isOver, crashed])
      · cases acted

/-- What an event does, and when it is possible. -/
inductive Occurrence (intake : Intake) : Event → Intake → Prop
  /-- The intake does something. -/
  | act {action : Action} {next : Intake} :
      intake.act? action = some next → Occurrence intake (.act action) next
  /-- The intake is started. -/
  | start :
      intake.stage = .ready → Occurrence intake .start { intake with stage := .running }
  /-- The intake was started before. -/
  | startAgain :
      intake.stage ≠ .ready → Occurrence intake .start intake
  /-- The token is cancelled. -/
  | cancel : Occurrence intake .cancel intake.cancel
  /-- Time goes on. -/
  | wait {instant : Instant} :
      intake.now ≤ instant → Occurrence intake (.wait instant) { intake with now := instant }
  /-- Somebody else sends without waiting. -/
  | send (operations : List Operation) :
      Occurrence intake (.send operations) (intake.send operations).2
  /-- The queue takes an operation from somebody else. -/
  | offer {sender : Nat} {operation : Operation} {queue : Queue} :
      intake.admits sender = true → intake.queue.send? sender operation = some queue →
      Occurrence intake (.offer sender operation) { intake with queue := queue }
  /-- Somebody else begins to wait for room. -/
  | line {sender : Nat} {queue : Queue} :
      intake.admits sender = true → intake.queue.stand? sender = some queue →
      Occurrence intake (.line sender) { intake with queue := queue }
  /-- Somebody else waits no longer. -/
  | withdraw {sender : Nat} :
      intake.admits sender = true →
      Occurrence intake (.withdraw sender) { intake with queue := intake.queue.leave sender }
  /-- Nobody else can send any more. -/
  | dropSender : Occurrence intake .dropSender { intake with hasSender := false }
  /-- Somebody calls the broker of a source. -/
  | callBroker {index : Nat} {call : LocalBroker.Call} {source : Source} {broker : LocalBroker} :
      intake.sources[index]? = some source → source.broker.broker.serve? call = some broker →
      Occurrence intake (.callBroker index call)
        (intake.withBroker index source { source.broker with broker := broker })
  /-- The broker of a source is told to crash its readers. -/
  | crashReads {index : Nat} {source : Source} (count : Nat) :
      intake.sources[index]? = some source →
      Occurrence intake (.crashReads index count)
        (intake.withBroker index source { source.broker with crashes := count })
  /-- A store is changed from outside. -/
  | touchStore {worker : Nat} {change : LocalStore → LocalStore} {warehouse : Warehouse} :
      intake.warehouse.happen? (.touchStore worker change) = some warehouse →
      Occurrence intake (.touchStore worker change) { intake with warehouse := warehouse }
  /-- A store is told how long to take. -/
  | delayStore {worker : Nat} {delay : Span} {warehouse : Warehouse} :
      intake.warehouse.happen? (.delayStore worker delay) = some warehouse →
      Occurrence intake (.delayStore worker delay) { intake with warehouse := warehouse }
  /-- A store is told to crash. -/
  | crashStore {worker : Nat} {count : Nat} {warehouse : Warehouse} :
      intake.warehouse.happen? (.crashStore worker count) = some warehouse →
      Occurrence intake (.crashStore worker count) { intake with warehouse := warehouse }

theorem occurrence_of_start (intake : Intake) : Occurrence intake .start intake.start := by
  rw [start]
  split
  · next ready => exact .start ready
  · next started => exact .startAgain started

theorem occurrence_of_happen?
    {event : Event}
    (happened : intake.happen? event = some next) :
    Occurrence intake event next := by
  cases event with
  | act action => exact .act happened
  | start => exact Option.some.inj happened ▸ intake.occurrence_of_start
  | cancel => exact Option.some.inj happened ▸ .cancel
  | wait instant =>
      obtain ⟨later, happened⟩ := Option.ite_none_right_eq_some.mp happened
      exact Option.some.inj happened ▸ .wait later
  | send operations => exact Option.some.inj happened ▸ .send operations
  | offer sender operation =>
      obtain ⟨admitted, happened⟩ := Option.ite_none_right_eq_some.mp happened
      obtain ⟨queue, sent, rfl⟩ := Option.map_eq_some_iff.mp happened
      exact .offer admitted sent
  | line sender =>
      obtain ⟨admitted, happened⟩ := Option.ite_none_right_eq_some.mp happened
      obtain ⟨queue, joined, rfl⟩ := Option.map_eq_some_iff.mp happened
      exact .line admitted joined
  | withdraw sender =>
      obtain ⟨admitted, happened⟩ := Option.ite_none_right_eq_some.mp happened
      exact Option.some.inj happened ▸ .withdraw admitted
  | dropSender => exact Option.some.inj happened ▸ .dropSender
  | callBroker index call =>
      obtain ⟨source, found, happened⟩ := Option.bind_eq_some_iff.mp happened
      obtain ⟨broker, served, rfl⟩ := Option.map_eq_some_iff.mp happened
      exact .callBroker found served
  | crashReads index count =>
      obtain ⟨source, found, rfl⟩ := Option.map_eq_some_iff.mp happened
      exact .crashReads count found
  | touchStore worker change =>
      rw [happen?] at happened
      obtain ⟨warehouse, touched, rfl⟩ := Option.map_eq_some_iff.mp happened
      exact .touchStore touched
  | delayStore worker delay =>
      rw [happen?] at happened
      obtain ⟨warehouse, delayed, rfl⟩ := Option.map_eq_some_iff.mp happened
      exact .delayStore delayed
  | crashStore worker count =>
      rw [happen?] at happened
      obtain ⟨warehouse, told, rfl⟩ := Option.map_eq_some_iff.mp happened
      exact .crashStore told

end Intake
end FuzzIntake
