import FuzzIntake.Proofs.Broker.Session
import FuzzIntake.Proofs.Intake.Flow

/-!
# What an event does to the parts of an intake

An event moves one part of the queue at most, sends the flush loop one signal at most and lets
one source go on at most.  An intake goes on to its end only after all its consumers have
ended.
-/

namespace FuzzIntake

/-- What can happen to a queue, if nobody sends without waiting. -/
inductive Queue.Step (queue : Queue) : Queue → Prop
  /-- The queue stays as it is. -/
  | stay : Step queue queue
  /-- The queue takes an operation. -/
  | send {sender : Nat} {operation : Operation} {next : Queue} :
      queue.send? sender operation = some next → Step queue next
  /-- Somebody begins to wait. -/
  | stand {sender : Nat} {next : Queue} : queue.stand? sender = some next → Step queue next
  /-- Somebody waits no longer. -/
  | leave (sender : Nat) : Step queue (queue.leave sender)
  /-- The oldest operation is taken out. -/
  | pop {operation : Operation} {next : Queue} :
      queue.pop? = some (operation, next) → Step queue next

/-- What can happen to a source, with the operations it sends, if others make only calls of
some kind at its broker. -/
inductive Source.Step (allowed : LocalBroker.Call → Prop) (source : Source) :
    List Operation → Source → Prop
  /-- The consumer does something at its broker. -/
  | move {now : Instant} {cancelled : Bool} {move : Consumer.Move} {consumer : Consumer}
      {broker : SwitchedBroker} :
      source.consumer.move? now cancelled source.broker move = some (consumer, broker) →
      Step allowed source [] { source with consumer := consumer, broker := broker }
  /-- The queue takes the operation on offer. -/
  | enqueue {operation : Operation} {consumer : Consumer} :
      source.consumer.offered? = some operation → source.consumer.enqueued? = some consumer →
      Step allowed source [operation] { source with consumer := consumer }
  /-- The consumer ends where it stands. -/
  | stop :
      source.consumer.isInterruptible = true →
      Step allowed source [] { source with consumer := source.consumer.stop }
  /-- Somebody calls the broker. -/
  | call {call : LocalBroker.Call} {broker : LocalBroker} :
      allowed call → source.broker.broker.serve? call = some broker →
      Step allowed source [] { source with broker := { source.broker with broker := broker } }
  /-- The broker is told to crash its readers. -/
  | crashReads (count : Nat) :
      Step allowed source [] { source with broker := { source.broker with crashes := count } }

/-- Only a consumer that has not ended does anything. -/
theorem Consumer.Step.running
    {consumer next : Consumer}
    {deeds : List Consumer.Deed}
    (step : consumer.Step deeds next) :
    consumer.result? = none := by
  cases step with
  | join _ phase | listen _ phase | enqueue phase | acknowledge _ _ phase | resume _ phase =>
      rw [result?, phase]
  | receive _ _ waiting | crash waiting =>
      rcases waiting with phase | ⟨deadline, phase⟩
      · rw [result?, phase]
      · rw [result?, phase]
  | stop interruptible =>
      rw [result?]
      split
      · next result phase =>
          rw [isInterruptible, phase] at interruptible
          cases interruptible
      · rfl

/-- A consumer that has ended does not begin again. -/
theorem Source.Step.ended
    {allowed : LocalBroker.Call → Prop}
    {source later : Source}
    {sent : List Operation}
    (step : source.Step allowed sent later)
    (ended : source.consumer.result? ≠ none) :
    later.consumer.result? ≠ none := by
  cases step with
  | move moved => exact absurd (Consumer.exchange_of_move? moved).step.running ended
  | enqueue offered enqueued =>
      rw [Consumer.offered?] at offered
      split at offered
      · next entry operation rest phase =>
          rw [Consumer.result?, phase] at ended
          exact absurd rfl ended
      · cases offered
  | stop interruptible => exact Option.some_ne_none _
  | call | crashReads => exact ended

namespace Intake

/-- An intake whose flush loop may still take operations from the queue. -/
def IsReading (intake : Intake) : Prop :=
  intake.stage = .ready ∨ intake.stage = .running

/-- An intake whose consumers have all ended. -/
def IsDeserted (intake : Intake) : Prop :=
  ∀ source ∈ intake.sources, source.consumer.result? ≠ none

/-- What an event does to queue, flush loop and sources, and what must be over when it goes on
to the end. -/
structure Motion (allowed : LocalBroker.Call → Prop) (intake : Intake) (event : Event)
    (next : Intake) : Prop where
  queue : intake.queue.Step next.queue
  flush : next.flush = intake.flush ∨
    ∃ signal, intake.flush.react? intake.now signal = some next.flush
  sources : (next.sources = intake.sources ∧ (intake.entry event).accepted = []) ∨
    ∃ index source later, intake.sources[index]? = some source ∧
      next.sources = intake.sources.set index later ∧
      source.Step allowed (intake.entry event).accepted later
  silent : ¬ next.IsReading → (intake.entry event).accepted = []
  released : next.flushCancelled = true → intake.flushCancelled = true ∨ next.IsDeserted
  reading : intake.flushCancelled = false → intake.IsReading → next.IsReading

variable {allowed : LocalBroker.Call → Prop} {intake next : Intake} {event : Event}

/-- An intake that its consumers have left stays without consumers. -/
theorem Motion.isDeserted
    (motion : Motion allowed intake event next)
    (deserted : intake.IsDeserted) :
    next.IsDeserted := by
  intro source present
  rcases motion.sources with ⟨same, -⟩ | ⟨index, before, later, found, replaced, step⟩
  · exact deserted source (same ▸ present)
  · rw [replaced] at present
    rcases List.mem_or_eq_of_mem_set present with old | rfl
    · exact deserted source old
    · exact step.ended (deserted before (List.mem_of_getElem? found))

/-- If an intake reads until its consumers have left it, so it does afterwards. -/
theorem Motion.deserted
    (motion : Motion allowed intake event next)
    (before : intake.flushCancelled = true ∨ ¬ intake.IsReading → intake.IsDeserted)
    (stopped : next.flushCancelled = true ∨ ¬ next.IsReading) :
    next.IsDeserted := by
  rcases stopped with cancelled | notReading
  · rcases motion.released cancelled with already | deserted
    · exact motion.isDeserted (before (.inl already))
    · exact deserted
  · refine motion.isDeserted (before ?_)
    by_contra stillReading
    rw [not_or, not_not, Bool.not_eq_true] at stillReading
    exact notReading (motion.reading stillReading.1 stillReading.2)

/-- An event that has no effect on flush loop and sources. -/
theorem motion_of_same
    (noneTaken : intake.taken event = [])
    (queue : intake.queue.Step next.queue)
    (sameFlush : next.flush = intake.flush)
    (sameSources : next.sources = intake.sources)
    (sameSignal : next.flushCancelled = intake.flushCancelled)
    (reading : intake.flushCancelled = false → intake.IsReading → next.IsReading) :
    Motion allowed intake event next where
  queue := queue
  flush := .inl sameFlush
  sources := .inl ⟨sameSources, accepted_entry_of_nil noneTaken⟩
  silent _ := accepted_entry_of_nil noneTaken
  released cancelled := .inl (sameSignal ▸ cancelled)
  reading := reading

/-- An event in which a source takes part and sends nothing. -/
theorem motion_of_source
    {index : Nat}
    {source later : Source}
    (noneTaken : intake.taken event = [])
    (queue : intake.queue.Step next.queue)
    (found : intake.sources[index]? = some source)
    (step : source.Step allowed [] later)
    (sameFlush : next.flush = intake.flush)
    (replaced : next.sources = intake.sources.set index later)
    (sameSignal : next.flushCancelled = intake.flushCancelled)
    (sameStage : next.stage = intake.stage) :
    Motion allowed intake event next where
  queue := queue
  flush := .inl sameFlush
  sources := .inr ⟨index, source, later, found, replaced,
    (accepted_entry_of_nil noneTaken).symm ▸ step⟩
  silent _ := accepted_entry_of_nil noneTaken
  released cancelled := .inl (sameSignal ▸ cancelled)
  reading _ reading := by rwa [IsReading, sameStage]

/-- A signal to the flush loop has no effect on the sources. -/
theorem motion_of_react?
    {signal : FlushSignal}
    {queue : Queue}
    {flush : FlushLoop}
    (noneTaken : intake.taken event = [])
    (step : intake.queue.Step queue)
    (reacted : intake.flush.react? intake.now signal = some flush)
    (warehouse : Warehouse) :
    Motion allowed intake event
      { intake with queue := queue, flush := flush, warehouse := warehouse } where
  queue := step
  flush := .inr ⟨signal, reacted⟩
  sources := .inl ⟨rfl, accepted_entry_of_nil noneTaken⟩
  silent _ := accepted_entry_of_nil noneTaken
  released := .inl
  reading _ := id

theorem motion_of_enqueue
    {index : Nat}
    (enqueued : intake.act? (.enqueue index) = some next) :
    Motion allowed intake (.act (.enqueue index)) next := by
  cases effect_of_act? enqueued with
  | @enqueue _ source operation queue consumer running _ found offered room sent =>
      have accepted : (intake.entry (.act (.enqueue index))).accepted = [operation] := by
        rw [accepted_entry (by rw [isDrained, running]), taken, found, Option.bind_some, offered,
          Option.toList_some]
      exact {
        queue := .send room
        flush := .inl rfl
        sources := .inr ⟨index, source, _, found, rfl, accepted ▸ .enqueue offered sent⟩
        silent := fun notReading => absurd (.inr running) notReading
        released := .inl
        reading := fun _ => id }

/-- The flush loop is released after all consumers have ended. -/
theorem motion_of_release
    (released : intake.act? .release = some next) :
    Motion allowed intake (.act .release) next := by
  cases effect_of_act? released with
  | release _ _ _ allEnded =>
      exact {
        queue := .stay
        flush := .inl rfl
        sources := .inl ⟨rfl, accepted_entry_of_nil rfl⟩
        silent := fun _ => accepted_entry_of_nil rfl
        released := fun _ => .inr fun source present =>
          Option.isSome_iff_ne_none.mp (List.all_eq_true.mp allEnded source present)
        reading := fun _ => id }

/-- Every action moves the parts of an intake as listed. -/
theorem motion_of_act?
    {action : Action}
    (acted : intake.act? action = some next) :
    Motion allowed intake (.act action) next := by
  cases effect_of_act? acted with
  | consume _ found took => exact motion_of_source rfl .stay found (.move took) rfl rfl rfl rfl
  | enqueue _ _ _ _ _ _ => exact motion_of_enqueue acted
  | stand _ _ _ _ _ joined => exact motion_of_same rfl (.stand joined) rfl rfl rfl fun _ => id
  | @halt index _ _ _ found interruptible =>
      exact motion_of_source rfl (.leave index) found (.stop interruptible) rfl rfl rfl rfl
  | look _ reacted | runDry _ _ reacted | lapse _ _ _ reacted | stopFlush _ _ reacted
  | refuse _ _ _ _ reacted => exact motion_of_react? rfl .stay reacted intake.warehouse
  | receive _ _ popped reacted => exact motion_of_react? rfl (.pop popped) reacted intake.warehouse
  | submit _ _ _ reacted => exact motion_of_react? rfl .stay reacted _
  | work _ _ => exact motion_of_same rfl .stay rfl rfl rfl fun _ => id
  | release _ _ _ _ => exact motion_of_release acted
  | collect _ cancelled _ =>
      refine motion_of_same rfl .stay rfl rfl rfl fun notCancelled => ?_
      exact absurd (notCancelled.symm.trans cancelled) Bool.noConfusion
  | gather collecting popped =>
      refine motion_of_same rfl (.pop popped) rfl rfl rfl fun _ reading => ?_
      simp [IsReading, collecting] at reading
  | close collecting _ =>
      refine motion_of_same rfl .stay rfl rfl rfl fun _ reading => ?_
      simp [IsReading, collecting] at reading
  | finish closing _ =>
      refine motion_of_same rfl .stay rfl rfl rfl fun _ reading => ?_
      simp [IsReading, closing] at reading

/-- Every event but the sending of others moves the parts of an intake as listed. -/
theorem motion_of_happen?
    (ownOnly : ¬ event.IsForeignSend)
    (permitted : ∀ index call, event = .callBroker index call → allowed call)
    (happened : intake.happen? event = some next) :
    Motion allowed intake event next := by
  cases occurrence_of_happen? happened with
  | act acted => exact motion_of_act? acted
  | start _ => exact motion_of_same rfl .stay rfl rfl rfl fun _ _ => .inr rfl
  | send _ => exact absurd trivial ownOnly
  | offer _ _ => exact absurd trivial ownOnly
  | line _ joined => exact motion_of_same rfl (.stand joined) rfl rfl rfl fun _ => id
  | @withdraw sender _ => exact motion_of_same rfl (.leave sender) rfl rfl rfl fun _ => id
  | @callBroker index call _ _ found served =>
      exact motion_of_source rfl .stay found (.call (permitted index call rfl) served) rfl rfl
        rfl rfl
  | crashReads count found =>
      exact motion_of_source rfl .stay found (.crashReads count) rfl rfl rfl rfl
  | startAgain _ | cancel | wait _ | dropSender | touchStore _ | delayStore _ | crashStore _ =>
      exact motion_of_same rfl .stay rfl rfl rfl fun _ => id

end Intake
end FuzzIntake
