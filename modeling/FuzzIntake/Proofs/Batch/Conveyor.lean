import FuzzIntake.Proofs.Batch.Accumulator
import FuzzIntake.Proofs.Batch.Order

/-!
# Runs of a flush loop

A conveyor is a flush loop between its queue and a sink.  A run of it is a list of events in
any order that is possible: what senders do at the queue, a cancellation, and what the loop
and the sink do.  The sink takes or refuses each batch as it likes and when it likes.  The
records of a run say what was sent, popped, submitted, accepted and refused.
-/

namespace FuzzIntake

/-- A flush loop between its queue and a sink. -/
structure Conveyor where
  /-- The present instant. -/
  now : Instant
  /-- The queue that the loop takes operations from. -/
  queue : Queue
  /-- Whether anybody can send. -/
  hasSender : Bool
  /-- Whether the loop is cancelled. -/
  cancelled : Bool
  /-- The loop. -/
  loop : FlushLoop

namespace Conveyor

/-- A conveyor whose loop has taken nothing yet. -/
def new (limits : BatchLimits) (capacity : Nat) (now : Instant) : Conveyor where
  now := now
  queue := Queue.new capacity
  hasSender := true
  cancelled := false
  loop := FlushLoop.new limits

/-- What can happen to a conveyor. -/
inductive Event
  /-- Time goes on. -/
  | wait (instant : Instant)
  /-- Somebody sends without waiting. -/
  | send (operations : List Operation)
  /-- The queue takes an operation from somebody who may have waited. -/
  | offer (sender : Nat) (operation : Operation)
  /-- Somebody begins to wait for room in the queue. -/
  | line (sender : Nat)
  /-- Somebody waits no longer. -/
  | withdraw (sender : Nat)
  /-- Nobody can send any more. -/
  | dropSender
  /-- The loop is cancelled. -/
  | cancel
  /-- The loop looks at the clock. -/
  | look
  /-- The loop takes an operation from the queue. -/
  | receive
  /-- The loop finds the queue empty. -/
  | runDry
  /-- The loop has waited long enough. -/
  | lapse
  /-- The loop ends, cancelled or without senders. -/
  | stop
  /-- The sink takes the batch. -/
  | accept
  /-- The sink refuses the batch. -/
  | refuse

/-- What is told of a run. -/
inductive Record
  /-- The queue took an operation. -/
  | sent (operation : Operation)
  /-- The loop took an operation from the queue. -/
  | popped (operation : Operation)
  /-- The loop began to hand a batch to the sink. -/
  | submitted (batch : Batch)
  /-- The sink took a batch. -/
  | accepted (batch : Batch)
  /-- The sink refused a batch. -/
  | refused (batch : Batch)

namespace Record

/-- The operation that was sent, if one was. -/
def sent? : Record → Option Operation
  | .sent operation => some operation
  | _ => none

/-- The operations of an accepted batch. -/
def delivered : Record → List Operation
  | .accepted batch => batch.operations
  | _ => []

/-- Whether a batch was refused. -/
def IsRefusal : Record → Prop
  | .refused _ => True
  | _ => False

end Record

/-- Whether the loop is waiting for an operation. -/
def isWaiting (conveyor : Conveyor) : Bool :=
  match conveyor.loop.phase with
  | .waiting _ => true
  | _ => false

/-- The signal that an event sends to the loop, if it may be sent now, and the queue after it. -/
def cue? (conveyor : Conveyor) : Event → Option (FlushSignal × Queue)
  | .look => some (.look, conveyor.queue)
  | .receive =>
      if conveyor.isWaiting && conveyor.cancelled then
        none
      else
        conveyor.queue.pop?.map fun (operation, queue) => (.receive operation, queue)
  | .runDry => if conveyor.queue.items.isEmpty then some (.runDry, conveyor.queue) else none
  | .lapse =>
      if !conveyor.cancelled && conveyor.queue.items.isEmpty then
        some (.lapse, conveyor.queue)
      else
        none
  | .stop =>
      if conveyor.cancelled || !conveyor.hasSender && conveyor.queue.items.isEmpty then
        some (.stop, conveyor.queue)
      else
        none
  | .accept => some (.accept, conveyor.queue)
  | .refuse => some (.refuse, conveyor.queue)
  | _ => none

/-- Send the loop the signal of an event. -/
def react? (conveyor : Conveyor) (event : Event) : Option Conveyor :=
  (conveyor.cue? event).bind fun (signal, queue) =>
    (conveyor.loop.react? conveyor.now signal).map fun loop =>
      { conveyor with loop := loop, queue := queue }

/-- The conveyor after an event, if the event is possible. -/
def happen? (conveyor : Conveyor) : Event → Option Conveyor
  | .wait instant =>
      if conveyor.now ≤ instant then some { conveyor with now := instant } else none
  | .send operations =>
      if conveyor.hasSender then
        some { conveyor with queue := (conveyor.queue.sendAll operations).2 }
      else
        none
  | .offer sender operation =>
      if conveyor.hasSender then
        (conveyor.queue.send? sender operation).map fun queue => { conveyor with queue := queue }
      else
        none
  | .line sender =>
      if conveyor.hasSender then
        (conveyor.queue.stand? sender).map fun queue => { conveyor with queue := queue }
      else
        none
  | .withdraw sender => some { conveyor with queue := conveyor.queue.leave sender }
  | .dropSender => some { conveyor with hasSender := false }
  | .cancel => some { conveyor with cancelled := true }
  | event => conveyor.react? event

/-- The operations that the queue takes at an event. -/
def taken (conveyor : Conveyor) : Event → List Operation
  | .send operations => operations.take (conveyor.queue.sendAll operations).1
  | .offer _ operation => [operation]
  | _ => []

/-- What is told of a signal that takes a loop to another. -/
def signalRecords (loop next : FlushLoop) : FlushSignal → List Record
  | .look => next.offered?.toList.map .submitted
  | .receive operation => .popped operation :: next.offered?.toList.map .submitted
  | .accept => loop.offered?.toList.map .accepted
  | .refuse => loop.offered?.toList.map .refused
  | _ => []

@[simp] theorem signalRecords_look (loop next : FlushLoop) :
    signalRecords loop next .look = next.offered?.toList.map .submitted := rfl

@[simp] theorem signalRecords_receive (loop next : FlushLoop) (operation : Operation) :
    signalRecords loop next (.receive operation) =
      .popped operation :: next.offered?.toList.map .submitted := rfl

@[simp] theorem signalRecords_accept (loop next : FlushLoop) :
    signalRecords loop next .accept = loop.offered?.toList.map .accepted := rfl

@[simp] theorem signalRecords_refuse (loop next : FlushLoop) :
    signalRecords loop next .refuse = loop.offered?.toList.map .refused := rfl

/-- What is told of an event that takes a conveyor to another. -/
def records (conveyor next : Conveyor) (event : Event) : List Record :=
  (conveyor.taken event).map .sent ++
    match conveyor.cue? event with
    | some (signal, _) => signalRecords conveyor.loop next.loop signal
    | none => []

/-- The conveyor after some events, with what is told of them, if they are possible. -/
def run? (conveyor : Conveyor) : List Event → Option (List Record × Conveyor)
  | [] => some ([], conveyor)
  | event :: rest =>
      (conveyor.happen? event).bind fun next =>
        (next.run? rest).map fun (later, last) => (conveyor.records next event ++ later, last)

/-- A run continued where it ended is one run, and tells what both parts tell. -/
theorem run?_append
    {earlier later : List Event}
    {first middle last : Conveyor}
    {before after : List Record}
    (ran : first.run? earlier = some (before, middle))
    (ranOn : middle.run? later = some (after, last)) :
    first.run? (earlier ++ later) = some (before ++ after, last) := by
  induction earlier generalizing first before with
  | nil =>
      obtain ⟨rfl, rfl⟩ := Prod.mk.inj (Option.some.inj ran)
      exact ranOn
  | cons event rest inductionHypothesis =>
      obtain ⟨next, happened, remains⟩ := Option.bind_eq_some_iff.mp ran
      obtain ⟨⟨told, reached⟩, ranThere, same⟩ := Option.map_eq_some_iff.mp remains
      obtain ⟨rfl, rfl⟩ := Prod.mk.inj same
      rw [List.cons_append, run?, happened, Option.bind_some, inductionHypothesis ranThere,
        List.append_assoc]
      rfl

/-- What one event keeps, with what is told of it, a whole run keeps. -/
theorem run?_induction
    (holds : List Record → Conveyor → Prop)
    (step : ∀ {told conveyor event next}, holds told conveyor →
      conveyor.happen? event = some next → holds (told ++ conveyor.records next event) next)
    {events : List Event}
    {first last : Conveyor}
    {earlier later : List Record}
    (start : holds earlier first)
    (ran : first.run? events = some (later, last)) :
    holds (earlier ++ later) last := by
  induction events generalizing first earlier later with
  | nil =>
      obtain ⟨rfl, rfl⟩ := Prod.mk.inj (Option.some.inj ran)
      rwa [List.append_nil]
  | cons event rest inductionHypothesis =>
      obtain ⟨next, happened, remains⟩ := Option.bind_eq_some_iff.mp ran
      obtain ⟨⟨told, reached⟩, ranOn, same⟩ := Option.map_eq_some_iff.mp remains
      obtain ⟨rfl, rfl⟩ := Prod.mk.inj same
      rw [← List.append_assoc]
      exact inductionHypothesis (step start happened) ranOn

/-- An event sends the loop a signal, or else it leaves the loop alone and the queue grows by
what it takes. -/
inductive Move (conveyor : Conveyor) (event : Event) (next : Conveyor) : Prop
  | signal (signal : FlushSignal)
      (cued : conveyor.cue? event = some (signal, next.queue))
      (reacted : conveyor.loop.react? conveyor.now signal = some next.loop)
      (items : conveyor.queue.items = signal.received ++ next.queue.items)
      (noneTaken : conveyor.taken event = [])
  | outside
      (noCue : conveyor.cue? event = none)
      (sameLoop : next.loop = conveyor.loop)
      (items : next.queue.items = conveyor.queue.items ++ conveyor.taken event)

variable {conveyor next : Conveyor} {event : Event}

/-- The queue gives the loop what the signal brings, and nothing else. -/
theorem items_of_cue?
    {signal : FlushSignal}
    {queue : Queue}
    (cued : conveyor.cue? event = some (signal, queue)) :
    conveyor.queue.items = signal.received ++ queue.items := by
  cases event with
  | receive =>
      obtain ⟨-, cued⟩ := Option.ite_none_left_eq_some.mp cued
      obtain ⟨⟨operation, rest⟩, popped, same⟩ := Option.map_eq_some_iff.mp cued
      obtain ⟨rfl, rfl⟩ := Prod.mk.inj same
      exact Queue.items_of_pop? popped
  | look | accept | refuse =>
      obtain ⟨rfl, rfl⟩ := Prod.mk.inj (Option.some.inj cued)
      rfl
  | runDry | lapse | stop =>
      obtain ⟨-, cued⟩ := Option.ite_none_right_eq_some.mp cued
      obtain ⟨rfl, rfl⟩ := Prod.mk.inj (Option.some.inj cued)
      rfl
  | _ => cases cued

theorem move_of_react?
    (noneTaken : conveyor.taken event = [])
    (happened : conveyor.react? event = some next) :
    Move conveyor event next := by
  obtain ⟨⟨signal, queue⟩, cued, remains⟩ := Option.bind_eq_some_iff.mp happened
  obtain ⟨loop, reacted, rfl⟩ := Option.map_eq_some_iff.mp remains
  exact .signal signal cued reacted (items_of_cue? cued) noneTaken

theorem move_of_happen? (happened : conveyor.happen? event = some next) :
    Move conveyor event next := by
  cases event with
  | wait instant =>
      obtain ⟨-, happened⟩ := Option.ite_none_right_eq_some.mp happened
      obtain rfl := Option.some.inj happened
      exact .outside rfl rfl (List.append_nil _).symm
  | send operations =>
      obtain ⟨-, happened⟩ := Option.ite_none_right_eq_some.mp happened
      obtain rfl := Option.some.inj happened
      exact .outside rfl rfl (conveyor.queue.items_sendAll operations)
  | offer sender operation =>
      obtain ⟨-, happened⟩ := Option.ite_none_right_eq_some.mp happened
      obtain ⟨queue, sent, rfl⟩ := Option.map_eq_some_iff.mp happened
      exact .outside rfl rfl (Queue.items_of_send? sent)
  | line sender =>
      obtain ⟨-, happened⟩ := Option.ite_none_right_eq_some.mp happened
      obtain ⟨queue, stood, rfl⟩ := Option.map_eq_some_iff.mp happened
      exact .outside rfl rfl ((Queue.items_of_stand? stood).trans (List.append_nil _).symm)
  | withdraw sender =>
      obtain rfl := Option.some.inj happened
      exact .outside rfl rfl (List.append_nil _).symm
  | dropSender | cancel =>
      obtain rfl := Option.some.inj happened
      exact .outside rfl rfl (List.append_nil _).symm
  | look | receive | runDry | lapse | stop | accept | refuse => exact move_of_react? rfl happened

/-- What is told of a run, and where the conveyor stands after it. -/
structure IsOrderly (limits : BatchLimits) (told : List Record) (conveyor : Conveyor) : Prop where
  conserved : told.flatMap Record.delivered ++ conveyor.loop.pending ++ conveyor.queue.items =
    told.filterMap Record.sent?
  sound : conveyor.loop.IsSound limits
  admitted : ∀ batch, .submitted batch ∈ told → limits.Admits batch
  ended : ∀ batch, .refused batch ∈ told → conveyor.loop.leftover?.isSome = true
  silent : told.Pairwise fun earlier later =>
    earlier.IsRefusal → ∃ operation, later = .sent operation

theorem isOrderly_new (limits : BatchLimits) (capacity : Nat) (now : Instant) :
    (new limits capacity now).IsOrderly limits [] :=
  ⟨rfl, FlushLoop.isSound_new limits, nofun, nofun, List.Pairwise.nil⟩

theorem delivered_signalRecords (loop next : FlushLoop) (signal : FlushSignal) :
    (signalRecords loop next signal).flatMap Record.delivered = loop.handedOver signal := by
  have noneDelivered :
      (next.offered?.toList.map Record.submitted).flatMap Record.delivered = [] := by
    cases next.offered? <;> rfl
  cases signal with
  | look => exact noneDelivered
  | receive operation => exact noneDelivered
  | refuse =>
      rw [signalRecords_refuse]
      cases loop.offered? <;> rfl
  | accept =>
      rw [signalRecords_accept, FlushLoop.offered?, FlushLoop.handedOver]
      cases loop.phase with
      | submitting batch => exact List.append_nil _
      | _ => rfl
  | runDry | lapse | stop => rfl

theorem sent_signalRecords (loop next : FlushLoop) (signal : FlushSignal) :
    (signalRecords loop next signal).filterMap Record.sent? = [] := by
  cases signal with
  | look | receive operation =>
      simp only [signalRecords_look, signalRecords_receive]
      cases next.offered? <;> rfl
  | accept | refuse =>
      simp only [signalRecords_accept, signalRecords_refuse]
      cases loop.offered? <;> rfl
  | runDry | lapse | stop => rfl

theorem offered?_of_submitted_mem
    {loop next : FlushLoop}
    {signal : FlushSignal}
    {batch : Batch}
    (told : .submitted batch ∈ signalRecords loop next signal) :
    next.offered? = some batch := by
  cases signal with
  | look | receive operation => simpa using told
  | accept | refuse => simp at told
  | runDry | lapse | stop => cases told

theorem refuse_of_refused_mem
    {loop next : FlushLoop}
    {signal : FlushSignal}
    {batch : Batch}
    (told : .refused batch ∈ signalRecords loop next signal) :
    signal = .refuse := by
  cases signal with
  | refuse => rfl
  | look | receive operation | accept => simp at told
  | runDry | lapse | stop => cases told

theorem leftover?_of_refuse
    {loop next : FlushLoop}
    {now : Instant}
    (reacted : loop.react? now .refuse = some next) :
    next.leftover?.isSome = true := by
  cases FlushLoop.reaction_of_react? reacted with
  | refuse _ => rfl

/-- Nothing reaches a loop that has ended. -/
theorem leftover?_of_react?
    {loop next : FlushLoop}
    {now : Instant}
    {signal : FlushSignal}
    (reacted : loop.react? now signal = some next) :
    loop.leftover? = none := by
  cases FlushLoop.reaction_of_react? reacted with
  | look standing | receive standing | fill standing | runDry standing | lapse standing _
  | stop standing | accept standing | refuse standing => rw [FlushLoop.leftover?, standing]

theorem silent_signalRecords (loop next : FlushLoop) (signal : FlushSignal) :
    (signalRecords loop next signal).Pairwise fun earlier later =>
      earlier.IsRefusal → ∃ operation, later = .sent operation := by
  cases signal with
  | look =>
      rw [signalRecords_look]
      cases next.offered? <;> simp
  | receive operation =>
      rw [signalRecords_receive]
      cases next.offered? <;> simp [Record.IsRefusal]
  | accept | refuse =>
      simp only [signalRecords_accept, signalRecords_refuse]
      cases loop.offered? <;> simp
  | runDry | lapse | stop => exact List.Pairwise.nil

variable {limits : BatchLimits} {told : List Record}

theorem isOrderly_of_outside
    (orderly : conveyor.IsOrderly limits told)
    (noCue : conveyor.cue? event = none)
    (sameLoop : next.loop = conveyor.loop)
    (items : next.queue.items = conveyor.queue.items ++ conveyor.taken event) :
    next.IsOrderly limits (told ++ conveyor.records next event) := by
  have records : conveyor.records next event = (conveyor.taken event).map .sent := by
    rw [Conveyor.records, noCue, List.append_nil]
  have noneDelivered : ((conveyor.taken event).map Record.sent).flatMap Record.delivered = [] := by
    simp [List.flatMap_map, Record.delivered]
  have allSent : ((conveyor.taken event).map Record.sent).filterMap Record.sent? =
      conveyor.taken event := by
    simp [List.filterMap_map, Function.comp_def, Record.sent?]
  rw [records]
  refine ⟨?_, sameLoop ▸ orderly.sound, ?_, ?_, ?_⟩
  · rw [List.flatMap_append, noneDelivered, List.append_nil, List.filterMap_append, allSent,
      sameLoop, items, ← List.append_assoc, orderly.conserved]
  · intro batch present
    rcases List.mem_append.mp present with earlier | now
    · exact orderly.admitted batch earlier
    · simp at now
  · intro batch present
    rw [sameLoop]
    rcases List.mem_append.mp present with earlier | now
    · exact orderly.ended batch earlier
    · simp at now
  · refine List.pairwise_append.mpr ⟨orderly.silent, ?_, ?_⟩
    · apply List.pairwise_of_forall_mem_list
      intro earlier present later _ refusal
      obtain ⟨operation, -, rfl⟩ := List.mem_map.mp present
      exact refusal.elim
    · intro earlier _ later present _
      obtain ⟨operation, -, rfl⟩ := List.mem_map.mp present
      exact ⟨operation, rfl⟩

theorem isOrderly_of_signal
    {signal : FlushSignal}
    (orderly : conveyor.IsOrderly limits told)
    (cued : conveyor.cue? event = some (signal, next.queue))
    (reacted : conveyor.loop.react? conveyor.now signal = some next.loop)
    (items : conveyor.queue.items = signal.received ++ next.queue.items)
    (noneTaken : conveyor.taken event = []) :
    next.IsOrderly limits (told ++ conveyor.records next event) := by
  have records : conveyor.records next event =
      signalRecords conveyor.loop next.loop signal := by
    rw [Conveyor.records, cued, noneTaken]
    rfl
  have sound := FlushLoop.isSound_react? orderly.sound reacted
  have running := leftover?_of_react? reacted
  have noRefusal : ∀ batch, .refused batch ∉ told := by
    intro batch present
    have ended := orderly.ended batch present
    rw [running] at ended
    cases ended
  rw [records]
  refine ⟨?_, sound, ?_, ?_, ?_⟩
  · rw [List.flatMap_append, delivered_signalRecords, List.filterMap_append, sent_signalRecords,
      List.append_nil, ← orderly.conserved, items]
    calc told.flatMap Record.delivered ++ conveyor.loop.handedOver signal ++ next.loop.pending ++
          next.queue.items =
        told.flatMap Record.delivered ++ (conveyor.loop.handedOver signal ++ next.loop.pending) ++
          next.queue.items := by rw [List.append_assoc (told.flatMap _)]
      _ = told.flatMap Record.delivered ++ (conveyor.loop.pending ++ signal.received) ++
          next.queue.items := by rw [FlushLoop.pending_react? reacted]
      _ = told.flatMap Record.delivered ++ conveyor.loop.pending ++
          (signal.received ++ next.queue.items) := by simp only [List.append_assoc]
  · intro batch present
    rcases List.mem_append.mp present with earlier | now
    · exact orderly.admitted batch earlier
    · exact sound.admitted batch (offered?_of_submitted_mem now)
  · intro batch present
    rcases List.mem_append.mp present with earlier | now
    · exact absurd earlier (noRefusal batch)
    · obtain rfl := refuse_of_refused_mem now
      exact leftover?_of_refuse reacted
  · refine List.pairwise_append.mpr ⟨orderly.silent, silent_signalRecords _ _ _, ?_⟩
    intro earlier present later _ refusal
    cases earlier with
    | refused batch => exact absurd present (noRefusal batch)
    | sent _ | popped _ | submitted _ | accepted _ => exact refusal.elim

theorem isOrderly_happen?
    (orderly : conveyor.IsOrderly limits told)
    (happened : conveyor.happen? event = some next) :
    next.IsOrderly limits (told ++ conveyor.records next event) := by
  cases move_of_happen? happened with
  | signal signal cued reacted items noneTaken =>
      exact isOrderly_of_signal orderly cued reacted items noneTaken
  | outside noCue sameLoop items => exact isOrderly_of_outside orderly noCue sameLoop items

/-- One batch is taken, the next one refused, and operations are sent until after that. -/
def refusedSecond : List Event :=
  [.send [.delete "a", .delete "b"], .look, .receive, .accept, .look, .receive, .refuse,
    .send [.delete "c"]]

end Conveyor
end FuzzIntake
