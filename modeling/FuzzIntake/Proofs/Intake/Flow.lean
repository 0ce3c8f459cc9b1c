import FuzzIntake.Proofs.Batch.Order
import FuzzIntake.Proofs.Intake.Actions

/-!
# Operations on their way

Between the queue and the warehouse an intake holds operations in the queue, in the
flush loop, and at the end among those left over.  Every event moves them on in order:
what was on the way and what the queue takes is what goes into the warehouse and what is
on the way afterwards.
-/

namespace FuzzIntake
namespace Intake

/-- The operations taken by the queue and not yet in the warehouse, oldest first. -/
def waiting (intake : Intake) : List Operation :=
  match intake.stage with
  | .ready => intake.flush.pending ++ intake.queue.items
  | .running => intake.flush.pending ++ intake.queue.items
  | .collecting leftover => leftover ++ intake.queue.items
  | .closing => []
  | .finished => []

/-- What an event does with the operations on the way and with the warehouse. -/
structure Flow (intake : Intake) (event : Event) (next : Intake) : Prop where
  ordered :
    match intake.order? event with
    | some order => intake.warehouse.happen? order = some next.warehouse
    | none => next.warehouse = intake.warehouse
  conserved : intake.waiting ++ (intake.entry event).accepted =
    (intake.bookings event).routed.flatMap Batch.operations ++
      (intake.bookings event).remainder ++ next.waiting
  undrained : next.isDrained = false →
    intake.isDrained = false ∧ ∀ leftover, intake.order? event ≠ some (.shutdown leftover)
  finished : next.stage = .finished →
    intake.stage = .finished ∨ next.warehouse.isOver = true

variable {intake next : Intake} {event : Event}

/-- The operations that the queue takes before it is drained are accepted. -/
theorem accepted_entry (undrained : intake.isDrained = false) (event : Event) :
    (intake.entry event).accepted = intake.taken event := by
  rw [entry, undrained]
  rfl

/-- Where the queue takes nothing, nothing is accepted. -/
theorem accepted_entry_of_nil
    (noneTaken : intake.taken event = []) :
    (intake.entry event).accepted = [] := by
  rw [entry]
  split
  · rfl
  · exact noneTaken

/-- An event without effect on what is on the way and on the warehouse. -/
theorem flow_of_same
    (noOrder : intake.order? event = none)
    (noneTaken : intake.taken event = [])
    (sameItems : next.queue.items = intake.queue.items)
    (sameFlush : next.flush.pending = intake.flush.pending)
    (sameStage : next.stage = intake.stage)
    (sameWarehouse : next.warehouse = intake.warehouse) :
    Flow intake event next := by
  have noBookings : intake.bookings event = .empty := by rw [bookings, noOrder]
  have noneAccepted := accepted_entry_of_nil noneTaken
  refine ⟨by rw [noOrder]; exact sameWarehouse, ?_, fun undrained => ⟨?_, ?_⟩, ?_⟩
  · rw [noneAccepted, noBookings, List.append_nil, waiting, waiting, sameItems, sameFlush,
      sameStage]
    rfl
  · rwa [isDrained, sameStage] at undrained
  · exact order?_ne_shutdown noOrder
  · exact fun finished => .inl (sameStage ▸ finished)

/-- An event that only concerns the warehouse, and routes nothing. -/
theorem flow_of_order
    {order : Warehouse.Event}
    {warehouse : Warehouse}
    (ordered : intake.order? event = some order)
    (noneTaken : intake.taken event = [])
    (happened : intake.warehouse.happen? order = some warehouse)
    (noneRouted : (intake.warehouse.entry order).routed = [])
    (noShutdown : ∀ leftover, order ≠ .shutdown leftover)
    (sameItems : next.queue.items = intake.queue.items)
    (sameFlush : next.flush.pending = intake.flush.pending)
    (sameStage : next.stage = intake.stage)
    (becomes : next.warehouse = warehouse) :
    Flow intake event next := by
  have booked : intake.bookings event = intake.warehouse.entry order := by
    rw [bookings, ordered]
  have noneAccepted := accepted_entry_of_nil noneTaken
  have noneLeft := intake.warehouse.remainder_entry noShutdown
  refine ⟨by rw [ordered, becomes]; exact happened, ?_, fun undrained => ⟨?_, ?_⟩, ?_⟩
  · rw [noneAccepted, booked, noneRouted, noneLeft, List.append_nil, waiting, waiting, sameItems,
      sameFlush, sameStage]
    rfl
  · rwa [isDrained, sameStage] at undrained
  · rw [ordered]
    exact fun leftover same => noShutdown leftover (Option.some.inj same)
  · exact fun finished => .inl (sameStage ▸ finished)

/-- An event by which the queue takes operations, as long as it is not drained. -/
theorem flow_of_taken
    (noOrder : intake.order? event = none)
    (items : next.queue.items = intake.queue.items ++ intake.taken event)
    (sameFlush : next.flush = intake.flush)
    (sameStage : next.stage = intake.stage)
    (sameWarehouse : next.warehouse = intake.warehouse) :
    Flow intake event next := by
  have noBookings : intake.bookings event = .empty := by rw [bookings, noOrder]
  refine ⟨by rw [noOrder]; exact sameWarehouse, ?_, fun undrained => ⟨?_, ?_⟩, ?_⟩
  · rw [noBookings]
    change _ = next.waiting
    rw [entry, isDrained, waiting, waiting, items, sameFlush, sameStage]
    cases intake.stage with
    | ready => exact List.append_assoc _ _ _
    | running => exact List.append_assoc _ _ _
    | collecting leftover => exact List.append_assoc _ _ _
    | closing => rfl
    | finished => rfl
  · rwa [isDrained, sameStage] at undrained
  · exact order?_ne_shutdown noOrder
  · exact fun finished => .inl (sameStage ▸ finished)

/-- A signal to the flush loop that moves an operation into it or out of it. -/
theorem conserved_of_react?
    {signal : FlushSignal}
    {flush : FlushLoop}
    {queue : Queue}
    (running : intake.stage = .running)
    (items : intake.queue.items = signal.received ++ queue.items)
    (reacted : intake.flush.react? intake.now signal = some flush)
    (warehouse : Warehouse) :
    intake.waiting = intake.flush.handedOver signal ++
      waiting { intake with queue := queue, flush := flush, warehouse := warehouse } := by
  have moved := FlushLoop.pending_react? reacted
  simp only [waiting, running, items]
  rw [← List.append_assoc, moved, List.append_assoc]

/-- A signal to the flush loop by which nothing goes into it or out of it. -/
theorem flow_of_react?
    {signal : FlushSignal}
    {flush : FlushLoop}
    (noOrder : intake.order? event = none)
    (noneTaken : intake.taken event = [])
    (noneReceived : signal.received = [])
    (noneHandedOver : intake.flush.handedOver signal = [])
    (reacted : intake.flush.react? intake.now signal = some flush) :
    Flow intake event { intake with flush := flush } := by
  have moved := FlushLoop.pending_react? reacted
  rw [noneReceived, noneHandedOver, List.append_nil, List.nil_append] at moved
  exact flow_of_same noOrder noneTaken rfl moved.symm rfl rfl

/-- What others send without waiting concerns only the queue, or nothing. -/
theorem send_cases (intake : Intake) (operations : List Operation) :
    ((intake.hasSender = true ∧ (intake.stage != .finished) = true) ∧
        intake.send operations = ((intake.queue.sendAll operations).1,
          { intake with queue := (intake.queue.sendAll operations).2 })) ∨
      intake.send operations = (0, intake) := by
  by_cases admitted : intake.hasSender ∧ intake.stage != .finished
  · exact .inl ⟨admitted, if_pos admitted⟩
  · exact .inr (if_neg admitted)

/-! ## The actions of the intake -/

theorem flow_of_enqueue
    {index : Nat}
    (enqueued : intake.act? (.enqueue index) = some next) :
    Flow intake (.act (.enqueue index)) next := by
  cases effect_of_act? enqueued with
  | @enqueue _ source operation queue consumer _ _ found offered sent _ =>
      have taken : intake.taken (.act (.enqueue index)) = [operation] := by
        rw [taken_enqueue, found, Option.bind_some, offered]
        rfl
      refine flow_of_taken rfl ?_ rfl rfl rfl
      rw [taken]
      exact Queue.items_of_send? sent

theorem flow_of_receive
    (received : intake.act? .receive = some next) :
    Flow intake (.act .receive) next := by
  cases effect_of_act? received with
  | @receive operation queue flush running _ popped reacted =>
      have items : intake.queue.items =
          FlushSignal.received (.receive operation) ++ queue.items := Queue.items_of_pop? popped
      have conserved := conserved_of_react? running items reacted intake.warehouse
      refine ⟨rfl, ?_, fun undrained => ⟨by rw [isDrained, running], order?_ne_shutdown rfl⟩,
        by simp [running]⟩
      rw [accepted_entry (by rw [isDrained, running]), conserved]
      exact List.append_nil _

/-- A batch routed brings its operations into the warehouse, if it has any. -/
theorem operations_of_entry_route (warehouse : Warehouse) (batch : Batch) :
    (warehouse.entry (.route batch)).routed.flatMap Batch.operations = batch.operations ∧
      (warehouse.entry (.route batch)).remainder = [] := by
  rw [Warehouse.entry]
  split
  · next empty => exact ⟨(List.isEmpty_iff.mp empty).symm, rfl⟩
  · exact ⟨List.append_nil _, rfl⟩

theorem flow_of_submit
    (opened : intake.isDrained = false → intake.warehouse.closing = .opened)
    (submitted : intake.act? .submit = some next) :
    Flow intake (.act .submit) next := by
  cases effect_of_act? submitted with
  | @submit batch warehouse flush running submitting routed reacted =>
      have undrained : intake.isDrained = false := by rw [isDrained, running]
      have items : intake.queue.items = FlushSignal.received .accept ++ intake.queue.items := rfl
      have conserved := conserved_of_react? running items reacted warehouse
      obtain ⟨operations, noRemainder⟩ := operations_of_entry_route intake.warehouse batch
      have ordered := order?_submit submitting
      have booked : intake.bookings (.act .submit) = intake.warehouse.entry (.route batch) := by
        rw [bookings, ordered]
      have handedOver : intake.flush.handedOver .accept = batch.operations := by
        rw [FlushLoop.handedOver, submitting]
      refine ⟨?_, ?_, fun _ => ⟨undrained, by simp [ordered]⟩, by simp [running]⟩
      · rw [ordered]
        simp only [Warehouse.happen?, opened undrained]
        exact routed
      · rw [accepted_entry undrained, conserved, booked, operations, noRemainder, handedOver,
          List.append_nil]
        exact List.append_nil _

theorem flow_of_collect
    (collected : intake.act? .collect = some next) :
    Flow intake (.act .collect) next := by
  cases effect_of_act? collected with
  | @collect leftover running _ found =>
      have pending : intake.flush.pending = leftover := by
        rw [FlushLoop.leftover?] at found
        split at found
        · next held stopped =>
            obtain rfl := Option.some.inj found
            rw [FlushLoop.pending, stopped]
        · simp at found
      refine ⟨rfl, ?_, fun _ => ⟨by rw [isDrained, running], order?_ne_shutdown rfl⟩, by simp⟩
      rw [accepted_entry (by rw [isDrained, running])]
      simp only [waiting, running, pending]
      exact List.append_nil _

theorem flow_of_gather
    (gathered : intake.act? .gather = some next) :
    Flow intake (.act .gather) next := by
  cases effect_of_act? gathered with
  | @gather leftover operation queue collecting popped =>
      refine ⟨rfl, ?_, fun _ => ⟨by rw [isDrained, collecting], order?_ne_shutdown rfl⟩, by simp⟩
      rw [accepted_entry (by rw [isDrained, collecting])]
      simp only [waiting, collecting, Queue.items_of_pop? popped]
      rw [List.append_cons leftover]
      exact List.append_nil _

theorem flow_of_close
    (opened : intake.isDrained = false → intake.warehouse.closing = .opened)
    (closed : intake.act? .close = some next) :
    Flow intake (.act .close) next := by
  cases effect_of_act? closed with
  | @close leftover collecting empty =>
      have undrained : intake.isDrained = false := by rw [isDrained, collecting]
      have ordered := order?_close collecting
      refine ⟨?_, ?_, fun stillUndrained => absurd stillUndrained Bool.noConfusion, by simp⟩
      · rw [ordered]
        simp only [Warehouse.happen?, opened undrained]
      · rw [accepted_entry undrained, bookings, ordered, waiting, collecting]
        simp only [empty]
        exact List.append_nil (leftover ++ [])

theorem flow_of_finish
    (finished : intake.act? .finish = some next) :
    Flow intake (.act .finish) next := by
  cases effect_of_act? finished with
  | finish closing done =>
      have noneAccepted : (intake.entry (.act .finish)).accepted = [] :=
        accepted_entry_of_nil rfl
      refine ⟨rfl, ?_, fun undrained => absurd undrained Bool.noConfusion, fun _ => .inr done⟩
      rw [noneAccepted, waiting, closing]
      rfl

/-- Every action of the intake moves the operations on in order. -/
theorem flow_of_act?
    {action : Action}
    (opened : intake.isDrained = false → intake.warehouse.closing = .opened)
    (acted : intake.act? action = some next) :
    Flow intake (.act action) next := by
  cases effect_of_act? acted with
  | consume _ _ _ | halt _ _ _ _ | release _ _ _ _ => exact flow_of_same rfl rfl rfl rfl rfl rfl
  | enqueue _ _ _ _ _ _ => exact flow_of_enqueue acted
  | stand _ _ _ _ _ joined =>
      exact flow_of_same rfl rfl (Queue.items_of_stand? joined) rfl rfl rfl
  | look _ reacted | runDry _ _ reacted | lapse _ _ _ reacted | stopFlush _ _ reacted
  | refuse _ _ _ _ reacted => exact flow_of_react? rfl rfl rfl rfl reacted
  | receive _ _ _ _ => exact flow_of_receive acted
  | submit _ _ _ _ => exact flow_of_submit opened acted
  | work _ worked => exact flow_of_order rfl rfl worked rfl (by simp) rfl rfl rfl rfl
  | collect _ _ _ => exact flow_of_collect acted
  | gather _ _ => exact flow_of_gather acted
  | close _ _ => exact flow_of_close opened acted
  | finish _ _ => exact flow_of_finish acted

/-! ## Everything else that happens -/

theorem flow_of_send (intake : Intake) (operations : List Operation) :
    Flow intake (.send operations) (intake.send operations).2 := by
  rcases intake.send_cases operations with ⟨-, sent⟩ | refused
  · have taken : intake.taken (.send operations) =
        operations.take (intake.queue.sendAll operations).1 := by
      rw [taken_send, sent]
    rw [sent]
    refine flow_of_taken rfl ?_ rfl rfl rfl
    rw [taken]
    exact intake.queue.items_sendAll operations
  · have noneTaken : intake.taken (.send operations) = [] := by
      rw [taken_send, refused, List.take_zero]
    rw [refused]
    exact flow_of_same rfl noneTaken rfl rfl rfl rfl

/-- Every event moves the operations on in order. -/
theorem flow_of_happen?
    (opened : intake.isDrained = false → intake.warehouse.closing = .opened)
    (happened : intake.happen? event = some next) :
    Flow intake event next := by
  cases occurrence_of_happen? happened with
  | act acted => exact flow_of_act? opened acted
  | start ready =>
      refine ⟨rfl, ?_, fun _ => ⟨by rw [isDrained, ready], order?_ne_shutdown rfl⟩, by simp⟩
      rw [accepted_entry (by rw [isDrained, ready])]
      simp only [waiting, ready]
      exact List.append_nil _
  | cancel => exact flow_of_order rfl rfl rfl rfl (by simp) rfl rfl rfl rfl
  | send operations => exact flow_of_send intake operations
  | offer _ sent => exact flow_of_taken rfl (Queue.items_of_send? sent) rfl rfl rfl
  | line _ joined => exact flow_of_same rfl rfl (Queue.items_of_stand? joined) rfl rfl rfl
  | startAgain _ | wait _ | withdraw _ | dropSender | callBroker _ _ | crashReads _ _ =>
      exact flow_of_same rfl rfl rfl rfl rfl rfl
  | touchStore told | delayStore told | crashStore told =>
      exact flow_of_order rfl rfl told rfl (by simp) rfl rfl rfl rfl

end Intake
end FuzzIntake
