import FuzzIntake.Proofs.Batch.Accumulator
import FuzzIntake.Queue

/-!
# What the queue and the flush loop hold, in order

The queue hands out operations in the order in which it took them.  What the flush loop
holds and takes from the queue is what it hands over and holds afterwards, in order.
-/

namespace FuzzIntake

namespace Queue

@[simp] theorem items_leave (queue : Queue) (sender : Nat) :
    (queue.leave sender).items = queue.items := rfl

@[simp] theorem items_add (queue : Queue) (operation : Operation) :
    (queue.add operation).items = queue.items ++ [operation] := rfl

theorem items_of_stand?
    {queue next : Queue}
    {sender : Nat}
    (stood : queue.stand? sender = some next) :
    next.items = queue.items := by
  obtain ⟨-, stood⟩ := Option.ite_none_left_eq_some.mp stood
  obtain rfl := Option.some.inj stood
  rfl

theorem items_of_send?
    {queue next : Queue}
    {sender : Nat}
    {operation : Operation}
    (sent : queue.send? sender operation = some next) :
    next.items = queue.items ++ [operation] := by
  obtain ⟨-, sent⟩ := Option.ite_none_right_eq_some.mp sent
  obtain rfl := Option.some.inj sent
  rfl

theorem items_of_pop?
    {queue next : Queue}
    {operation : Operation}
    (popped : queue.pop? = some (operation, next)) :
    queue.items = operation :: next.items := by
  rw [pop?] at popped
  split at popped
  · simp at popped
  · next oldest rest items =>
      obtain ⟨rfl, rfl⟩ := Prod.mk.inj (Option.some.inj popped)
      exact items

/-- The queue takes a beginning of what is sent to it without waiting. -/
theorem items_sendAll (queue : Queue) (operations : List Operation) :
    (queue.sendAll operations).2.items =
      queue.items ++ operations.take (queue.sendAll operations).1 := by
  induction operations generalizing queue with
  | nil => simp [sendAll]
  | cons operation rest inductionHypothesis =>
      rw [sendAll]
      split
      · simp
      · next next sent =>
          obtain ⟨-, sent⟩ := Option.ite_none_right_eq_some.mp sent
          obtain rfl := Option.some.inj sent
          simp only [inductionHypothesis, items_add, List.take_succ_cons, List.append_assoc,
            List.singleton_append]

end Queue

/-- The operation that a signal brings to the flush loop. -/
def FlushSignal.received : FlushSignal → List Operation
  | .receive operation => [operation]
  | _ => []

namespace FlushLoop

/-- The operations that the flush loop holds, in the order in which they came. -/
def pending (loop : FlushLoop) : List Operation :=
  match loop.phase with
  | .submitting batch => batch.operations ++ loop.accumulator.held
  | .stopped leftover => leftover
  | _ => loop.accumulator.held

/-- The operations that the flush loop hands over at a signal. -/
def handedOver (loop : FlushLoop) : FlushSignal → List Operation
  | .accept =>
      match loop.phase with
      | .submitting batch => batch.operations
      | _ => []
  | _ => []

/-- The operations held stay the same when a due batch is taken. -/
theorem pending_look (loop : FlushLoop) (now : Instant) :
    (loop.look now).pending = loop.accumulator.held := by
  rw [look, Accumulator.takeDue]
  cases loop.accumulator.openedAt with
  | none => rfl
  | some first =>
      by_cases due : loop.accumulator.limits.maxAge.nanos ≤ (Instant.until first now).nanos
      · simp only [if_pos due]
        exact List.append_nil _
      · simp only [if_neg due]
        rfl

/-- An operation received is the last of those held. -/
theorem pending_receive (loop : FlushLoop) (operation : Operation) (now : Instant) :
    (loop.receive operation now).pending = loop.accumulator.held ++ [operation] := by
  rw [receive, Accumulator.push]
  by_cases full : loop.accumulator.limits.maxSize ≤
      (loop.accumulator.held ++ [operation]).length
  · simp only [if_pos full]
    exact List.append_nil _
  · simp only [if_neg full]
    rfl

/-- A signal loses, doubles and reorders nothing. -/
theorem pending_react?
    {loop next : FlushLoop}
    {now : Instant}
    {signal : FlushSignal}
    (reacted : loop.react? now signal = some next) :
    loop.pending ++ signal.received = loop.handedOver signal ++ next.pending := by
  cases reaction_of_react? reacted with
  | look polling =>
      rw [pending_look, pending, polling]
      exact List.append_nil _
  | receive waiting =>
      rw [pending_receive, pending, waiting]
      rfl
  | fill filling =>
      rw [pending_receive, pending, filling]
      rfl
  | runDry filling =>
      rw [pending, filling]
      exact List.append_nil _
  | lapse waiting _ | stop waiting =>
      rw [pending, waiting]
      exact List.append_nil _
  | accept submitting =>
      rw [handedOver, pending, submitting]
      exact List.append_nil _
  | refuse submitting =>
      rw [pending, submitting]
      exact List.append_nil _

end FlushLoop
end FuzzIntake
