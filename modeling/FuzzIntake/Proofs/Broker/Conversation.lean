import FuzzIntake.Broker.Consumer
import Mathlib.Data.List.Infix

/-!
# Consumers before any broker and any queue

A consumer meets its broker and its queue only through their answers.  Here every
answer is possible at every moment: the broker may hand out any entries in any order
and fail any call, the queue may take an operation now, later or never, and the
consumer may be stopped wherever it looks at its cancellation.

A run is told by its log.  The log laws at the end say that nothing is acknowledged
unless it was enqueued or dropped directly before, that a page is handled in order,
and that a failed acknowledgement is followed by a pause and a fresh start.
-/

namespace FuzzIntake
namespace Consumer

/-- One record of what a consumer did. -/
inductive Deed
  /-- The request for the group was answered. -/
  | joined (answer : Except BrokerError GroupOutcome)
  /-- A read from `start` was answered. -/
  | read (start : String) (answer : Except BrokerError (List Delivery))
  /-- The queue took the operation that an entry stands for. -/
  | enqueued (entry : Delivery) (operation : Operation)
  /-- An entry was dropped. -/
  | dropped (entry : Delivery) (cause : Entry.DropCause)
  /-- A call that acknowledges `ids` was answered. -/
  | acknowledged (moment : Instant) (ids : List String) (answer : Except BrokerError Unit)
  /-- A pause was over. -/
  | resumed (moment : Instant)
  /-- The consumer was cancelled, or found its queue closed. -/
  | stopped
  /-- A read crashed the consumer. -/
  | crashed

namespace Deed

/-- The entry that was enqueued or dropped, if the record is about that. -/
def handled? : Deed → Option Delivery
  | .enqueued entry _ => some entry
  | .dropped entry _ => some entry
  | _ => none

/-- Whether a read was answered. -/
def isRead : Deed → Bool
  | .read _ _ => true
  | _ => false

/--
The record of an entry having been enqueued as the operation it decodes to, or
dropped for the cause it decodes to.
-/
def Handles (entry : Delivery) : Deed → Prop
  | .enqueued other operation => other = entry ∧ Entry.decode entry.fields = .operation operation
  | .dropped other cause => other = entry ∧ Entry.decode entry.fields = .dropped cause
  | _ => False

end Deed

/-- The entries enqueued or dropped in a log, in order. -/
def handled (log : List Deed) : List Delivery :=
  log.filterMap Deed.handled?

/-- The part of a log before the next answer to a read. -/
def untilRead (log : List Deed) : List Deed :=
  log.takeWhile fun deed => !deed.isRead

/-- The entries of an answer to a read. -/
def pageOf : Except BrokerError (List Delivery) → List Delivery
  | .ok page => page
  | .error _ => []

/-- The record of turning to the first entry of a page, if that is dropped at once. -/
def turning : List Delivery → List Deed
  | [] => []
  | entry :: _ =>
      match Entry.decode entry.fields with
      | .operation _ => []
      | .dropped cause => [.dropped entry cause]

/-- The entries of an acknowledged page that are turned to next. -/
def turningAfter (rest : List Delivery) : Except BrokerError Unit → List Deed
  | .ok () => turning rest
  | .error _ => []

/-- The entries a consumer has in hand and has neither enqueued nor dropped. -/
def inHand (consumer : Consumer) : List Delivery :=
  match consumer.phase with
  | .enqueuing entry _ rest => entry :: rest
  | .acknowledging _ rest => rest
  | _ => []

/-- What can happen to a consumer, with the records it makes. -/
inductive Step : Consumer → List Deed → Consumer → Prop
  /-- The request for the group is answered. -/
  | join {consumer : Consumer} (answer : Except BrokerError GroupOutcome) :
      consumer.phase = .joining →
      Step consumer [.joined answer] (consumer.joined answer)
  /-- A read of new entries finds none and waits. -/
  | listen {consumer : Consumer} (deadline : Instant) :
      consumer.phase = .reading →
      Step consumer [] { consumer with phase := .listening deadline }
  /-- A read is answered. -/
  | receive {consumer : Consumer} (now : Instant)
      (answer : Except BrokerError (List Delivery)) :
      (consumer.phase = .reading ∨ ∃ deadline, consumer.phase = .listening deadline) →
      Step consumer (.read consumer.start answer :: turning (pageOf answer))
        (consumer.received now answer)
  /-- The queue takes the operation on offer. -/
  | enqueue {consumer next : Consumer} {entry : Delivery} {operation : Operation}
      {rest : List Delivery} :
      consumer.phase = .enqueuing entry operation rest →
      consumer.enqueued? = some next →
      Step consumer [.enqueued entry operation] next
  /-- An acknowledgement is answered. -/
  | acknowledge {consumer : Consumer} {entry : Delivery} {rest : List Delivery}
      (now : Instant) (answer : Except BrokerError Unit) :
      consumer.phase = .acknowledging entry rest →
      Step consumer (.acknowledged now [entry.id] answer :: turningAfter rest answer)
        (consumer.acknowledged now rest answer)
  /-- The pause is over. -/
  | resume {consumer : Consumer} {resumeAt : Instant} (now : Instant) :
      consumer.phase = .pausing resumeAt → resumeAt ≤ now →
      Step consumer [.resumed now] { consumer with phase := .reading }
  /-- The consumer is cancelled, or finds its queue closed. -/
  | stop {consumer : Consumer} :
      consumer.isInterruptible = true →
      Step consumer [.stopped] consumer.stop
  /-- A read crashes the consumer. -/
  | crash {consumer : Consumer} :
      (consumer.phase = .reading ∨ ∃ deadline, consumer.phase = .listening deadline) →
      Step consumer [.crashed] consumer.crash

/-- A run from one state of a consumer to another, told by its log. -/
inductive Run : Consumer → List Deed → Consumer → Prop
  | done (consumer : Consumer) : Run consumer [] consumer
  | step {consumer next last : Consumer} {deeds log : List Deed} :
      Step consumer deeds next → Run next log last → Run consumer (deeds ++ log) last

/-! ## What turning a page and a step change -/

@[simp] theorem turnTo_nil (consumer : Consumer) :
    consumer.turnTo [] = { consumer with phase := .reading } := rfl

/-- Turning to an entry that stands for an operation offers the operation. -/
theorem turnTo_of_operation
    (consumer : Consumer)
    {entry : Delivery}
    {operation : Operation}
    (rest : List Delivery)
    (decoded : Entry.decode entry.fields = .operation operation) :
    consumer.turnTo (entry :: rest) =
      { consumer with
        tally := { consumer.tally with read := consumer.tally.read + 1 }
        phase := .enqueuing entry operation rest } := by
  simp only [turnTo, decoded]

/-- Turning to an entry that stands for none drops it and acknowledges it next. -/
theorem turnTo_of_dropped
    (consumer : Consumer)
    {entry : Delivery}
    {cause : Entry.DropCause}
    (rest : List Delivery)
    (decoded : Entry.decode entry.fields = .dropped cause) :
    consumer.turnTo (entry :: rest) =
      { consumer with
        tally := { consumer.tally with
          read := consumer.tally.read + 1
          dropped := consumer.tally.dropped + 1 }
        phase := .acknowledging entry rest } := by
  simp only [turnTo, decoded]

@[simp] theorem turning_nil : turning [] = [] := rfl

/-- Nothing is recorded when an entry is offered. -/
theorem turning_of_operation
    {entry : Delivery}
    {operation : Operation}
    (rest : List Delivery)
    (decoded : Entry.decode entry.fields = .operation operation) :
    turning (entry :: rest) = [] := by
  simp only [turning, decoded]

/-- A dropped entry is recorded with its cause. -/
theorem turning_of_dropped
    {entry : Delivery}
    {cause : Entry.DropCause}
    (rest : List Delivery)
    (decoded : Entry.decode entry.fields = .dropped cause) :
    turning (entry :: rest) = [.dropped entry cause] := by
  simp only [turning, decoded]

/-- Turning a page changes neither the settings nor the start of the next read. -/
@[simp] theorem turnTo_settings (consumer : Consumer) (page : List Delivery) :
    (consumer.turnTo page).settings = consumer.settings := by
  cases page with
  | nil => rfl
  | cons entry rest =>
      cases decoded : Entry.decode entry.fields with
      | operation operation => rw [turnTo_of_operation consumer rest decoded]
      | dropped cause => rw [turnTo_of_dropped consumer rest decoded]

@[simp] theorem turnTo_start (consumer : Consumer) (page : List Delivery) :
    (consumer.turnTo page).start = consumer.start := by
  cases page with
  | nil => rfl
  | cons entry rest =>
      cases decoded : Entry.decode entry.fields with
      | operation operation => rw [turnTo_of_operation consumer rest decoded]
      | dropped cause => rw [turnTo_of_dropped consumer rest decoded]

/-- Turning a page handles its first entry or keeps it in hand, and keeps the others. -/
theorem handled_turning_append_inHand (consumer : Consumer) (page : List Delivery) :
    handled (turning page) ++ (consumer.turnTo page).inHand = page := by
  cases page with
  | nil => rfl
  | cons entry rest =>
      cases decoded : Entry.decode entry.fields with
      | operation operation =>
          rw [turnTo_of_operation consumer rest decoded, turning_of_operation rest decoded]
          rfl
      | dropped cause =>
          rw [turnTo_of_dropped consumer rest decoded, turning_of_dropped rest decoded]
          rfl

/-- The records of turning a page are about an entry dropped, if there are any. -/
theorem eq_dropped_of_mem_turning
    {page : List Delivery}
    {deed : Deed}
    (present : deed ∈ turning page) :
    ∃ entry cause, deed = .dropped entry cause := by
  cases page with
  | nil => simp at present
  | cons entry rest =>
      cases decoded : Entry.decode entry.fields with
      | operation operation => simp [turning_of_operation rest decoded] at present
      | dropped cause =>
          rw [turning_of_dropped rest decoded, List.mem_singleton] at present
          exact ⟨entry, cause, present⟩

/-- A step makes at most one record that is not about a dropped entry, and makes it first. -/
theorem Step.eq_dropped_of_behind
    {consumer next : Consumer}
    {lead deed : Deed}
    {before after : List Deed}
    (step : Step consumer (lead :: before ++ deed :: after) next) :
    ∃ entry cause, deed = .dropped entry cause := by
  generalize made : lead :: before ++ deed :: after = deeds at step
  have behind : deed ∈ deeds.tail := by
    rw [← made]
    simp
  cases step with
  | receive now answer waiting =>
      exact eq_dropped_of_mem_turning behind
  | acknowledge now answer waiting =>
      cases answer with
      | ok done => exact eq_dropped_of_mem_turning behind
      | error error => simp [turningAfter] at behind
  | _ => simp at behind

/-- Steps keep the settings. -/
theorem Step.settings_eq
    {consumer next : Consumer}
    {deeds : List Deed}
    (step : Step consumer deeds next) :
    next.settings = consumer.settings := by
  cases step with
  | join answer _ => cases answer <;> rfl
  | receive now answer _ => cases answer <;> simp [received, pause]
  | enqueue entering enqueued =>
      simp only [enqueued?, entering, Option.some.injEq] at enqueued
      rw [← enqueued]
  | acknowledge now answer _ => cases answer <;> simp [acknowledged, pause]
  | _ => rfl

/-- Runs keep the settings. -/
theorem Run.settings_eq
    {first last : Consumer}
    {log : List Deed}
    (run : Run first log last) :
    last.settings = first.settings := by
  induction run with
  | done => rfl
  | step step _ inductionHypothesis => rw [inductionHypothesis, step.settings_eq]

/-- One run after another is a run. -/
theorem Run.append
    {first middle last : Consumer}
    {before after : List Deed}
    (earlier : Run first before middle)
    (later : Run middle after last) :
    Run first (before ++ after) last := by
  induction earlier with
  | done => exact later
  | step step _ inductionHypothesis =>
      rw [List.append_assoc]
      exact .step step (inductionHypothesis later)

/--
A run passes through the step that made a record, unless the record is about an
entry dropped in passing.
-/
theorem Run.split
    {first last : Consumer}
    {log before after : List Deed}
    {deed : Deed}
    (run : Run first log last)
    (cut : log = before ++ deed :: after)
    (leading : ∀ entry cause, deed ≠ .dropped entry cause) :
    ∃ middle next rest later, Run first before middle ∧ Step middle (deed :: rest) next ∧
      Run next later last ∧ after = rest ++ later := by
  induction run generalizing before with
  | done => simp at cut
  | @step consumer next last deeds log step later inductionHypothesis =>
      have inLater : ∀ remaining, before = deeds ++ remaining →
          log = remaining ++ deed :: after →
          ∃ middle next rest later, Run consumer before middle ∧
            Step middle (deed :: rest) next ∧ Run next later last ∧ after = rest ++ later := by
        intro remaining behind logged
        obtain ⟨middle, reached, rest, tail, earlier, made, remains, parts⟩ :=
          inductionHypothesis logged
        exact ⟨middle, reached, rest, tail, behind ▸ .step step earlier, made, remains, parts⟩
      rcases List.append_eq_append_iff.mp cut with
        ⟨remaining, behind, logged⟩ | ⟨made, split, logged⟩
      · exact inLater remaining behind logged
      · cases made with
        | nil => exact inLater [] (by simpa using split.symm) (by simpa using logged.symm)
        | cons lead rest =>
            obtain ⟨rfl, rfl⟩ := List.cons.inj logged
            cases before with
            | nil =>
                rw [List.nil_append] at split
                exact ⟨consumer, next, rest, log, .done consumer, split ▸ step, later, rfl⟩
            | cons head before =>
                rw [split] at step
                obtain ⟨entry, cause, dropped⟩ := step.eq_dropped_of_behind
                exact absurd dropped (leading entry cause)

end Consumer
end FuzzIntake
