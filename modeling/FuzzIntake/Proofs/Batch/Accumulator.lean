import FuzzIntake.Batch.FlushLoop
import Mathlib.Data.List.Basic

/-!
# What an accumulator and a flush loop keep

An accumulator has a batch in progress exactly if it knows when the batch was opened, and
the batch in progress is never complete.  A batch it gives away is therefore never empty and
never larger than the limits allow, and so is every batch that a flush loop hands over.
-/

namespace FuzzIntake

/-- Whether a batch may be handed over under some limits. -/
def BatchLimits.Admits (limits : BatchLimits) (batch : Batch) : Prop :=
  1 ≤ batch.size ∧ batch.size ≤ max 1 limits.maxSize

namespace Accumulator

/-- The batch in progress has an opening instant exactly if it exists, and is not complete. -/
structure IsSound (accumulator : Accumulator) : Prop where
  opened : accumulator.openedAt.isSome = true ↔ accumulator.held ≠ []
  short : accumulator.held.length < max 1 accumulator.limits.maxSize

theorem isSound_new (limits : BatchLimits) : (new limits).IsSound := by
  constructor
  · simp [new]
  · exact Nat.lt_of_lt_of_le Nat.one_pos (Nat.le_max_left 1 limits.maxSize)

theorem isSound_take (accumulator : Accumulator) : accumulator.take.2.IsSound :=
  isSound_new accumulator.limits

/-- A push gives away a complete batch, or the batch in progress has grown. -/
theorem push_cases
    {accumulator : Accumulator}
    (sound : accumulator.IsSound)
    (operation : Operation)
    (now : Instant) :
    (∃ batch, accumulator.push operation now = (some batch, accumulator.take.2) ∧
        batch.operations = accumulator.held ++ [operation] ∧
        batch.size = max 1 accumulator.limits.maxSize) ∨
      ∃ grown, accumulator.push operation now = (none, grown) ∧
        grown.held = accumulator.held ++ [operation] ∧
        grown.limits = accumulator.limits ∧
        grown.IsSound := by
  have short := sound.short
  have length : (accumulator.held ++ [operation]).length = accumulator.held.length + 1 :=
    List.length_append
  rw [push]
  by_cases full : accumulator.limits.maxSize ≤ (accumulator.held ++ [operation]).length
  · left
    refine ⟨⟨accumulator.held ++ [operation]⟩, ?_, rfl, ?_⟩
    · simp only [if_pos full]
      rfl
    · change (accumulator.held ++ [operation]).length = _
      omega
  · right
    refine ⟨{ accumulator with
      held := accumulator.held ++ [operation]
      openedAt := if accumulator.held.isEmpty then some now else accumulator.openedAt },
      by simp only [if_neg full], rfl, rfl, ?_, ?_⟩
    · have opened := sound.opened
      cases held : accumulator.held with
      | nil => simp
      | cons first rest => simpa [held] using opened
    · change (accumulator.held ++ [operation]).length < max 1 accumulator.limits.maxSize
      omega

/-- A due batch is the whole batch in progress, and is not empty. -/
theorem takeDue_cases
    {accumulator : Accumulator}
    (sound : accumulator.IsSound)
    (now : Instant) :
    (accumulator.takeDue now = (some ⟨accumulator.held⟩, accumulator.take.2) ∧
        accumulator.held ≠ []) ∨
      accumulator.takeDue now = (none, accumulator) := by
  rw [takeDue]
  cases opened : accumulator.openedAt with
  | none => exact .inr rfl
  | some first =>
      by_cases due : accumulator.limits.maxAge.nanos ≤ (Instant.until first now).nanos
      · have nonempty : accumulator.held ≠ [] := sound.opened.mp (by rw [opened]; rfl)
        exact .inl ⟨by simp only [if_pos due]; rfl, nonempty⟩
      · exact .inr (by simp only [if_neg due])

end Accumulator

namespace FlushLoop

/-- The batch that is being handed to the sink. -/
def offered? (loop : FlushLoop) : Option Batch :=
  match loop.phase with
  | .submitting batch => some batch
  | _ => none

/-- A flush loop of some limits whose batches keep to them. -/
structure IsSound (limits : BatchLimits) (loop : FlushLoop) : Prop where
  limited : loop.accumulator.limits = limits
  accumulator : loop.accumulator.IsSound
  admitted : ∀ batch, loop.offered? = some batch → limits.Admits batch

theorem isSound_new (limits : BatchLimits) : (new limits).IsSound limits :=
  ⟨rfl, Accumulator.isSound_new limits, nofun⟩

variable {limits : BatchLimits} {loop next : FlushLoop}

theorem isSound_look
    (sound : loop.IsSound limits)
    (now : Instant) :
    (loop.look now).IsSound limits := by
  rw [look]
  rcases Accumulator.takeDue_cases sound.accumulator now with ⟨due, nonempty⟩ | notDue
  · simp only [due]
    refine ⟨sound.limited, Accumulator.isSound_take _, ?_⟩
    intro batch offered
    obtain rfl := Option.some.inj offered
    have short := sound.accumulator.short
    rw [sound.limited] at short
    exact ⟨List.length_pos_iff.mpr nonempty, Nat.le_of_lt short⟩
  · simp only [notDue]
    exact ⟨sound.limited, sound.accumulator, nofun⟩

theorem isSound_receive
    (sound : loop.IsSound limits)
    (operation : Operation)
    (now : Instant) :
    (loop.receive operation now).IsSound limits := by
  rw [receive]
  rcases Accumulator.push_cases sound.accumulator operation now with
    ⟨batch, complete, -, size⟩ | ⟨grown, growing, -, limited, stillSound⟩
  · simp only [complete]
    refine ⟨sound.limited, Accumulator.isSound_take _, ?_⟩
    intro other offered
    obtain rfl := Option.some.inj offered
    rw [sound.limited] at size
    exact ⟨size ▸ Nat.le_max_left 1 limits.maxSize, Nat.le_of_eq size⟩
  · simp only [growing]
    exact ⟨limited.trans sound.limited, stillSound, nofun⟩

/-- What a signal does to a loop, by where the loop stands. -/
inductive Reaction (loop : FlushLoop) (now : Instant) : FlushSignal → FlushLoop → Prop
  /-- It looks at the clock. -/
  | look :
      loop.phase = .polling → Reaction loop now .look (loop.look now)
  /-- It has waited for an operation. -/
  | receive {deadline : Instant} {operation : Operation} :
      loop.phase = .waiting deadline →
      Reaction loop now (.receive operation) (loop.receive operation now)
  /-- It takes what else is in the queue. -/
  | fill {operation : Operation} :
      loop.phase = .filling → Reaction loop now (.receive operation) (loop.receive operation now)
  /-- The queue is empty. -/
  | runDry :
      loop.phase = .filling → Reaction loop now .runDry { loop with phase := .polling }
  /-- Its wait is over. -/
  | lapse {deadline : Instant} :
      loop.phase = .waiting deadline → deadline ≤ now →
      Reaction loop now .lapse { loop with phase := .polling }
  /-- It gives back the batch in progress. -/
  | stop {deadline : Instant} :
      loop.phase = .waiting deadline →
      Reaction loop now .stop ⟨loop.accumulator.take.2, .stopped loop.accumulator.held⟩
  /-- The sink takes the batch. -/
  | accept {batch : Batch} :
      loop.phase = .submitting batch → Reaction loop now .accept { loop with phase := .polling }
  /-- It gives back the refused batch and the batch in progress. -/
  | refuse {batch : Batch} :
      loop.phase = .submitting batch →
      Reaction loop now .refuse
        ⟨loop.accumulator.take.2, .stopped (batch.operations ++ loop.accumulator.held)⟩

theorem reaction_of_react?
    {now : Instant}
    {signal : FlushSignal}
    (reacted : loop.react? now signal = some next) :
    Reaction loop now signal next := by
  cases signal with
  | look =>
      rw [react?] at reacted
      split at reacted
      · next polling => exact Option.some.inj reacted ▸ .look polling
      · cases reacted
  | receive operation =>
      rw [react?] at reacted
      split at reacted
      · next waiting => exact Option.some.inj reacted ▸ .receive waiting
      · next filling => exact Option.some.inj reacted ▸ .fill filling
      · cases reacted
  | runDry =>
      rw [react?] at reacted
      split at reacted
      · next filling => exact Option.some.inj reacted ▸ .runDry filling
      · cases reacted
  | lapse =>
      rw [react?] at reacted
      split at reacted
      · next waiting =>
          obtain ⟨passed, reacted⟩ := Option.ite_none_right_eq_some.mp reacted
          exact Option.some.inj reacted ▸ .lapse waiting passed
      · cases reacted
  | stop =>
      rw [react?] at reacted
      split at reacted
      · next waiting => exact Option.some.inj reacted ▸ .stop waiting
      · cases reacted
  | accept =>
      rw [react?] at reacted
      split at reacted
      · next submitting => exact Option.some.inj reacted ▸ .accept submitting
      · cases reacted
  | refuse =>
      rw [react?] at reacted
      split at reacted
      · next submitting => exact Option.some.inj reacted ▸ .refuse submitting
      · cases reacted

/-- A flush loop keeps to its limits whatever happens to it. -/
theorem isSound_react?
    {now : Instant}
    {signal : FlushSignal}
    (sound : loop.IsSound limits)
    (reacted : loop.react? now signal = some next) :
    next.IsSound limits := by
  have polls : IsSound limits { loop with phase := .polling } :=
    ⟨sound.limited, sound.accumulator, nofun⟩
  have stops : ∀ leftover, IsSound limits ⟨loop.accumulator.take.2, .stopped leftover⟩ :=
    fun _ => ⟨sound.limited, Accumulator.isSound_take _, nofun⟩
  cases reaction_of_react? reacted with
  | look _ => exact isSound_look sound now
  | receive _ | fill _ => exact isSound_receive sound _ now
  | runDry _ | lapse _ _ | accept _ => exact polls
  | stop _ | refuse _ => exact stops _

end FlushLoop
end FuzzIntake
