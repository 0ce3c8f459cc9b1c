import FuzzIntake.Proofs.Batch.Timing

/-!
# Deadlines that a clock can show

A flush loop that looks at the clock asks when the batch in progress is due.  That is the
instant at which its first operation arrived plus the age in the limits, and a clock that
cannot show it crashes the loop.  Batches that one operation completes are never in progress;
for all others the age decides, together with how long the loop is to run.
-/

namespace FuzzIntake

/-- An instant before one that a clock can show can be shown too. -/
theorem Instant.isShown_of_le
    {earlier later : Instant}
    (ordered : earlier ≤ later)
    (shown : later.isShown = true) :
    earlier.isShown = true := by
  unfold Instant.isShown at shown ⊢
  rw [decide_eq_true_eq] at shown ⊢
  exact Nat.lt_of_le_of_lt ordered shown

namespace Accumulator

variable {accumulator : Accumulator} {now : Instant}

/-- An operation that arrives now opens a batch now or finds it open. -/
theorem openedAt_push_le
    (old : ∀ first, accumulator.openedAt = some first → first ≤ now)
    (operation : Operation) :
    ∀ first, (accumulator.push operation now).2.openedAt = some first → first ≤ now := by
  intro first opened
  unfold push at opened
  dsimp only at opened
  split at opened
  · cases opened
  · dsimp only at opened
    split at opened
    · exact Nat.le_of_eq (Option.some.inj opened).symm
    · exact old first opened

theorem openedAt_takeDue_le
    (old : ∀ first, accumulator.openedAt = some first → first ≤ now) :
    ∀ first, (accumulator.takeDue now).2.openedAt = some first → first ≤ now := by
  intro first opened
  unfold takeDue at opened
  split at opened
  · exact old first opened
  · split at opened
    · cases opened
    · exact old first opened

end Accumulator

namespace FlushLoop

variable {limits : BatchLimits} {loop next : FlushLoop} {now : Instant}

/-- What a signal can make of the batch in progress. -/
theorem accumulator_of_react?
    {signal : FlushSignal}
    (reacted : loop.react? now signal = some next) :
    next.accumulator = loop.accumulator ∨
      next.accumulator = loop.accumulator.take.2 ∨
      next.accumulator = (loop.accumulator.takeDue now).2 ∨
      ∃ operation, next.accumulator = (loop.accumulator.push operation now).2 := by
  have looked : (loop.look now).accumulator = (loop.accumulator.takeDue now).2 := by
    unfold look
    split
    · next same => rw [same]
    · next same => rw [same]
  have received : ∀ operation, (loop.receive operation now).accumulator =
      (loop.accumulator.push operation now).2 := by
    intro operation
    unfold receive
    split
    · next same => rw [same]
    · next same => rw [same]
  cases reaction_of_react? reacted with
  | look _ => exact .inr (.inr (.inl looked))
  | @receive _ operation _ | @fill operation _ =>
      exact .inr (.inr (.inr ⟨operation, received operation⟩))
  | runDry _ | lapse _ _ | accept _ => exact .inl rfl
  | stop _ | refuse _ => exact .inr (.inl rfl)

/-- A sound flush loop whose batch in progress was opened at the present instant or before. -/
structure HasOpened (limits : BatchLimits) (loop : FlushLoop) (now : Instant) : Prop where
  sound : loop.IsSound limits
  openedAt_le : ∀ first, loop.accumulator.openedAt = some first → first ≤ now

/-- No signal opens a batch in the future. -/
theorem HasOpened.react
    {signal : FlushSignal}
    (hasOpened : loop.HasOpened limits now)
    (reacted : loop.react? now signal = some next) :
    next.HasOpened limits now := by
  refine ⟨isSound_react? hasOpened.sound reacted, ?_⟩
  rcases accumulator_of_react? reacted with same | taken | due | ⟨operation, pushed⟩
  · rw [same]
    exact hasOpened.openedAt_le
  · rw [taken]
    intro first opened
    cases opened
  · rw [due]
    exact Accumulator.openedAt_takeDue_le hasOpened.openedAt_le
  · rw [pushed]
    exact Accumulator.openedAt_push_le hasOpened.openedAt_le operation

/-- A loop never crashes if one operation makes a batch complete. -/
theorem HasOpened.crashesAt_of_maxSize_le
    (hasOpened : loop.HasOpened limits now)
    (small : limits.maxSize ≤ 1) :
    loop.crashesAt now = false := by
  have short := hasOpened.sound.accumulator.short
  rw [hasOpened.sound.limited, Nat.max_eq_left small, Nat.lt_one_iff,
    List.length_eq_zero_iff] at short
  have closed : loop.accumulator.openedAt = none := by
    rw [← Option.not_isSome_iff_eq_none, hasOpened.sound.accumulator.opened]
    exact fun open_ => open_ short
  unfold crashesAt Accumulator.showsDeadline
  rw [closed]
  split
  · simp
  · rfl

/-- A loop does not crash as long as batches opened now are due when the clock can show it. -/
theorem HasOpened.crashesAt_of_isShown
    (hasOpened : loop.HasOpened limits now)
    (shown : (now.after limits.maxAge).isShown = true) :
    loop.crashesAt now = false := by
  have shows : loop.accumulator.showsDeadline = true := by
    unfold Accumulator.showsDeadline
    rw [Option.all_eq_true]
    intro first opened
    have ordered := hasOpened.openedAt_le first opened
    rw [hasOpened.sound.limited]
    exact Instant.isShown_of_le (Nat.add_le_add_right ordered _) shown
  unfold crashesAt
  rw [shows]
  split
  · simp
  · rfl

end FlushLoop

namespace Conveyor

/-- Whether no run from a new loop comes to a crash by some instant. -/
def NeverCrashes (limits : BatchLimits) (capacity : Nat) (start horizon : Instant) : Prop :=
  ∀ events told last, (new limits capacity start).run? events = some (told, last) →
    last.now ≤ horizon → last.loop.crashesAt last.now = false

variable {limits : BatchLimits} {conveyor next last : Conveyor} {event : Event}
  {start horizon : Instant}

/-- Nothing that happens opens a batch in the future. -/
theorem hasOpened_of_happen?
    (hasOpened : conveyor.loop.HasOpened limits conveyor.now)
    (happened : conveyor.happen? event = some next) :
    next.loop.HasOpened limits next.now := by
  by_cases waits : ∃ instant, event = .wait instant
  · obtain ⟨instant, rfl⟩ := waits
    obtain ⟨forward, happened⟩ := Option.ite_none_right_eq_some.mp happened
    cases happened
    exact ⟨hasOpened.sound, fun first opened =>
      Nat.le_trans (hasOpened.openedAt_le first opened) forward⟩
  · rw [now_of_happen? (fun instant same => waits ⟨instant, same⟩) happened]
    cases move_of_happen? happened with
    | signal signal _ reacted _ _ => exact hasOpened.react reacted
    | outside _ sameLoop _ =>
        rw [sameLoop]
        exact hasOpened

theorem hasOpened_of_run?
    {capacity : Nat}
    {events : List Event}
    {told : List Record}
    (ran : (new limits capacity start).run? events = some (told, last)) :
    last.loop.HasOpened limits last.now := by
  have opening : (new limits capacity start).loop.HasOpened limits start :=
    ⟨FlushLoop.isSound_new limits, fun first opened => by cases opened⟩
  exact @run?_induction (fun _ conveyor => conveyor.loop.HasOpened limits conveyor.now)
    hasOpened_of_happen? events _ _ [] told opening ran

/-- A conveyor whose queue is empty and whose loop waits for the first operation of a batch. -/
def awaiting (limits : BatchLimits) (capacity : Nat) (now : Instant) : Conveyor :=
  ⟨now, ⟨max capacity 1, [], []⟩, true, false, ⟨.new limits, .waiting (now.after pollInterval)⟩⟩

/-- The same conveyor once an operation has arrived, and the loop is about to look at the clock. -/
def begun (limits : BatchLimits) (capacity : Nat) (now : Instant) : Conveyor :=
  ⟨now, ⟨max capacity 1, [], []⟩, true, false, ⟨⟨limits, [.createFuzzer], some now⟩, .polling⟩⟩

/-- A new loop can wait until any later instant and begin to wait for an operation there. -/
theorem run?_awaiting
    (limits : BatchLimits)
    (capacity : Nat)
    (started : start ≤ horizon) :
    ∃ told, (new limits capacity start).run? [.wait horizon, .look] =
      some (told, awaiting limits capacity horizon) := by
  have waited : (new limits capacity start).happen? (.wait horizon) =
      some { new limits capacity start with now := horizon } := if_pos started
  rw [run?, waited]
  exact ⟨_, rfl⟩

/-- An operation that does not complete a batch begins one. -/
theorem run?_begun
    (shared : 1 < limits.maxSize)
    (capacity : Nat)
    (now : Instant) :
    ∃ told, (awaiting limits capacity now).run? [.send [.createFuzzer], .receive, .runDry] =
      some (told, begun limits capacity now) := by
  have room : 0 < max capacity 1 := Nat.lt_of_lt_of_le Nat.one_pos (Nat.le_max_right _ _)
  have growing : (Accumulator.new limits).push .createFuzzer now =
      (none, ⟨limits, [.createFuzzer], some now⟩) := if_neg (Nat.not_le.mpr shared)
  simp [run?, happen?, Queue.sendAll, Queue.trySend?, Queue.hasRoom, Queue.add, react?, cue?,
    isWaiting, Queue.pop?, FlushLoop.react?, FlushLoop.receive, awaiting, begun, room, growing]

/-- A batch that has just begun is not due, so the loop asks how much longer it may age. -/
theorem crashesAt_begun
    {now : Instant}
    (lasting : 0 < limits.maxAge.nanos)
    (hidden : (now.after limits.maxAge).isShown = false)
    (capacity : Nat) :
    (begun limits capacity now).loop.crashesAt now = true := by
  have young : ¬ limits.maxAge.nanos ≤ now - now := by
    rw [Nat.sub_self]
    exact Nat.not_le.mpr lasting
  have early : (⟨limits, [.createFuzzer], some now⟩ : Accumulator).takeDue now =
      (none, ⟨limits, [.createFuzzer], some now⟩) := if_neg young
  unfold FlushLoop.crashesAt begun
  dsimp only
  rw [early]
  simp [Accumulator.showsDeadline, hidden]

/-- An operation that arrives at an instant and does not complete a batch crashes the loop if
the clock cannot show when it is due. -/
theorem exists_crash
    (started : start ≤ horizon)
    (lasting : 0 < limits.maxAge.nanos)
    (shared : 1 < limits.maxSize)
    (hidden : (horizon.after limits.maxAge).isShown = false)
    (capacity : Nat) :
    ∃ events told last, (new limits capacity start).run? events = some (told, last) ∧
      last.now = horizon ∧ last.loop.crashesAt last.now = true := by
  obtain ⟨before, waited⟩ := run?_awaiting limits capacity started
  obtain ⟨after, arrived⟩ := run?_begun shared capacity horizon
  have ran := run?_append waited arrived
  exact ⟨_, _, _, ran, rfl, crashesAt_begun lasting hidden capacity⟩

/--
A loop that is to run from one instant to another comes to no crash, whatever is sent and when,
exactly if one operation completes a batch or the clock can show when a batch is due that is
opened at the end.
-/
theorem neverCrashes_iff
    (started : start ≤ horizon)
    (lasting : 0 < limits.maxAge.nanos)
    (capacity : Nat) :
    NeverCrashes limits capacity start horizon ↔
      limits.maxSize ≤ 1 ∨ (horizon.after limits.maxAge).isShown = true := by
  constructor
  · intro never
    by_contra fails
    rw [not_or, Nat.not_le, Bool.not_eq_true] at fails
    obtain ⟨events, told, last, ran, inTime, crashes⟩ :=
      exists_crash started lasting fails.1 fails.2 capacity
    rw [never events told last ran (Nat.le_of_eq inTime)] at crashes
    cases crashes
  · intro safe events told last ran inTime
    have hasOpened := hasOpened_of_run? ran
    rcases safe with small | shown
    · exact hasOpened.crashesAt_of_maxSize_le small
    · exact hasOpened.crashesAt_of_isShown
        (Instant.isShown_of_le (Nat.add_le_add_right inTime _) shown)

end Conveyor
end FuzzIntake
