import FuzzIntake.Proofs.Batch.Accumulator
import FuzzIntake.Proofs.History

/-!
# Calls at an accumulator

An accumulator is pushed to, asked for a due batch and emptied, in any order and at any
instants, also at such that go back in time.  At every moment the operations it holds are those
pushed from the instant on at which it was opened, and what it gave away followed by what it
holds is what was pushed.  Everything said of its answers is read off this.

A batch without age is due at every instant, before its first operation arrived as well: the
span from an instant to an earlier one counts as nothing.
-/

namespace FuzzIntake
namespace Accumulator

/-- What an accumulator can be told. -/
inductive Call
  /-- An operation arrives at an instant. -/
  | push (operation : Operation) (now : Instant)
  /-- The batch is to be given away if it is due at an instant. -/
  | takeDue (now : Instant)
  /-- What is held is to be given away. -/
  | take

/-- The operation that a call brings. -/
def Call.pushed? : Call → Option Operation
  | .push operation _ => some operation
  | _ => none

/-- Calls with the batches that they gave away, oldest first. -/
abbrev Log : Type :=
  List (Call × Option Batch)

/-- An accumulator, if a whole batch can be addressed; building any other one is a crash. -/
def build? (limits : BatchLimits) : Option Accumulator :=
  if limits.areFeasible then some (new limits) else none

/-- The answer to the question how much time is left; without an answer the question is a crash. -/
def timeLeft? (accumulator : Accumulator) (now : Instant) : Option (Option Span) :=
  if accumulator.showsDeadline then some (accumulator.timeLeft now) else none

/-- The batch that a call gives away, and the accumulator after it. -/
def serve (accumulator : Accumulator) : Call → Option Batch × Accumulator
  | .push operation now => accumulator.push operation now
  | .takeDue now => accumulator.takeDue now
  | .take => (some accumulator.take.1, accumulator.take.2)

/-- Calls one after the other, with the batches that they give away. -/
def run (accumulator : Accumulator) : List Call → Log × Accumulator
  | [] => ([], accumulator)
  | call :: rest =>
      let (given, next) := accumulator.serve call
      let (log, last) := next.run rest
      ((call, given) :: log, last)

/-- The operations pushed, in order. -/
def pushed (log : Log) : List Operation :=
  log.filterMap fun (call, _) => call.pushed?

/-- The operations given away, in order. -/
def given (log : Log) : List Operation :=
  (log.filterMap Prod.snd).flatMap Batch.operations

/-- Operations are those pushed from an instant on, and the first of them completed no batch. -/
def IsOpened (log : Log) (operations : List Operation) (first : Instant) : Prop :=
  ∃ earlier operation later, log = earlier ++ (.push operation first, none) :: later ∧
    operations = operation :: pushed later

/--
What a call may give away, after what was told before.  A push gives away complete batches
only.  A due batch is what was pushed from an instant on that is at least the age back; without
an age it may be any instant.
-/
def Fits (limits : BatchLimits) (before : Log) : Call × Option Batch → Prop
  | (.push _ _, some batch) => batch.size = max 1 limits.maxSize
  | (.takeDue now, some batch) =>
      ∃ first, IsOpened before batch.operations first ∧
        (first.after limits.maxAge ≤ now ∨ limits.maxAge = ⟨0⟩)
  | _ => True

/-- The account of an accumulator of some limits, with what was told until now. -/
structure IsInStep (limits : BatchLimits) (log : Log) (accumulator : Accumulator) : Prop where
  limited : accumulator.limits = limits
  sound : accumulator.IsSound
  opened : ∀ first, accumulator.openedAt = some first → IsOpened log accumulator.held first
  fits : History.Each (Fits limits) log
  balanced : given log ++ accumulator.held = pushed log

variable {limits : BatchLimits} {accumulator last : Accumulator} {log : Log} {call : Call}
  {first now : Instant}

/-! ## What is told of one call more -/

theorem pushed_concat (log : Log) (call : Call) (answer : Option Batch) :
    pushed (log ++ [(call, answer)]) = pushed log ++ call.pushed?.toList := by
  rw [pushed, List.filterMap_append]
  cases call <;> rfl

theorem given_concat (log : Log) (call : Call) (answer : Option Batch) :
    given (log ++ [(call, answer)]) =
      given log ++ (answer.map Batch.operations).getD [] := by
  rw [given, List.filterMap_append, List.flatMap_append]
  cases answer with
  | none => rfl
  | some batch => exact congrArg _ (List.flatMap_singleton Batch.operations batch)

/-- What was opened goes on with what a call brings. -/
theorem IsOpened.concat
    {operations : List Operation}
    (opened : IsOpened log operations first)
    (call : Call)
    (answer : Option Batch) :
    IsOpened (log ++ [(call, answer)]) (operations ++ call.pushed?.toList) first := by
  obtain ⟨earlier, operation, later, rfl, rfl⟩ := opened
  refine ⟨earlier, operation, later ++ [(call, answer)], ?_, ?_⟩
  · rw [List.append_assoc, List.cons_append]
  · rw [pushed_concat, List.cons_append]

/-! ## When a batch was opened, and when it is due -/

/-- An operation that completes no batch finds one open or opens it now. -/
theorem openedAt_push
    {operation : Operation}
    (opened : (accumulator.push operation now).2.openedAt = some first) :
    (accumulator.held = [] ∧ first = now) ∨ accumulator.openedAt = some first := by
  unfold push at opened
  dsimp only at opened
  split at opened
  · cases opened
  · dsimp only at opened
    split at opened
    · next empty => exact .inl ⟨List.isEmpty_iff.mp empty, (Option.some.inj opened).symm⟩
    · exact .inr opened

/-- A batch in progress is given away when its first operation has reached the age. -/
theorem isSome_takeDue_iff (opened : accumulator.openedAt = some first) :
    (accumulator.takeDue now).1.isSome = true ↔
      accumulator.limits.maxAge.nanos ≤ (Instant.until first now).nanos := by
  rw [takeDue, opened]
  dsimp only
  split
  · next due => exact iff_of_true rfl due
  · next early => exact iff_of_false Bool.false_ne_true early

/-- No time is left exactly from the instant on at which the batch has the age. -/
theorem timeLeft_eq_zero_iff (opened : accumulator.openedAt = some first) :
    accumulator.timeLeft now = some ⟨0⟩ ↔ first.after accumulator.limits.maxAge ≤ now := by
  rw [timeLeft, opened, Option.map_some, Option.some.injEq]
  unfold Instant.until
  rw [Span.mk.injEq]
  exact Nat.sub_eq_zero_iff_le

/-- Seen from an earlier instant, a batch has no age. -/
theorem after_le_or_eq_zero
    {age : Span}
    (due : age.nanos ≤ (Instant.until first now).nanos) :
    first.after age ≤ now ∨ age = ⟨0⟩ := by
  change age.nanos ≤ now - first at due
  obtain zero | positive := Nat.eq_zero_or_pos age.nanos
  · exact .inr (congrArg Span.mk zero)
  · have later : first ≤ now := Nat.le_of_lt (Nat.lt_of_sub_pos (Nat.lt_of_lt_of_le positive due))
    exact .inl ((Nat.le_sub_iff_add_le' later).mp due)

/-! ## Every call keeps the account -/

theorem isInStep_new (limits : BatchLimits) : IsInStep limits [] (new limits) where
  limited := rfl
  sound := isSound_new limits
  opened first opened := by cases opened
  fits := History.each_nil _
  balanced := rfl

/-- When everything is given away, nothing is held. -/
theorem IsInStep.emptied
    {operations : List Operation}
    (inStep : IsInStep limits log accumulator)
    (whole : operations = accumulator.held ++ call.pushed?.toList)
    (fit : Fits limits log (call, some ⟨operations⟩)) :
    IsInStep limits (log ++ [(call, some ⟨operations⟩)]) accumulator.take.2 where
  limited := inStep.limited
  sound := isSound_take accumulator
  opened first opened := by cases opened
  fits := inStep.fits.concat fit
  balanced := by
    change given (log ++ [(call, some ⟨operations⟩)]) ++ [] = _
    rw [given_concat, pushed_concat, ← inStep.balanced, List.append_nil, whole]
    exact (List.append_assoc _ _ _).symm

theorem IsInStep.push
    (inStep : IsInStep limits log accumulator)
    (operation : Operation)
    (now : Instant) :
    IsInStep limits (log ++ [(.push operation now, (accumulator.push operation now).1)])
      (accumulator.push operation now).2 := by
  have openedLater : ∀ first, (accumulator.push operation now).2.openedAt = some first →
      IsOpened (log ++ [(.push operation now, none)]) (accumulator.held ++ [operation]) first := by
    intro first opened
    obtain ⟨empty, rfl⟩ | before := openedAt_push opened
    · refine ⟨log, operation, [], rfl, ?_⟩
      rw [empty]
      rfl
    · exact (inStep.opened first before).concat (.push operation now) none
  obtain ⟨⟨operations⟩, complete, same, size⟩ | ⟨grown, growing, held, limited, sound⟩ :=
    push_cases inStep.sound operation now
  · rw [complete]
    rw [inStep.limited] at size
    exact inStep.emptied same size
  · rw [growing] at openedLater ⊢
    rw [← held] at openedLater
    exact {
      limited := limited.trans inStep.limited
      sound := sound
      opened := openedLater
      fits := inStep.fits.concat trivial
      balanced := by
        rw [given_concat, pushed_concat, held, ← inStep.balanced]
        exact congrArg (· ++ _) (List.append_nil _) |>.trans (List.append_assoc _ _ _).symm }

theorem IsInStep.takeDue
    (inStep : IsInStep limits log accumulator)
    (now : Instant) :
    IsInStep limits (log ++ [(.takeDue now, (accumulator.takeDue now).1)])
      (accumulator.takeDue now).2 := by
  obtain ⟨due, filled⟩ | notDue := takeDue_cases inStep.sound now
  · obtain ⟨first, opened⟩ := Option.isSome_iff_exists.mp (inStep.sound.opened.mpr filled)
    have aged : (accumulator.takeDue now).1.isSome = true ↔
        accumulator.limits.maxAge.nanos ≤ (Instant.until first now).nanos :=
      isSome_takeDue_iff opened
    rw [due] at aged ⊢
    have fit : Fits limits log (.takeDue now, some ⟨accumulator.held⟩) :=
      ⟨first, inStep.opened first opened,
        inStep.limited ▸ after_le_or_eq_zero (aged.mp rfl)⟩
    exact inStep.emptied (List.append_nil _).symm fit
  · rw [notDue]
    exact {
      limited := inStep.limited
      sound := inStep.sound
      opened := fun first opened => by
        have same := (inStep.opened first opened).concat (.takeDue now) none
        exact List.append_nil accumulator.held ▸ same
      fits := inStep.fits.concat trivial
      balanced := by
        rw [given_concat, pushed_concat, ← inStep.balanced]
        simp [Call.pushed?] }

/-- No call upsets the account. -/
theorem IsInStep.serve
    (inStep : IsInStep limits log accumulator)
    (call : Call) :
    IsInStep limits (log ++ [(call, (accumulator.serve call).1)]) (accumulator.serve call).2 := by
  cases call with
  | push operation now => exact inStep.push operation now
  | takeDue now => exact inStep.takeDue now
  | take => exact inStep.emptied (List.append_nil _).symm trivial

/-- A run does not upset the account, and tells of its calls one by one. -/
theorem IsInStep.run
    {calls : List Call}
    {told : Log}
    (inStep : IsInStep limits log accumulator)
    (ran : accumulator.run calls = (told, last)) :
    IsInStep limits (log ++ told) last ∧ told.map Prod.fst = calls := by
  induction calls generalizing accumulator log told with
  | nil =>
      obtain ⟨rfl, rfl⟩ := Prod.mk.inj ran
      exact ⟨(List.append_nil log).symm ▸ inStep, rfl⟩
  | cons call rest inductionHypothesis =>
      obtain ⟨rfl, reached⟩ := Prod.mk.inj ran
      obtain ⟨kept, called⟩ := inductionHypothesis (inStep.serve call) (Prod.ext rfl reached)
      rw [List.append_assoc] at kept
      exact ⟨kept, congrArg (call :: ·) called⟩

/-! ## What holds after any calls -/

/--
However an accumulator was used since it was built, what it holds is not complete.  Where the
clock can show when its batch is due, asking how much time is left has an answer, which names a
span exactly if something is held.  What is held was pushed from one instant on; from then on the
batch is given away as due exactly when no time is left.  What its calls gave away fits: complete
batches at a push, and a due batch when its first operation was pushed at least the age earlier,
unless there is no age.  All that was given away, and then what is held, is what was pushed.
-/
theorem stays_in_step
    {fresh : Accumulator}
    {calls : List Call}
    (built : build? limits = some fresh)
    (ran : fresh.run calls = (log, last)) :
    log.map Prod.fst = calls ∧
    last.held.length < max 1 limits.maxSize ∧
    (∀ now, last.showsDeadline = true →
      ∃ left, last.timeLeft? now = some left ∧ (left.isSome = true ↔ last.held ≠ [])) ∧
    (last.held ≠ [] → ∃ first, IsOpened log last.held first ∧
      ∀ now, first ≤ now → last.showsDeadline = true →
        ((last.takeDue now).1.isSome = true ↔ last.timeLeft? now = some (some ⟨0⟩))) ∧
    History.Each (Fits limits) log ∧
    given log ++ last.held = pushed log := by
  obtain ⟨-, built⟩ := Option.ite_none_right_eq_some.mp built
  obtain rfl := Option.some.inj built
  obtain ⟨inStep, called⟩ := (isInStep_new limits).run ran
  rw [List.nil_append] at inStep
  have answer : ∀ now, last.showsDeadline = true →
      last.timeLeft? now = some (last.timeLeft now) := fun now shows => if_pos shows
  refine ⟨called, ?_, fun now shows => ⟨_, answer now shows, ?_⟩, fun filled => ?_, inStep.fits,
    inStep.balanced⟩
  · rw [← inStep.limited]
    exact inStep.sound.short
  · rw [timeLeft, Option.isSome_map]
    exact inStep.sound.opened
  · obtain ⟨first, opened⟩ := Option.isSome_iff_exists.mp (inStep.sound.opened.mpr filled)
    refine ⟨first, inStep.opened first opened, fun now later shows => ?_⟩
    rw [isSome_takeDue_iff opened, answer now shows, Option.some.injEq, timeLeft_eq_zero_iff opened]
    exact Nat.le_sub_iff_add_le' later

/-- A batch that is due, one that is complete and one that is taken; one push goes back in time. -/
def mixedLog : Log :=
  [(.push .createFuzzer 3, none), (.takeDue 8, some ⟨[.createFuzzer]⟩),
    (.push .createFuzzer 9, none),
    (.push (.delete "AQID") 4, some ⟨[.createFuzzer, .delete "AQID"]⟩), (.take, some ⟨[]⟩),
    (.push (.delete "BBBB") 20, none)]

/-- What is held in the end was pushed at 20 and is due at 25. -/
theorem stays_in_step_mixed :
    let limits : BatchLimits := ⟨2, ⟨5⟩⟩
    let last : Accumulator := ⟨limits, [.delete "BBBB"], some 20⟩
    build? limits = some (new limits) ∧
    (new limits).run (mixedLog.map Prod.fst) = (mixedLog, last) ∧
    last.held.length < max 1 limits.maxSize ∧
    (∃ left, last.timeLeft? 24 = some left ∧ (left.isSome = true ↔ last.held ≠ [])) ∧
    last.timeLeft? 24 = some (some ⟨1⟩) ∧
    (last.held ≠ [] ∧ ∃ first, IsOpened mixedLog last.held first) ∧
    History.Each (Fits limits) mixedLog ∧
    given mixedLog ++ last.held = pushed mixedLog := by
  intro limits last
  have built : build? limits = some (new limits) := if_pos (by decide)
  have ran : (new limits).run (mixedLog.map Prod.fst) = (mixedLog, last) := rfl
  have filled : last.held ≠ [] := List.cons_ne_nil _ _
  obtain ⟨-, short, asked, opened, fits, balanced⟩ := stays_in_step built ran
  obtain ⟨first, openedAt, -⟩ := opened filled
  exact ⟨built, ran, short, asked 24 rfl, rfl, ⟨filled, first, openedAt⟩, fits, balanced⟩

/--
Without an age, a batch whose first operation arrives at 100 is given away as due at 0.  Besides,
an accumulator for `2 ^ 56` operations cannot be built, and one whose batches may age for
`2 ^ 63` seconds has no answer to the question how much time is left.
-/
theorem gives_away_before_pushed :
    (new ⟨400, ⟨0⟩⟩).run [.push (.delete "p0") 100, .takeDue 0] =
      ([(.push (.delete "p0") 100, none), (.takeDue 0, some ⟨[.delete "p0"]⟩)],
        new ⟨400, ⟨0⟩⟩) ∧
    ¬ (100 : Instant).after ⟨0⟩ ≤ 0 ∧
    build? ⟨72057594037927936, .ofMillis 100⟩ = none ∧
    ((new ⟨2, .ofSeconds 9223372036854775808⟩).push (.delete "p0") 0).2.timeLeft? 0 = none :=
  ⟨rfl, by decide, if_neg (by decide), if_neg (by decide)⟩

end Accumulator
end FuzzIntake
