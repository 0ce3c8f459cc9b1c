import FuzzIntake.Proofs.Lane.Attempts

/-!
# Every accepted batch has one end

In a run without crashes every batch with operations that the pool accepted is written by
one successful attempt or becomes one dead letter, and the counters say how many did.  A
batch that comes back leaves no mark, and only a cancelled pool gives batches back.
-/

namespace FuzzIntake
namespace Warehouse

/-- What holds at every moment of a run of a pool without crashes. -/
structure IsKept (workers capacity : Nat) (register : Register) (warehouse : Warehouse) :
    Prop where
  balanced : warehouse.IsBalanced workers capacity register.books
  calm : warehouse.IsCalm
  kept : ∀ outcome ∈ register.books.outcomes, outcome.isLost = false
  traces : Traces register warehouse

variable {workers capacity : Nat} {shared : Bool} {retry : RetrySchedule}
  {warehouse next last : Warehouse} {register note : Register} {occasion : Occasion}
  {occasions : List Occasion}

theorem isKept_new
    (workers : Nat)
    (shared : Bool)
    (retry : RetrySchedule)
    (capacity : Nat) :
    (new workers shared retry capacity).IsKept workers capacity .empty :=
  ⟨isBalanced_new workers shared retry capacity, isCalm_new workers shared retry capacity,
    (fun _ present => nomatch present), traces_new workers shared retry capacity⟩

theorem IsKept.happen
    {event : Event}
    {later : Register}
    (kept : warehouse.IsKept workers capacity register)
    (harmless : ¬ event.IsCrash)
    (happened : warehouse.happen? event = some next)
    (books : later.books = warehouse.entry event)
    (traces : Traces (register ++ later) next) :
    next.IsKept workers capacity (register ++ later) := by
  obtain ⟨calm, keptNow⟩ := kept.calm.happen harmless happened
  refine ⟨?_, calm, ?_, traces⟩
  · rw [Register.books_append, books]
    exact kept.balanced.happen happened
  · intro outcome present
    rw [Register.books_append, books] at present
    rcases List.mem_append.mp present with before | now
    · exact kept.kept outcome before
    · exact keptNow outcome now

/-- One occasion keeps what holds at every moment. -/
theorem IsKept.meet
    (kept : warehouse.IsKept workers capacity register)
    (staffed : 0 < workers)
    (harmless : ¬ occasion.IsCrash)
    (meeting : Meeting warehouse occasion note next) :
    next.IsKept workers capacity (register ++ note) := by
  cases meeting with
  | event noRoute happened =>
      exact kept.happen harmless happened rfl
        (kept.traces.happen kept.calm noRoute happened)
  | accepted happened =>
      have manned : 0 < warehouse.pool.lanes.length := kept.balanced.length_lanes ▸ staffed
      exact kept.happen id happened rfl (kept.traces.accept manned happened)
  | @returned batch _ _ =>
      have books : (register ++ warehouse.callNote batch (.returned batch)).books =
          register.books := Books.append_empty _
      exact ⟨books ▸ kept.balanced, kept.calm, books ▸ kept.kept, kept.traces.keep rfl⟩

/-- What holds at every moment holds at the end of a run without crashes. -/
theorem isKept_of_follow?
    (staffed : 0 < workers)
    (harmless : ∀ occasion ∈ occasions, ¬ occasion.IsCrash)
    (followed : (new workers shared retry capacity).follow? occasions = some (register, last)) :
    last.IsKept workers capacity register :=
  follow?_induction (fun register warehouse =>
      warehouse.IsKept workers capacity register)
    (fun _ present _ _ _ _ kept meeting => kept.meet staffed (harmless _ present) meeting)
    (isKept_new workers shared retry capacity) followed

/-- The register of a pool that has been shut down, and its counters. -/
structure IsSettled (workers capacity : Nat) (register : Register) (last : Warehouse) :
    Prop where
  /-- Every worker has ended the batches accepted for it, each once and in order. -/
  ended : ∀ worker < workers,
    (register.books.outcomesOf worker).map Outcome.batch = register.acceptedFor workers worker
  /-- Only the workers of the pool have ended batches. -/
  within : ∀ outcome ∈ register.books.outcomes, outcome.worker < workers
  /-- A batch is written, or becomes a dead letter with exactly its operations. -/
  fates : ∀ outcome ∈ register.books.outcomes,
    outcome.isCommitted = true ∧ outcome.letter? = none ∨
      outcome.isCommitted = false ∧
        ∃ letter, outcome.letter? = some letter ∧ letter.operations = outcome.batch.operations
  /-- The answers of every store are those to the batches that ended, one batch after another. -/
  attempts : ∀ worker < workers,
    register.attemptsOf worker = (register.books.outcomesOf worker).flatMap Outcome.attempts
  /-- A batch has one successful answer if it was written and none if it was not. -/
  successes : ∀ outcome ∈ register.books.outcomes,
    outcome.attempts.countP Attempt.succeeded = if outcome.isCommitted then 1 else 0
  /-- No other store has answered. -/
  attemptsWithin : ∀ attempt ∈ register.attempts, attempt.worker < workers
  /-- The counter of written batches. -/
  committed : last.pool.tally.committed = register.books.outcomes.countP Outcome.isCommitted
  /-- The counter of batches given up. -/
  deadLettered : last.pool.tally.deadLettered =
    register.books.outcomes.countP fun outcome => !outcome.isCommitted
  /-- The dead letters, pushed one after another. -/
  deadLetters : last.pool.deadLetters =
    (register.books.outcomes.filterMap Outcome.letter?).foldl DeadLetters.push
      (DeadLetters.new capacity)

theorem fate_of_kept
    {outcome : Outcome}
    (kept : outcome.isLost = false) :
    outcome.isCommitted = true ∧ outcome.letter? = none ∨
      outcome.isCommitted = false ∧
        ∃ letter, outcome.letter? = some letter ∧
          letter.operations = outcome.batch.operations := by
  obtain ⟨worker, batch, fate⟩ := outcome
  cases fate with
  | committed number => exact .inl ⟨rfl, rfl⟩
  | givenUp number error => exact .inr ⟨rfl, _, rfl, rfl⟩
  | lost => cases kept

theorem countP_succeeded_attempts (outcome : Outcome) :
    outcome.attempts.countP Attempt.succeeded = if outcome.isCommitted then 1 else 0 := by
  obtain ⟨worker, batch, fate⟩ := outcome
  cases fate with
  | committed number => simp [Outcome.attempts, Outcome.isCommitted, List.countP_replicate]
  | givenUp number error => simp [Outcome.attempts, Outcome.isCommitted, List.countP_replicate]
  | lost => rfl

/-- Where no batch is lost the dead letters are those of the batches not written. -/
theorem length_letters_of_kept
    {outcomes : List Outcome}
    (kept : ∀ outcome ∈ outcomes, outcome.isLost = false) :
    (outcomes.filterMap Outcome.letter?).length =
      outcomes.countP fun outcome => !outcome.isCommitted := by
  induction outcomes with
  | nil => rfl
  | cons outcome rest inductionHypothesis =>
      have remaining := inductionHypothesis fun other present =>
        kept other (List.mem_cons_of_mem outcome present)
      rcases fate_of_kept (kept outcome List.mem_cons_self) with
        ⟨committed, noLetter⟩ | ⟨uncommitted, letter, written, -⟩
      · rw [List.filterMap_cons_none noLetter, remaining,
          List.countP_cons_of_neg (by simp [committed])]
      · rw [List.filterMap_cons_some written, List.length_cons, remaining,
          List.countP_cons_of_pos (by simp [uncommitted])]

theorem IsKept.settled
    {report : ClosingReport}
    (kept : last.IsKept workers capacity register)
    (accepted : register.accepted = register.books.routed)
    (closed : last.closing = .closed report) :
    IsSettled workers capacity register last := by
  have quiet : last.pool.isQuiet = true := by
    have closing := kept.balanced.closing
    rw [IsClosing, closed] at closing
    exact closing.1
  have resting : ∀ worker < workers, ∃ lane, last.pool.lanes[worker]? = some lane ∧
      lane.held = [] := by
    intro worker inside
    rw [← kept.balanced.length_lanes] at inside
    have found := List.getElem?_eq_getElem inside
    exact ⟨_, found, Pool.held_eq_nil_of_isQuiet kept.balanced.tidy quiet found⟩
  constructor
  · intro worker inside
    obtain ⟨lane, found, held⟩ := resting worker inside
    rw [Register.acceptedFor, accepted]
    have order := kept.balanced.order worker lane found
    rw [held, List.append_nil] at order
    exact order.symm
  · exact kept.balanced.within
  · exact fun outcome present => fate_of_kept (kept.kept outcome present)
  · intro worker inside
    obtain ⟨lane, found, held⟩ := resting worker inside
    rw [kept.traces.attempts worker lane found, (Lane.not_trying_of_held_eq_nil held worker).2,
      List.append_nil]
  · exact fun outcome _ => countP_succeeded_attempts outcome
  · rw [← kept.balanced.length_lanes]
    exact kept.traces.within
  · exact kept.balanced.committed
  · rw [kept.balanced.deadLettered]
    exact length_letters_of_kept kept.kept
  · exact kept.balanced.deadLetters

/-- A call is answered without effect if the batch comes back, which takes a cancellation
before, and if the batch is empty. -/
theorem effectless_of_meet?
    {batch : Batch}
    {earlier : List Occasion}
    (followed : (new workers shared retry capacity).follow? earlier = some (register, warehouse))
    (met : warehouse.meet? (.call batch) = some (note, next)) :
    ∃ answer, warehouse.answer? batch = some (answer, next) ∧
      (answer ≠ .accepted →
        answer = .returned batch ∧ .event .cancel ∈ earlier ∧ next = warehouse) ∧
      (batch.isEmpty = true → answer = .accepted ∧ next = warehouse) := by
  obtain ⟨⟨answer, reached⟩, answered, same⟩ := Option.map_eq_some_iff.mp met
  obtain ⟨rfl, rfl⟩ := Prod.mk.inj same
  refine ⟨answer, answered, ?_, ?_⟩
  · intro refused
    rw [answer?] at answered
    split at answered
    · split at answered
      · obtain ⟨rfl, -⟩ := Prod.mk.inj (Option.some.inj answered)
        exact absurd rfl refused
      · obtain ⟨cancelled, answered⟩ := Option.ite_none_right_eq_some.mp answered
        obtain ⟨rfl, rfl⟩ := Prod.mk.inj (Option.some.inj answered)
        exact ⟨rfl, cancel_mem_of_follow? rfl followed cancelled, rfl⟩
    · cases answered
  · intro empty
    have unchanged : warehouse.route? batch = some warehouse := by
      rw [Warehouse.route?, Pool.route?, if_pos empty]
      rfl
    rw [answer?, unchanged] at answered
    split at answered
    · obtain ⟨rfl, rfl⟩ := Prod.mk.inj (Option.some.inj answered)
      exact ⟨rfl, rfl⟩
    · cases answered

/-- Once a pool without crashes has been shut down, every accepted batch with operations was
written by one attempt or became one dead letter, and the counters count them.  A batch that
was not accepted came back as it was, after a cancellation and without effect, and an empty
batch was accepted without effect. -/
theorem settles_every_batch
    {report : ClosingReport}
    (staffed : 0 < workers)
    (harmless : ∀ occasion ∈ occasions, ¬ occasion.IsCrash)
    (followed : (new workers shared retry capacity).follow? occasions = some (register, last))
    (closed : last.closing = .closed report) :
    IsSettled workers capacity register last ∧
      ∀ before batch after, occasions = before ++ .call batch :: after →
        ∃ earlier here answer next,
          (new workers shared retry capacity).follow? before = some (earlier, here) ∧
            here.answer? batch = some (answer, next) ∧
            (answer ≠ .accepted →
              answer = .returned batch ∧ .event .cancel ∈ before ∧ next = here) ∧
            (batch.isEmpty = true → answer = .accepted ∧ next = here) := by
  have kept := isKept_of_follow? staffed harmless followed
  refine ⟨kept.settled (accepted_eq_routed followed) closed, ?_⟩
  rintro before batch after rfl
  obtain ⟨earlier, here, note, next, through, met⟩ := exists_meet?_of_follow? followed
  obtain ⟨answer, answered, effectless⟩ := effectless_of_meet? through met
  exact ⟨earlier, here, answer, next, through, answered, effectless⟩

/-- One worker is tried twice for each batch: the first batch fails once and is written, the
second one is cancelled in its pause, four more wait in the lane and the last comes back. -/
def crowdedLane : List Occasion :=
  let batch (program : String) : Batch := ⟨[.delete program]⟩
  [.call ⟨[]⟩, .call (batch "a"), .event (.touchStore 0 (LocalStore.injectFailures · .deletes 1)),
    .event (.act 0 (.start 0)), .event (.act 0 (.finish 0)), .event (.act 0 (.start 0)),
    .event (.act 0 (.finish 0)), .call (batch "b"), .event (.act 0 (.start 0)),
    .event (.touchStore 0 (LocalStore.injectFailures · .deletes 1)),
    .event (.act 0 (.finish 0)), .call (batch "c"), .call (batch "d"), .call (batch "e"),
    .call (batch "f"), .event .cancel, .call (batch "g"), .event (.act 0 (.abandon 0)),
    .event (.shutdown []), .event (.act 0 (.start 0)), .event (.act 0 (.finish 0)),
    .event (.act 0 (.start 0)), .event (.act 0 (.finish 0)), .event (.act 0 (.start 0)),
    .event (.act 0 (.finish 0)), .event (.act 0 (.start 0)), .event (.act 0 (.finish 0)),
    .event (.act 0 .drain)]

/-- The batches of a crowded lane are settled: five are written by six attempts and one is a
dead letter. -/
theorem settles_every_batch_of_crowdedLane :
    ∃ register last report,
      (new 1 false ⟨2, ⟨0⟩⟩ 1).follow? crowdedLane = some (register, last) ∧
        (∀ occasion ∈ crowdedLane, ¬ occasion.IsCrash) ∧
        last.closing = .closed report ∧
        register.accepted.length = 6 ∧ register.calls.length = 8 ∧
        register.attempts.length = 7 ∧
        last.pool.tally.committed = 5 ∧ last.pool.tally.deadLettered = 1 ∧
        IsSettled 1 1 register last := by
  have evaluated : ((new 1 false ⟨2, ⟨0⟩⟩ 1).follow? crowdedLane).map (fun reached =>
        (reached.2.report?,
          reached.1.accepted.length, reached.1.calls.length, reached.1.attempts.length,
          reached.2.pool.tally.committed, reached.2.pool.tally.deadLettered)) =
      some (some ⟨0, 0, 1⟩, 6, 8, 7, 5, 1) := by decide +kernel
  obtain ⟨⟨register, last⟩, followed, counts⟩ := Option.map_eq_some_iff.mp evaluated
  simp only [Prod.mk.injEq] at counts
  obtain ⟨reported, accepted, calls, attempts, committed, deadLettered⟩ := counts
  have harmless : ∀ occasion ∈ crowdedLane, ¬ occasion.IsCrash := by
    simp [crowdedLane, Occasion.IsCrash, Event.IsCrash]
  have closed : last.closing = .closed ⟨0, 0, 1⟩ := closing_of_report? reported
  obtain ⟨settled, -⟩ := settles_every_batch Nat.one_pos harmless followed closed
  exact ⟨register, last, _, followed, harmless, closed, accepted, calls, attempts, committed,
    deadLettered, settled⟩

end Warehouse
end FuzzIntake
