import FuzzIntake.Proofs.Lane.Moments
import FuzzIntake.Proofs.Lane.Treatment

/-!
# What the counter of retries counts

A lane counts a retry as it begins to pause, and a pool that is cancelled cuts the pause short: the
batch is given up without the attempt that was counted.  So the counter is ahead of the attempts
made by as many as there are lanes that pause when the pool is cancelled, and it counts retries
exactly if there are none.
-/

namespace FuzzIntake

/-- The attempts at a batch after the first one. -/
def Outcome.retries (outcome : Outcome) : Nat :=
  outcome.attempts.length - 1

/-- A batch that has been tried has one attempt besides its retries. -/
theorem Outcome.length_attempts (outcome : Outcome) :
    outcome.attempts.length =
      outcome.retries + (if outcome.isCommitted = true then 1 else 0) +
        if (outcome.letter?.map fun letter => decide (0 < letter.attempts)).getD false = true
        then 1 else 0 := by
  obtain ⟨worker, batch, fate⟩ := outcome
  cases fate with
  | committed number => simp [retries, attempts, isCommitted, letter?]
  | givenUp number error =>
      simp only [retries, attempts, isCommitted, letter?, List.length_replicate, Option.map_some,
        Option.getD_some, decide_eq_true_eq, Bool.false_eq_true, if_false]
      split
      · omega
      · omega
  | lost => rfl

namespace LanePhase

/-- The batch that a lane pauses for. -/
def paused : LanePhase → List Batch
  | .pausing batch _ _ _ => [batch]
  | _ => []

/-- The attempts after the first one that a lane has made or will make next, if it has to pause only
as long as the pool is not cancelled. -/
def retries (cancelled : Bool) : LanePhase → Nat
  | .applying _ number _ => number - 1
  | .pausing _ number _ _ => if cancelled then number - 1 else number
  | _ => 0

/-- A pause that is cut short has counted a retry that is not made. -/
theorem retries_eq_of_isAlive
    {lane : Lane}
    (alive : lane.IsAlive) :
    lane.phase.retries false = lane.phase.retries true + lane.phase.paused.length := by
  obtain ⟨buffer, phase⟩ := lane
  cases phase with
  | idle | applying _ _ _ | dead => rfl
  | pausing batch number error resumeAt => exact (Nat.sub_add_cancel alive).symm

end LanePhase

namespace Pool

/-- The retries of the batches that the lanes are trying. -/
def retriesAtHand (pool : Pool) : Nat :=
  (pool.phases.map (LanePhase.retries pool.cancelled)).sum

variable {pool next : Pool} {index : Nat} {now : Instant} {outcomes : List Outcome}

/-- Where one lane changes, the counter has to go up by what its batch has in retries more. -/
theorem retried_of_set
    {lane later : Lane}
    (found : pool.lanes[index]? = some lane)
    (set : next.lanes = pool.lanes.set index later)
    (cancelled : next.cancelled = pool.cancelled)
    (counted : Nat)
    (tally : next.tally.retried = pool.tally.retried + counted)
    (moves : lane.phase.retries pool.cancelled + counted =
      later.phase.retries pool.cancelled + (outcomes.map Outcome.retries).sum) :
    next.tally.retried + pool.retriesAtHand =
      pool.tally.retried + next.retriesAtHand + (outcomes.map Outcome.retries).sum := by
  have changed : next.retriesAtHand + lane.phase.retries pool.cancelled =
      pool.retriesAtHand + later.phase.retries pool.cancelled := by
    unfold retriesAtHand phases
    rw [set, cancelled, List.map_map, List.map_map]
    exact List.sum_map_set _ found later
  omega

/-- A lane that lives on counts the retries that it goes on to make. -/
theorem Work.retried
    (work : Work pool index now outcomes next)
    (alive : ∀ lane ∈ pool.lanes, lane.IsAlive)
    (living : ∀ lane ∈ next.lanes, lane.IsAlive) :
    next.tally.retried + pool.retriesAtHand =
      pool.tally.retried + next.retriesAtHand + (outcomes.map Outcome.retries).sum := by
  cases work with
  | begin due found => exact retried_of_set found rfl rfl 0 rfl rfl
  | again due found passed running =>
      refine retried_of_set found rfl rfl 0 rfl ?_
      rw [running]
      rfl
  | commit found passed =>
      refine retried_of_set found rfl rfl 0 rfl ?_
      simp [LanePhase.retries, Outcome.retries, Outcome.attempts]
  | retry error found passed more running =>
      have counted : 1 ≤ _ := alive _ (List.mem_of_getElem? found)
      refine retried_of_set found rfl rfl 1 rfl ?_
      rw [running]
      exact Nat.sub_add_cancel counted
  | giveUp error found passed last =>
      refine retried_of_set found rfl rfl 0 rfl ?_
      simp [LanePhase.retries, Outcome.retries, Outcome.attempts]
  | abandon found stopped =>
      refine retried_of_set found rfl rfl 0 rfl ?_
      simp [LanePhase.retries, Outcome.retries, Outcome.attempts, stopped]
  | crash found starting =>
      have inside := (List.getElem?_eq_some_iff.mp found).1
      exact absurd (living _ (List.mem_set inside _)) id

/-- Routing a batch to a living lane counts no retry. -/
theorem retried_of_route?
    {batch : Batch}
    (routed : pool.route? batch = some next) :
    next.tally.retried = pool.tally.retried ∧ next.retriesAtHand = pool.retriesAtHand := by
  have cancelled := Warehouse.cancelled_of_route? routed
  refine ⟨?_, by rw [retriesAtHand, retriesAtHand, phases_of_route? routed, cancelled]⟩
  cases route_of_route? routed <;> rfl

/-- A cancellation cuts short the pauses of all lanes that pause. -/
theorem retriesAtHand_cancel
    (alive : ∀ lane ∈ pool.lanes, lane.IsAlive)
    (running : pool.cancelled = false) :
    pool.retriesAtHand =
      pool.cancel.retriesAtHand + (pool.phases.flatMap LanePhase.paused).length := by
  unfold retriesAtHand cancel phases
  rw [running]
  generalize pool.lanes = lanes at alive
  induction lanes with
  | nil => rfl
  | cons lane rest inductionHypothesis =>
      have remaining := inductionHypothesis fun other present =>
        alive other (List.mem_cons_of_mem lane present)
      have counted := LanePhase.retries_eq_of_isAlive (alive lane List.mem_cons_self)
      simp only [List.map_cons, List.sum_cons, List.flatMap_cons, List.length_append]
        at remaining ⊢
      omega

/-- Lanes that have finished are trying no batch. -/
theorem retriesAtHand_of_isQuiet (quiet : pool.isQuiet = true) : pool.retriesAtHand = 0 := by
  unfold retriesAtHand phases
  rw [List.map_map, List.sum_eq_zero_iff_forall_eq_nat]
  intro size present
  obtain ⟨⟨buffer, phase⟩, isLane, rfl⟩ := List.mem_map.mp present
  have resting := List.all_eq_true.mp quiet _ isLane
  cases phase with
  | idle | dead => rfl
  | applying _ _ _ | pausing _ _ _ _ => simp [isResting] at resting

end Pool

namespace Warehouse

/-- The batches whose pauses a cancellation cuts short. -/
def interrupted (warehouse : Warehouse) : Occasion → List Batch
  | .event .cancel =>
      if warehouse.pool.cancelled then []
      else warehouse.pool.phases.flatMap LanePhase.paused
  | _ => []

/-- The counters of a pool that has been shut down, where a cancellation has cut the pauses of some
batches short. -/
structure CountsRetries (register : Register) (tally : PoolTally) (cut : List Batch) : Prop where
  /-- The stores were asked by lanes for the attempts at the batches that ended. -/
  attempts : register.attempts.Perm (register.books.outcomes.flatMap Outcome.attempts)
  /-- A pause that was cut short counts as a retry, too. -/
  retried : tally.retried = (register.books.outcomes.map Outcome.retries).sum + cut.length
  /-- Every attempt counts for its batch if it is the last one, and else as a retry. -/
  accounted : register.attempts.length + cut.length =
    tally.committed + tally.retried +
      register.books.letters.countP fun letter => 0 < letter.attempts

/-- The counter of retries at a moment of a run: it counts those of the batches that ended and of
those at hand, and those that a cancellation has cut short. -/
def IsTallied (first : Warehouse) (occasions : List Occasion) (register : Register)
    (warehouse : Warehouse) : Prop :=
  warehouse.pool.tally.retried =
    (register.books.outcomes.map Outcome.retries).sum + warehouse.pool.retriesAtHand +
      (first.chronicle interrupted occasions).length

variable {workers capacity : Nat} {shared : Bool} {retry : RetrySchedule}
  {first warehouse here next last : Warehouse} {occasion : Occasion}
  {occasions before : List Occasion} {register note : Register} {report : ClosingReport}

/-- A batch that is routed has not been tried. -/
theorem retries_entry_route (warehouse : Warehouse) (batch : Batch) :
    ((warehouse.entry (.route batch)).outcomes.map Outcome.retries).sum = 0 := by
  rw [entry]
  split
  · rfl
  · simp only [Pool.refusals]
    split
    · split
      · rfl
      · rfl
    · rfl

theorem retried_cancel (alive : ∀ lane ∈ here.pool.lanes, lane.IsAlive) :
    here.pool.tally.retried + here.pool.retriesAtHand =
      here.pool.tally.retried + here.pool.cancel.retriesAtHand + 0 +
        (here.interrupted (.event .cancel)).length := by
  cases running : here.pool.cancelled with
  | false =>
      have cut := Pool.retriesAtHand_cancel alive running
      rw [interrupted, running, if_neg Bool.false_ne_true]
      omega
  | true =>
      have same : here.pool.cancel = here.pool := by rw [Pool.cancel, ← running]
      rw [interrupted, running, same]
      rfl

/-- Every occasion counts the retries that come up, and those that it cuts short. -/
theorem retried_of_meet?
    (alive : ∀ lane ∈ here.pool.lanes, lane.IsAlive)
    (living : ∀ lane ∈ next.pool.lanes, lane.IsAlive)
    (met : here.meet? occasion = some (note, next)) :
    next.pool.tally.retried + here.pool.retriesAtHand =
      here.pool.tally.retried + next.pool.retriesAtHand +
        (note.books.outcomes.map Outcome.retries).sum + (here.interrupted occasion).length := by
  cases meeting_of_meet? met with
  | @event event _ noRoute happened =>
      cases event with
      | act now action =>
          cases action with
          | start lane => exact (work_of_start? happened).1.retried alive living
          | finish lane => exact (work_of_finish? happened).1.retried alive living
          | abandon lane =>
              obtain ⟨pool, abandoned, rfl⟩ := Option.map_eq_some_iff.mp happened
              exact (Pool.work_of_abandon? abandoned now).retried alive living
          | drain =>
              rw [pool_of_drain? happened]
              rfl
          | settle =>
              rw [pool_of_settle? happened]
              rfl
      | route batch => exact absurd rfl (noRoute batch)
      | shutdown leftover =>
          obtain ⟨-, rfl⟩ := happen?_shutdown_eq_some_iff.mp happened
          rfl
      | cancel =>
          obtain rfl := Option.some.inj happened
          exact retried_cancel alive
      | touchStore _ _ | delayStore _ _ | crashStore _ _ =>
          obtain rfl := Option.some.inj happened
          rfl
  | @accepted batch _ happened =>
      obtain ⟨-, pool, routed, rfl⟩ := happen?_route_eq_some_iff.mp happened
      obtain ⟨tally, atHand⟩ := Pool.retried_of_route? routed
      have untried := retries_entry_route here batch
      change pool.tally.retried + here.pool.retriesAtHand =
        here.pool.tally.retried + pool.retriesAtHand +
          ((here.entry (.route batch)).outcomes.map Outcome.retries).sum + 0
      omega
  | returned _ _ => rfl

/-- Every run without crashes keeps the tally.  What one occasion counts is told by lanes that live
before it and after it, so the moments have to know that the pool is kept on both sides. -/
theorem isTallied_of_follow?
    (staffed : 0 < workers)
    (harmless : ∀ occasion ∈ occasions, ¬ occasion.IsCrash)
    (followed : (new workers shared retry capacity).follow? occasions = some (register, last)) :
    IsTallied (new workers shared retry capacity) occasions register last := by
  refine follow?_induction_moments (IsTallied (new workers shared retry capacity)) ?_ ?_ followed
  · intro before register here occasion note next moment tallied
    have kept := moment.isKept staffed harmless
    have keptOn := kept.meet staffed (harmless _ moment.mem) (meeting_of_meet? moment.met)
    have counted := retried_of_meet? kept.traces.alive keptOn.traces.alive moment.met
    unfold IsTallied at tallied ⊢
    rw [chronicle_concat interrupted moment.followed, List.length_append, Register.books_append,
      Books.outcomes_append, List.map_append, List.sum_append]
    omega
  · have quiet : (new workers shared retry capacity).pool.isQuiet = true := by
      refine List.all_eq_true.mpr fun lane present => ?_
      rw [List.eq_of_mem_replicate present]
      rfl
    have nothing := Pool.retriesAtHand_of_isQuiet quiet
    unfold IsTallied
    rw [nothing]
    rfl

/-! ## A pool that has been shut down -/

/-- The answers of the stores of a pool that has been shut down are those to the batches that ended,
worker by worker even in order. -/
theorem IsSettled.perm_attempts (settled : IsSettled workers capacity register last) :
    register.attempts.Perm (register.books.outcomes.flatMap Outcome.attempts) := by
  have asked := List.perm_flatMap_of_forall_lt settled.attemptsWithin
  have ended := List.perm_flatMap_of_forall_lt settled.within
  have byWorker : ∀ worker ∈ List.range workers, register.attemptsOf worker =
      (register.books.outcomesOf worker).flatMap Outcome.attempts :=
    fun worker inside => settled.attempts worker (List.mem_range.mp inside)
  refine asked.trans ?_
  change ((List.range workers).flatMap register.attemptsOf).Perm _
  rw [List.flatMap_congr byWorker, ← List.flatMap_assoc]
  exact (ended.flatMap_right Outcome.attempts).symm

/-- The attempts at batches are the retries, and one at each batch that was written or became a
dead letter after an attempt. -/
theorem length_flatMap_attempts (outcomes : List Outcome) :
    (outcomes.flatMap Outcome.attempts).length =
      (outcomes.map Outcome.retries).sum + outcomes.countP Outcome.isCommitted +
        (outcomes.filterMap Outcome.letter?).countP fun letter => 0 < letter.attempts := by
  rw [List.countP_filterMap]
  induction outcomes with
  | nil => rfl
  | cons outcome rest inductionHypothesis =>
      have first := outcome.length_attempts
      rw [List.flatMap_cons, List.length_append, List.map_cons, List.sum_cons, List.countP_cons,
        List.countP_cons]
      omega

/--
Once a pool without crashes has been shut down, the counter of retries is ahead of the attempts
after the first one at each batch by the batches whose lanes paused when the pool was cancelled.
So it counts retries, and every attempt counts for exactly one of written batches, retries and
dead letters, exactly if no lane paused at that moment.
-/
theorem counts_retries_iff_none_interrupted
    (staffed : 0 < workers)
    (harmless : ∀ occasion ∈ occasions, ¬ occasion.IsCrash)
    (followed : (new workers shared retry capacity).follow? occasions = some (register, last))
    (closed : last.closing = .closed report) :
    let cut := (new workers shared retry capacity).chronicle interrupted occasions
    let tally := last.pool.tally
    CountsRetries register tally cut ∧
      (tally.retried = (register.books.outcomes.map Outcome.retries).sum ↔ cut = []) ∧
      (register.attempts.length =
          tally.committed + tally.retried +
            (register.books.letters.countP fun letter => 0 < letter.attempts) ↔
        cut = []) := by
  intro cut tally
  have kept := isKept_of_follow? staffed harmless followed
  have settled := kept.settled (accepted_eq_routed followed) closed
  have quiet : last.pool.isQuiet = true := by
    have closing := kept.balanced.closing
    rw [IsClosing, closed] at closing
    exact closing.1
  have retried : tally.retried =
      (register.books.outcomes.map Outcome.retries).sum + cut.length := by
    have tallied := isTallied_of_follow? staffed harmless followed
    rwa [IsTallied, Pool.retriesAtHand_of_isQuiet quiet, Nat.add_zero] at tallied
  have accounted : register.attempts.length + cut.length = tally.committed + tally.retried +
      register.books.letters.countP fun letter => 0 < letter.attempts := by
    have committed : tally.committed = register.books.outcomes.countP Outcome.isCommitted :=
      settled.committed
    rw [settled.perm_attempts.length_eq, length_flatMap_attempts, committed, retried,
      Books.letters]
    omega
  refine ⟨⟨settled.perm_attempts, retried, accounted⟩, ?_, ?_⟩
  · rw [← List.length_eq_zero_iff]
    omega
  · rw [← List.length_eq_zero_iff]
    omega

/-- Two workers try their batches, which fail at first.  The second one tries again, and the first
one pauses when the pool is cancelled. -/
def interruptedOnce : List Occasion :=
  [.call ⟨[.testProgram "a" 1]⟩, .call ⟨[.testProgram "g" 1]⟩,
    .event (.touchStore 0 (LocalStore.injectFailures · .programs 1)),
    .event (.touchStore 1 (LocalStore.injectFailures · .programs 1)),
    .event (.act 0 (.start 1)), .event (.act 0 (.finish 1)), .event (.act 0 (.start 1)),
    .event (.act 0 (.start 0)), .event (.act 0 (.finish 0)), .event .cancel,
    .event (.act 0 (.finish 1)), .event (.act 0 (.abandon 0)), .event (.shutdown []),
    .event (.act 0 .drain)]

/-- Of the two retries that are counted one was made. -/
theorem counts_retries_of_interruptedOnce :
    ∃ register last report,
      (new 2 false ⟨2, ⟨0⟩⟩ 1).follow? interruptedOnce = some (register, last) ∧
        (∀ occasion ∈ interruptedOnce, ¬ occasion.IsCrash) ∧
        last.closing = .closed report ∧
        last.pool.tally = ⟨1, 2, 1⟩ ∧
        ((new 2 false ⟨2, ⟨0⟩⟩ 1).chronicle interrupted interruptedOnce).map Batch.laneKey =
          ["g"] ∧
        CountsRetries register last.pool.tally
          ((new 2 false ⟨2, ⟨0⟩⟩ 1).chronicle interrupted interruptedOnce) := by
  have evaluated : ((new 2 false ⟨2, ⟨0⟩⟩ 1).follow? interruptedOnce).map
        (fun reached => (reached.2.report?, reached.2.pool.tally)) =
      some (some ⟨0, 0, 1⟩, ⟨1, 2, 1⟩) := by decide +kernel
  obtain ⟨⟨register, last⟩, followed, counts⟩ := Option.map_eq_some_iff.mp evaluated
  obtain ⟨reported, tally⟩ := Prod.mk.inj counts
  have harmless : ∀ occasion ∈ interruptedOnce, ¬ occasion.IsCrash := by
    simp [interruptedOnce, Occasion.IsCrash, Event.IsCrash]
  have closed : last.closing = .closed ⟨0, 0, 1⟩ := closing_of_report? reported
  exact ⟨register, last, _, followed, harmless, closed, tally, by decide +kernel,
    (counts_retries_iff_none_interrupted Nat.two_pos harmless followed closed).1⟩

/-- A pool is cancelled while its only lane pauses after the first attempt at its only batch: the
batch is given up after that attempt, and a retry is counted. -/
theorem counts_retry_never_made :
    let occasions : List Occasion :=
      [.event (.touchStore 0 (LocalStore.injectFailures · .deletes 1)),
        .call ⟨[.delete "AQID"]⟩, .event (.act 0 (.start 0)), .event (.act 0 (.finish 0)),
        .event .cancel, .event (.act 0 (.abandon 0)), .event (.shutdown []),
        .event (.act 0 .drain)]
    ∃ register last,
      (new 1 false ⟨3, ⟨200000000⟩⟩ 16).follow? occasions = some (register, last) ∧
        last.report? = some ⟨0, 0, 1⟩ ∧
        register.attempts.length = 1 ∧
        last.pool.tally = ⟨0, 1, 1⟩ ∧
        last.pool.tally.retried ≠ (register.books.outcomes.map Outcome.retries).sum ∧
        register.attempts.length ≠
          last.pool.tally.committed + last.pool.tally.retried +
            register.books.letters.countP fun letter => 0 < letter.attempts := by
  intro occasions
  have evaluated : ((new 1 false ⟨3, ⟨200000000⟩⟩ 16).follow? occasions).map (fun reached =>
        (reached.2.report?, reached.2.pool.tally,
          reached.1.attempts.length, (reached.1.books.outcomes.map Outcome.retries).sum,
          reached.1.books.letters.countP fun letter => 0 < letter.attempts)) =
      some (some ⟨0, 0, 1⟩, ⟨0, 1, 1⟩, 1, 0, 1) := by decide +kernel
  obtain ⟨⟨register, last⟩, followed, counts⟩ := Option.map_eq_some_iff.mp evaluated
  simp only [Prod.mk.injEq] at counts
  obtain ⟨reported, tally, attempts, retries, letters⟩ := counts
  refine ⟨register, last, followed, reported, attempts, tally, ?_, ?_⟩
  · rw [tally, retries]
    exact Nat.one_ne_zero
  · rw [tally, attempts, letters]
    decide

end Warehouse
end FuzzIntake
