import FuzzIntake.Proofs.Broker.Outage
import FuzzIntake.Proofs.Data.List

/-!
# What a consumer has counted

The counters of a consumer before any broker and any queue, read off its log.  While the
consumer runs, every entry it has looked at is enqueued, dropped or on offer, and every entry
it has enqueued or dropped is acknowledged, has failed to be, or waits for it.  So the counters
that a stopped consumer returns balance, but for one entry when it was stopped with an operation
on offer.
-/

namespace FuzzIntake
namespace Consumer

namespace Deed

/-- Whether the queue took an operation. -/
def isEnqueue : Deed → Bool
  | .enqueued _ _ => true
  | _ => false

/-- Whether an entry was dropped. -/
def isDrop : Deed → Bool
  | .dropped _ _ => true
  | _ => false

/-- Whether an acknowledgement succeeded. -/
def isAcceptedAck : Deed → Bool
  | .acknowledged _ _ (.ok _) => true
  | _ => false

/-- Whether an acknowledgement failed. -/
def isFailedAck : Deed → Bool
  | .acknowledged _ _ (.error _) => true
  | _ => false

/-- Whether a read failed. -/
def isFailedRead : Deed → Bool
  | .read _ (.error _) => true
  | _ => false

end Deed

/-- A run that was stopped while the consumer had an operation on offer. -/
def StopsOffering (first : Consumer) (log : List Deed) (last : Consumer) : Prop :=
  ∃ earlier consumer operation, Run first earlier consumer ∧
    consumer.offered? = some operation ∧ log = earlier ++ [.stopped] ∧ last = consumer.stop

/-- The counters after one more record, which tells nothing of entries looked at. -/
def counted (tally : ConsumerTally) (deed : Deed) : ConsumerTally :=
  { tally with
    enqueued := tally.enqueued + deed.isEnqueue.toNat
    dropped := tally.dropped + deed.isDrop.toNat
    acked := tally.acked + deed.isAcceptedAck.toNat
    errors := tally.errors + (deed.isFailedAck.toNat + deed.isFailedRead.toNat) }

/-- The counters are those that a log tells of. -/
structure Tells (log : List Deed) (tally : ConsumerTally) : Prop where
  enqueued : tally.enqueued = log.countP Deed.isEnqueue
  dropped : tally.dropped = log.countP Deed.isDrop
  acked : tally.acked = log.countP Deed.isAcceptedAck
  errors : tally.errors = log.countP Deed.isFailedAck + log.countP Deed.isFailedRead

/-- What was looked at was enqueued or dropped, but for `offered` entries; and what was enqueued
or dropped was acknowledged or failed to be, but for `asked` entries. -/
structure Balances (log : List Deed) (tally : ConsumerTally) (offered asked : Nat) : Prop where
  read : tally.read = tally.enqueued + tally.dropped + offered
  settled : tally.acked + log.countP Deed.isFailedAck + asked = tally.enqueued + tally.dropped

/-- A consumer whose counters a log tells, balanced but for what is on offer and what the
consumer asks for. -/
structure IsTallied (consumer : Consumer) (log : List Deed) : Prop where
  tells : Tells log consumer.tally
  balances : Balances log consumer.tally consumer.offered?.toList.length consumer.asking.length

variable {consumer next first last : Consumer} {log deeds : List Deed} {tally : ConsumerTally}

theorem isTallied_new (settings : ConsumerSettings) : (new settings).IsTallied [] where
  tells := ⟨rfl, rfl, rfl, rfl⟩
  balances := ⟨rfl, rfl⟩

/-! ## One record -/

theorem Tells.concat (tells : Tells log tally) (deed : Deed) :
    Tells (log ++ [deed]) (counted tally deed) := by
  obtain ⟨enqueued, dropped, acked, errors⟩ := tells
  constructor <;> simp only [List.countP_concat, counted, *]
  omega

/-- The log does not tell how many entries were looked at. -/
theorem Tells.look (tells : Tells log tally) (looks : Nat) :
    Tells log { tally with read := looks } :=
  ⟨tells.enqueued, tells.dropped, tells.acked, tells.errors⟩

/-- An entry looked at is on offer. -/
theorem Balances.look (balances : Balances log tally 0 0) :
    Balances log { tally with read := tally.read + 1 } 1 0 where
  read := congrArg (· + 1) balances.read
  settled := balances.settled

/-- A record of an enqueue or a drop takes an entry from the offer and has it asked for, and the
answer to an acknowledgement ends the asking. -/
theorem Balances.concat
    {offered asked laterOffered laterAsked : Nat}
    (balances : Balances log tally offered asked)
    (deed : Deed)
    (offers : offered = laterOffered + deed.isEnqueue.toNat + deed.isDrop.toNat)
    (asks : asked + deed.isEnqueue.toNat + deed.isDrop.toNat =
      laterAsked + deed.isAcceptedAck.toNat + deed.isFailedAck.toNat) :
    Balances (log ++ [deed]) (counted tally deed) laterOffered laterAsked := by
  obtain ⟨read, settled⟩ := balances
  constructor
  · change tally.read = _ + _ + (_ + _) + _
    omega
  · rw [List.countP_concat]
    change _ + _ + (_ + _) + _ = _ + _ + (_ + _)
    omega

/-! ## One step -/

/-- A consumer turns a page: its first entry is looked at, and is either offered, or dropped and
asked for. -/
theorem isTallied_turnTo
    (consumer : Consumer)
    (page : List Delivery)
    (tells : Tells log consumer.tally)
    (balances : Balances log consumer.tally 0 0) :
    (consumer.turnTo page).IsTallied (log ++ turning page) := by
  cases page with
  | nil =>
      rw [turning_nil, List.append_nil]
      exact ⟨tells, balances⟩
  | cons entry rest =>
      have looked := balances.look
      cases decoded : Entry.decode entry.fields with
      | operation operation =>
          rw [turnTo_of_operation consumer rest decoded, turning_of_operation rest decoded,
            List.append_nil]
          exact ⟨tells.look _, looked⟩
      | dropped cause =>
          rw [turnTo_of_dropped consumer rest decoded, turning_of_dropped rest decoded]
          exact ⟨(tells.look _).concat (.dropped entry cause), looked.concat _ rfl rfl⟩

/-- A step after which the consumer runs on keeps it tallied by its log. -/
theorem Step.isTallied
    (step : Step consumer deeds next)
    (running : next.result? = none)
    (tallied : consumer.IsTallied log) :
    next.IsTallied (log ++ deeds) := by
  obtain ⟨tells, balances⟩ := tallied
  obtain ⟨settings, tally, start, phase⟩ := consumer
  cases step with
  | join answer joining =>
      cases joining
      cases answer with
      | ok outcome => exact ⟨tells.concat _, balances.concat _ rfl rfl⟩
      | error error => cases running
  | listen deadline reading =>
      cases reading
      rw [List.append_nil]
      exact ⟨tells, balances⟩
  | receive now answer waiting =>
      have idle : Balances log tally 0 0 := by
        rcases waiting with reading | ⟨deadline, listening⟩
        · cases reading
          exact balances
        · cases listening
          exact balances
      have told := tells.concat (.read start answer)
      rw [List.append_cons]
      cases answer with
      | ok page => exact isTallied_turnTo _ page told (idle.concat _ rfl rfl)
      | error error =>
          rw [pageOf, turning_nil, List.append_nil]
          exact ⟨told, idle.concat (.read start (.error error)) rfl rfl⟩
  | @enqueue _ entry operation rest entering enqueued =>
      cases entering
      cases enqueued
      exact ⟨tells.concat (.enqueued entry operation), balances.concat _ rfl rfl⟩
  | @acknowledge entry rest now answer acknowledging =>
      cases acknowledging
      have told := tells.concat (.acknowledged now [entry.id] answer)
      rw [List.append_cons]
      cases answer with
      | ok done => exact isTallied_turnTo _ rest told (balances.concat _ rfl rfl)
      | error error =>
          rw [turningAfter, List.append_nil]
          exact ⟨told, balances.concat (.acknowledged now [entry.id] (.error error)) rfl rfl⟩
  | resume now pausing due =>
      cases pausing
      exact ⟨tells.concat _, balances.concat _ rfl rfl⟩
  | stop interruptible => cases running
  | crash waiting => cases running

/-! ## A run -/

/-- A consumer that has not ended at the end of a run had not ended before. -/
theorem Run.result?_eq_none
    (run : Run first log last)
    (running : last.result? = none) :
    first.result? = none := by
  cases phase : first.phase with
  | ended result =>
      rw [run.last_of_ended phase, result?, phase] at running
      cases running
  | _ => rw [result?, phase]

/-- A run that has not ended keeps the consumer tallied by its log. -/
theorem Run.isTallied
    {earlier : List Deed}
    (run : Run first log last)
    (running : last.result? = none)
    (tallied : first.IsTallied earlier) :
    last.IsTallied (earlier ++ log) := by
  induction run generalizing earlier with
  | done => rwa [List.append_nil]
  | step step later inductionHypothesis =>
      rw [← List.append_assoc]
      exact inductionHypothesis running
        (step.isTallied (later.result?_eq_none running) tallied)

/-- Only being stopped ends a consumer with what it has counted. -/
theorem Step.eq_stop
    (step : Step consumer deeds next)
    (ended : next.phase = .ended (.stopped tally)) :
    deeds = [.stopped] ∧ next = consumer.stop ∧ consumer.isInterruptible = true := by
  cases step with
  | join answer _ => cases answer <;> cases ended
  | receive now answer _ =>
      cases answer with
      | ok page => exact absurd ended ((phase_turnTo_ne _ page).2 _)
      | error error => cases ended
  | enqueue entering enqueued =>
      simp only [enqueued?, entering, Option.some.injEq] at enqueued
      rw [← enqueued] at ended
      cases ended
  | acknowledge now answer _ =>
      cases answer with
      | ok done => exact absurd ended ((phase_turnTo_ne _ _).2 _)
      | error error => cases ended
  | stop interruptible => exact ⟨rfl, rfl, interruptible⟩
  | _ => cases ended

theorem phase_of_result?
    {result : ConsumerResult}
    (ended : consumer.result? = some result) :
    consumer.phase = .ended result := by
  rw [result?] at ended
  split at ended
  · next phase => rw [phase, Option.some.inj ended]
  · cases ended

theorem result?_of_isInterruptible
    (interruptible : consumer.isInterruptible = true) :
    consumer.result? = none := by
  rw [result?]
  split
  · next result phase => simp [isInterruptible, phase] at interruptible
  · rfl

theorem isInterruptible_of_offered?
    {operation : Operation}
    (offering : consumer.offered? = some operation) :
    consumer.isInterruptible = true := by
  rw [offered?] at offering
  split at offering
  · next entry operation rest phase => rw [isInterruptible, phase]
  · cases offering

/-- A consumer that ends with what it has counted was stopped by the last record of its run. -/
theorem Run.exists_stop
    (run : Run first log last)
    (running : first.result? = none)
    (ended : last.result? = some (.stopped tally)) :
    ∃ earlier consumer, Run first earlier consumer ∧ consumer.isInterruptible = true ∧
      log = earlier ++ [.stopped] ∧ last = consumer.stop := by
  induction run with
  | done =>
      rw [running] at ended
      cases ended
  | @step consumer next last deeds log step later inductionHypothesis =>
      cases finished : next.result? with
      | none =>
          obtain ⟨earlier, before, run, interruptible, rfl, stopped⟩ :=
            inductionHypothesis finished ended
          exact ⟨deeds ++ earlier, before, .step step run, interruptible,
            (List.append_assoc ..).symm, stopped⟩
      | some result =>
          obtain rfl := later.log_of_ended (phase_of_result? finished)
          obtain rfl := later.last_of_ended (phase_of_result? finished)
          obtain ⟨rfl, rfl, interruptible⟩ := step.eq_stop (phase_of_result? ended)
          exact ⟨[], consumer, .done consumer, interruptible, rfl, rfl⟩

/-- A consumer that is stopped has counted what its log tells, and all of it balances but for
the operation on offer. -/
theorem Run.isTallied_of_stop
    {settings : ConsumerSettings}
    (run : Run (new settings) log consumer)
    (interruptible : consumer.isInterruptible = true) :
    Tells (log ++ [.stopped]) consumer.tally ∧
      Balances (log ++ [.stopped]) consumer.tally consumer.offered?.toList.length 0 := by
  obtain ⟨tells, balances⟩ :=
    run.isTallied (result?_of_isInterruptible interruptible) (isTallied_new settings)
  rw [asking_of_isInterruptible interruptible] at balances
  exact ⟨tells.concat .stopped, balances.concat .stopped rfl rfl⟩

/--
Whatever broker and queue answer and whenever it is stopped, a consumer that ends with counters
has counted what happened.  Every entry enqueued or dropped was acknowledged or failed to be; the
errors are the failed acknowledgements and the failed reads; and every entry looked at was
enqueued or dropped, but for one exactly if the consumer was stopped with an operation on offer.
-/
theorem stopped_tally_balances
    {settings : ConsumerSettings}
    (run : Run (new settings) log last)
    (ended : last.result? = some (.stopped tally)) :
    tally.acked + log.countP Deed.isFailedAck = tally.enqueued + tally.dropped ∧
    tally.errors = log.countP Deed.isFailedAck + log.countP Deed.isFailedRead ∧
    (tally.read = tally.enqueued + tally.dropped ∧ ¬ StopsOffering (new settings) log last ∨
      tally.read = tally.enqueued + tally.dropped + 1 ∧
        StopsOffering (new settings) log last) ∧
    tally.enqueued = log.countP Deed.isEnqueue ∧
    tally.dropped = log.countP Deed.isDrop ∧
    tally.acked = log.countP Deed.isAcceptedAck := by
  obtain ⟨earlier, consumer, before, interruptible, rfl, rfl⟩ := run.exists_stop rfl ended
  obtain rfl : consumer.tally = tally := by simpa [stop, result?] using ended
  obtain ⟨tells, read, settled⟩ := before.isTallied_of_stop interruptible
  refine ⟨settled, tells.errors, ?_, tells.enqueued, tells.dropped, tells.acked⟩
  cases offered : consumer.offered? with
  | none =>
      rw [offered] at read
      refine .inl ⟨read, ?_⟩
      rintro ⟨other, stopped, operation, run, offering, -, same⟩
      have sameTally : consumer.stop.tally = stopped.stop.tally := by rw [same]
      obtain ⟨-, looked, -⟩ := run.isTallied_of_stop (isInterruptible_of_offered? offering)
      rw [offering] at looked
      change consumer.tally = stopped.tally at sameTally
      rw [← sameTally, read] at looked
      exact absurd looked (Nat.succ_ne_self _).symm
  | some operation =>
      rw [offered] at read
      exact .inr ⟨read, earlier, consumer, operation, before, offered, rfl, rfl⟩

/-- A consumer drops an entry, fails to acknowledge it and drops it again, and is stopped with
the operation of the next entry on offer. -/
theorem stopped_tally_balances_offering :
    let unknown : Delivery := ⟨"6-0", []⟩
    let entry : Delivery := ⟨"7-0", [("op", "create_fuzzer")]⟩
    let log : List Deed :=
      [.joined (.ok .existing), .read ownHistory (.ok [unknown, entry]),
        .dropped unknown .missingOp, .acknowledged 0 ["6-0"] (.error .closed),
        .resumed 1000000000, .read ownHistory (.ok [unknown, entry]),
        .dropped unknown .missingOp, .acknowledged 1000000000 ["6-0"] (.ok ()), .stopped]
    ∃ last, Run (new .standard) log last ∧
      last.result? = some (.stopped ⟨3, 0, 2, 1, 1⟩) ∧
      1 + log.countP Deed.isFailedAck = 0 + 2 ∧
      StopsOffering (new .standard) log last := by
  intro unknown entry log
  have join : Step (new .standard) _ _ := .join (.ok .existing) rfl
  have receive : Step ((new .standard).joined (.ok .existing)) _ _ :=
    .receive 0 (.ok [unknown, entry]) (.inl rfl)
  have run := Run.step join <| .step receive <|
    .step (.acknowledge 0 (.error .closed) rfl) <|
    .step (.resume 1000000000 rfl (by decide)) <|
    .step (.receive 1000000000 (.ok [unknown, entry]) (.inl rfl)) <|
    .step (.acknowledge 1000000000 (.ok ()) rfl) <| .step (.stop rfl) (.done _)
  obtain ⟨settled, -, balance, -⟩ := stopped_tally_balances run rfl
  refine ⟨_, run, rfl, settled, ?_⟩
  rcases balance with ⟨even, -⟩ | ⟨-, stops⟩
  · cases even
  · exact stops

end Consumer
end FuzzIntake
