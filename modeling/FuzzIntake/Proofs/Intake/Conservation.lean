import FuzzIntake.Proofs.Intake.Flow
import FuzzIntake.Proofs.Lane.Settlement

/-!
# No operation is lost or doubled

At every moment the operations that the queue took are those routed, those left over and
those on the way.  What happens to the warehouse meanwhile is a run of its own, so that a
finished intake has written every operation, given it up, or counted it among those left
over, each exactly once.
-/

namespace FuzzIntake
namespace Intake

/-! ## At every moment -/

/-- A ledger that says where every operation is, given the warehouse at the beginning. -/
structure IsAccounted (first : Warehouse) (ledger : Ledger) (intake : Intake) : Prop where
  conserved : ledger.accepted =
    ledger.books.routed.flatMap Batch.operations ++ ledger.books.remainder ++ intake.waiting
  opened : intake.isDrained = false →
    intake.warehouse.closing = .opened ∧ ledger.books.remainder = []
  atEnd : intake.stage = .finished → intake.warehouse.isOver = true
  ran : ∃ orders, first.run? orders = some (ledger.books, intake.warehouse) ∧
    ∀ order ∈ orders, ¬ order.IsCrash

variable {first : Warehouse} {ledger : Ledger} {intake next : Intake} {event : Event}

/-- An intake of some sources that has not started, whatever their brokers hold. -/
def ofSources (settings : IntakeSettings) (workers : Nat) (shared : Bool)
    (sources : List Source) : Intake :=
  { new settings workers shared [] with sources := sources }

theorem isAccounted_ofSources
    (settings : IntakeSettings)
    (workers : Nat)
    (shared : Bool)
    (sources : List Source) :
    IsAccounted (Warehouse.new workers shared settings.retry settings.deadLetterCapacity) .empty
      (ofSources settings workers shared sources) where
  conserved := rfl
  opened _ := ⟨rfl, rfl⟩
  atEnd finished := by simp [ofSources, new] at finished
  ran := ⟨[], rfl, fun _ present => absurd present List.not_mem_nil⟩

theorem isAccounted_new
    (settings : IntakeSettings)
    (workers : Nat)
    (shared : Bool)
    (labels : List String) :
    IsAccounted (Warehouse.new workers shared settings.retry settings.deadLetterCapacity) .empty
      (new settings workers shared labels) :=
  isAccounted_ofSources settings workers shared _

theorem waiting_of_isDrained (drained : intake.isDrained = true) : intake.waiting = [] := by
  rw [isDrained] at drained
  rw [waiting]
  split at drained
  · next stage => rw [stage]
  · next stage => rw [stage]
  · simp at drained

/-- An intake that is drained accepts nothing, and so routes nothing. -/
theorem nothing_of_isDrained
    (flow : Flow intake event next)
    (drained : intake.isDrained = true) :
    (intake.entry event).accepted = [] ∧
      (intake.bookings event).routed.flatMap Batch.operations = [] := by
  have noneAccepted : (intake.entry event).accepted = [] := by
    rw [entry, if_pos drained]
  have moved := flow.conserved
  rw [noneAccepted, waiting_of_isDrained drained, List.append_nil] at moved
  exact ⟨noneAccepted,
    (List.append_eq_nil_iff.mp (List.append_eq_nil_iff.mp moved.symm).1).1⟩

@[simp] theorem books_entry (intake : Intake) (event : Event) :
    (intake.entry event).books = intake.bookings event := by
  rw [entry]
  split
  · rfl
  · rfl

/-- As long as an intake is not drained nothing is left over. -/
theorem remainder_bookings
    (noShutdown : ∀ leftover, intake.order? event ≠ some (.shutdown leftover)) :
    (intake.bookings event).remainder = [] := by
  rw [bookings]
  split
  · next order ordered =>
      refine intake.warehouse.remainder_entry fun leftover same => ?_
      exact noShutdown leftover (by rw [ordered, same])
  · rfl

/-- Only a store that is told to crash is a crash of the warehouse. -/
theorem not_isCrash_of_order?
    {order : Warehouse.Event}
    (harmless : ¬ event.IsStoreCrash)
    (ordered : intake.order? event = some order) :
    ¬ order.IsCrash := by
  intro crash
  cases order with
  | crashStore worker count =>
      cases event with
      | crashStore => exact harmless trivial
      | act action =>
          cases action with
          | submit =>
              rw [order?] at ordered
              split at ordered
              · simp at ordered
              · simp at ordered
          | close =>
              rw [order?] at ordered
              split at ordered
              · simp at ordered
              · simp at ordered
          | _ => simp [order?] at ordered
      | _ => simp [order?] at ordered
  | _ => exact crash

/--
Every event keeps the operations accounted for, with the entry it makes.  Until the queue is drained
nothing is left over, so what is routed follows what was routed before; after that nothing is routed
any more, and only what was left over may be added.
-/
theorem IsAccounted.conserved_happen
    (accounted : IsAccounted first ledger intake)
    (flow : Flow intake event next) :
    (ledger ++ intake.entry event).accepted =
      (ledger ++ intake.entry event).books.routed.flatMap Batch.operations ++
        (ledger ++ intake.entry event).books.remainder ++ next.waiting := by
  simp only [Ledger.accepted_append, Ledger.books_append, books_entry, Books.routed_append,
    Books.remainder_append, List.flatMap_append]
  cases drained : intake.isDrained with
  | false =>
      rw [accounted.conserved, (accounted.opened drained).2, List.append_nil, List.append_assoc,
        flow.conserved, List.nil_append]
      simp only [List.append_assoc]
  | true =>
      obtain ⟨noneAccepted, noneRouted⟩ := nothing_of_isDrained flow drained
      have moved := flow.conserved
      rw [noneAccepted, noneRouted, List.append_nil, List.nil_append] at moved
      rw [accounted.conserved, moved, noneAccepted, noneRouted]
      simp only [List.append_assoc, List.append_nil]

/-- What an event brings to the warehouse goes on with the run of the warehouse. -/
theorem IsAccounted.ran_happen
    (accounted : IsAccounted first ledger intake)
    (harmless : ¬ event.IsStoreCrash)
    (flow : Flow intake event next) :
    ∃ orders, first.run? orders =
        some ((ledger ++ intake.entry event).books, next.warehouse) ∧
      ∀ order ∈ orders, ¬ order.IsCrash := by
  obtain ⟨orders, ran, calm⟩ := accounted.ran
  have ordered := flow.ordered
  rw [Ledger.books_append, books_entry, bookings]
  cases found : intake.order? event with
  | none =>
      rw [found] at ordered
      refine ⟨orders, ?_, calm⟩
      rw [ran, ordered, Books.append_empty]
  | some order =>
      rw [found] at ordered
      refine ⟨orders ++ [order], Warehouse.run?_append_singleton ran ordered, ?_⟩
      intro other present
      rcases List.mem_append.mp present with old | new
      · exact calm other old
      · rw [List.mem_singleton.mp new]
        exact not_isCrash_of_order? harmless found

/-- Every event leaves a warehouse that is open or over as far closed as it is, unless the
queue is drained by it. -/
theorem closing_of_flow
    (flow : Flow intake event next)
    (settled : intake.warehouse.closing = .opened ∨ intake.warehouse.isOver = true)
    (noShutdown : intake.warehouse.closing = .opened →
      ∀ leftover, intake.order? event ≠ some (.shutdown leftover)) :
    next.warehouse.closing = intake.warehouse.closing := by
  have ordered := flow.ordered
  cases found : intake.order? event with
  | none =>
      rw [found] at ordered
      rw [ordered]
  | some order =>
      rw [found] at ordered
      refine Warehouse.closing_of_happen? settled (fun opened leftover same => ?_) ordered
      exact noShutdown opened leftover (by rw [found, same])

/-- Every event keeps the operations accounted for, with the entry it makes. -/
theorem IsAccounted.happen
    (accounted : IsAccounted first ledger intake)
    (harmless : ¬ event.IsStoreCrash)
    (happened : intake.happen? event = some next) :
    IsAccounted first (ledger ++ intake.entry event) next := by
  have flow := flow_of_happen? (fun undrained => (accounted.opened undrained).1) happened
  refine ⟨accounted.conserved_happen flow, ?_, ?_, accounted.ran_happen harmless flow⟩
  · intro undrained
    obtain ⟨before, noShutdown⟩ := flow.undrained undrained
    obtain ⟨opened, nothingLeft⟩ := accounted.opened before
    refine ⟨?_, ?_⟩
    · rw [closing_of_flow flow (.inl opened) fun _ => noShutdown, opened]
    · rw [Ledger.books_append, books_entry, Books.remainder_append, nothingLeft,
        remainder_bookings noShutdown]
      rfl
  · intro finished
    rcases flow.finished finished with before | done
    · have done := accounted.atEnd before
      have stays := closing_of_flow flow (.inr done) fun opened => by
        simp [Warehouse.isOver, opened] at done
      rw [Warehouse.isOver, stays]
      exact done
    · exact done

/-- A run without store crashes keeps the operations accounted for. -/
theorem IsAccounted.run
    {events : List Event}
    {later : Ledger}
    {last : Intake}
    (accounted : IsAccounted first ledger intake)
    (harmless : ∀ event ∈ events, ¬ event.IsStoreCrash)
    (ran : intake.run? events = some (later, last)) :
    IsAccounted first (ledger ++ later) last :=
  run?_induction (IsAccounted first)
    (fun event present _ _ _ accounted happened =>
      accounted.happen (harmless event present) happened) accounted ran

/-- Only others than the consumers can send once the queue has been found empty. -/
theorem late_of_happen?
    (ownOnly : ¬ event.IsForeignSend)
    (happened : intake.happen? event = some next) :
    (intake.entry event).late = [] := by
  rw [entry]
  split
  · next drained =>
      cases event with
      | act action =>
          cases action with
          | enqueue index =>
              have acted : intake.act? (.enqueue index) = some next := happened
              cases effect_of_act? acted with
              | enqueue running _ _ _ _ _ =>
                  rw [isDrained, running] at drained
                  exact absurd drained Bool.false_ne_true
          | _ => rfl
      | send operations => exact absurd trivial ownOnly
      | offer sender operation => exact absurd trivial ownOnly
      | _ => rfl
  · rfl

/-- If only the consumers send, every operation taken is accepted. -/
theorem late_of_run?
    {events : List Event}
    {last : Intake}
    (ownOnly : ∀ event ∈ events, ¬ event.IsForeignSend)
    (ran : intake.run? events = some (ledger, last)) :
    ledger.late = [] := by
  have start : Ledger.empty.late = [] := rfl
  refine run?_induction (fun ledger _ => ledger.late = []) ?_ start ran
  intro event present ledger intake next before happened
  rw [Ledger.late_append, before, late_of_happen? (ownOnly event present) happened]
  rfl

/-! ## At the end -/

/-- A ledger that says of every operation how it ended, in keeping with a closing report. -/
structure IsSettled (ledger : Ledger) (last : Intake) (report : ClosingReport) : Prop where
  /-- What was accepted was written, given up or left over for the last batch, once. -/
  conserved : ledger.accepted.Perm
    (ledger.books.committed.flatMap Batch.operations ++
      ledger.books.letters.flatMap DeadLetter.operations ++ ledger.books.remainder)
  /-- What was left over is all reported as written or all as lost. -/
  counted : report.drained = ledger.books.remainder.length ∧ report.dropped = 0 ∨
    report.drained = 0 ∧ report.dropped = ledger.books.remainder.length
  /-- The dead letters reported are those that were kept. -/
  kept : report.deadLetters = last.warehouse.pool.deadLetters.letters.length
  /-- The batches written are those the pool has counted. -/
  committed : last.warehouse.pool.tally.committed = ledger.books.committed.length
  /-- The batches given up are those the pool has counted. -/
  deadLettered : last.warehouse.pool.tally.deadLettered = ledger.books.letters.length

theorem report?_of_closed
    {last : Intake}
    {report : ClosingReport}
    (finished : last.stage = .finished)
    (closed : last.warehouse.closing = .closed report) :
    last.report? = some report := by
  rw [report?, finished, closed]

theorem stage_of_report?
    {last : Intake}
    {report : ClosingReport}
    (reported : last.report? = some report) :
    last.stage = .finished := by
  rw [report?] at reported
  split at reported
  · next finished _ => exact finished
  · simp at reported

/-- A warehouse that is over without a crash has been closed with a report. -/
theorem exists_report_of_isOver
    {warehouse : Warehouse}
    (done : warehouse.isOver = true)
    (intact : warehouse.closing ≠ .crashed) :
    ∃ report, warehouse.closing = .closed report := by
  rw [Warehouse.isOver] at done
  split at done
  · next report closed => exact ⟨report, closed⟩
  · next crashed => exact absurd crashed intact
  · exact absurd done Bool.false_ne_true

/-- Once an intake has finished without store crashes, every operation its queue accepted
was written, given up, or reported among those left over, each exactly once. -/
theorem conserves_operations
    {settings : IntakeSettings}
    {workers : Nat}
    {shared : Bool}
    {labels : List String}
    {events : List Event}
    {ledger : Ledger}
    {last : Intake}
    (staffed : 0 < workers)
    (unharmed : ∀ event ∈ events, ¬ event.IsStoreCrash)
    (ran : (new settings workers shared labels).run? events = some (ledger, last))
    (finished : last.stage = .finished) :
    ∃ report, last.report? = some report ∧ IsSettled ledger last report ∧
      last.warehouse.pool.deadLetters =
        ledger.books.letters.foldl DeadLetters.push
          (DeadLetters.new settings.deadLetterCapacity) ∧
      ((∀ event ∈ events, ¬ event.IsForeignSend) → ledger.late = []) := by
  have accounted : IsAccounted _ ledger last :=
    (isAccounted_new settings workers shared labels).run unharmed ran
  obtain ⟨orders, ranOrders, calmOrders⟩ := accounted.ran
  have balanced : last.warehouse.IsBalanced workers settings.deadLetterCapacity ledger.books :=
    (Warehouse.isBalanced_new workers shared settings.retry
      settings.deadLetterCapacity).run ranOrders
  obtain ⟨calm, kept⟩ := (Warehouse.isCalm_new workers shared settings.retry
    settings.deadLetterCapacity).run calmOrders ranOrders
  obtain ⟨report, closed⟩ := exists_report_of_isOver (accounted.atEnd finished) calm.intact
  obtain ⟨quiet, counted, letters⟩ : last.warehouse.pool.isQuiet = true ∧
      (report.drained = ledger.books.remainder.length ∧ report.dropped = 0 ∨
        report.drained = 0 ∧ report.dropped = ledger.books.remainder.length) ∧
      report.deadLetters = last.warehouse.pool.deadLetters.letters.length := by
    simpa only [Warehouse.IsClosing, closed] using balanced.closing
  refine ⟨report, report?_of_closed finished closed,
    ⟨?_, counted, letters, ?_, balanced.deadLettered⟩, balanced.deadLetters,
    fun ownOnly => late_of_run? ownOnly ran⟩
  · have nothingWaiting : last.waiting = [] := by rw [waiting, finished]
    rw [accounted.conserved, nothingWaiting, List.append_nil]
    exact (balanced.perm_operations staffed quiet kept).append_right _
  · rw [balanced.committed, Books.committed, List.length_map, List.countP_eq_length_filter]

/-- Batches of one operation, tried once, and no room for dead letters. -/
def oneByOne : IntakeSettings where
  queueCapacity := 2
  batch := ⟨1, ⟨1⟩⟩
  retry := ⟨1, ⟨0⟩⟩
  deadLetterCapacity := 0
  consumer := ⟨"s", "g", "c", 10, ⟨0⟩, ⟨0⟩⟩

/-- One operation is written, one given up, and the one read from the broker left over. -/
def mixedEnding : List Event :=
  [.send [.createFuzzer, .delete "a"], .start, .act (.consume 0 .join),
    .callBroker 0 (.publish "s" [("op", "create_fuzzer")]), .act .look, .act .receive,
    .act .submit, .act (.consume 0 .read), .act (.consume 0 .read), .act (.enqueue 0),
    .act .look, .act .receive, .act .submit, .act (.work (.start 0)), .act (.work (.finish 0)),
    .touchStore 0 (LocalStore.injectFailures · .deletes 1), .act (.work (.start 0)),
    .act (.work (.finish 0)), .cancel, .act (.consume 0 .acknowledge), .act (.halt 0),
    .act .release, .act .look, .act .stopFlush, .act .collect, .act .gather, .act .close,
    .act (.work .drain), .act (.work .settle), .act .finish]

/-- The operations of a mixed ending are conserved. -/
theorem conserves_operations_of_mixedEnding :
    ∃ ledger last, (new oneByOne 1 false ["main"]).run? mixedEnding = some (ledger, last) ∧
      (∀ event ∈ mixedEnding, ¬ event.IsStoreCrash) ∧ last.stage = .finished ∧
      ledger.accepted.length = 3 ∧ ledger.books.committed.length = 1 ∧
      ledger.books.letters.length = 1 ∧ ledger.books.remainder.length = 1 ∧
      ∃ report, last.report? = some report ∧ IsSettled ledger last report := by
  have evaluated : ((new oneByOne 1 false ["main"]).run? mixedEnding).map (fun reached =>
        (reached.2.report?, reached.1.accepted.length, reached.1.books.committed.length,
          reached.1.books.letters.length, reached.1.books.remainder.length)) =
      some (some ⟨1, 0, 0⟩, 3, 1, 1, 1) := by decide +kernel
  obtain ⟨⟨ledger, last⟩, ran, counts⟩ := Option.map_eq_some_iff.mp evaluated
  simp only [Prod.mk.injEq] at counts
  obtain ⟨reported, accepted, committed, letters, remainder⟩ := counts
  have unharmed : ∀ event ∈ mixedEnding, ¬ event.IsStoreCrash := by
    simp [mixedEnding, Event.IsStoreCrash]
  have finished := stage_of_report? reported
  obtain ⟨report, closed, settled, -, -⟩ :=
    conserves_operations Nat.one_pos unharmed ran finished
  exact ⟨ledger, last, ran, unharmed, finished, accepted, committed, letters, remainder,
    report, closed, settled⟩

end Intake
end FuzzIntake
