import FuzzIntake.Proofs.Lane.Replies

/-!
# The last batch

A pool that is shut down lets its lanes finish.  Then the first worker asks its store once to
write what is left over, if anything is, and whatever the store answers the stores are closed.
-/

namespace FuzzIntake
namespace Warehouse

/-- Whether the lanes may still work. -/
def isServing (warehouse : Warehouse) : Bool :=
  match warehouse.closing with
  | .opened => true
  | .awaiting _ => true
  | _ => false

/-- What an occasion means for the end of a pool. -/
inductive Passage (warehouse : Warehouse) : Occasion → Register → Warehouse → Prop
  /-- A lane or a caller is served. -/
  | serve {occasion : Occasion} {note : Register} {next : Warehouse} :
      warehouse.isServing = true → next.closing = warehouse.closing →
      warehouse.replies occasion = note.attempts →
      Passage warehouse occasion note next
  /-- The pool is cancelled, or a store is changed from outside. -/
  | pass {occasion : Occasion} {next : Warehouse} :
      next.closing = warehouse.closing → warehouse.replies occasion = [] →
      Passage warehouse occasion .empty next
  /-- The pool takes no more batches. -/
  | announce {leftover : List Operation} :
      warehouse.closing = .opened →
      Passage warehouse (.event (.shutdown leftover)) (warehouse.note (.shutdown leftover))
        (warehouse.shutdown leftover)
  /-- What is left over is handed to the first worker. -/
  | hand {now due : Instant} {leftover : List Operation} :
      warehouse.closing = .awaiting leftover → leftover ≠ [] →
      Passage warehouse (.event (.act now .drain)) .empty
        { warehouse with closing := .draining leftover due }
  /-- Nothing is left over. -/
  | close {now : Instant} :
      warehouse.closing = .awaiting [] →
      Passage warehouse (.event (.act now .drain)) .empty (warehouse.report 0 0)
  /-- The store of the first worker answers. -/
  | settle {now due : Instant} {leftover : List Operation} {store after : SwitchedStore}
      {result : Except BatchFailure Receipt} :
      warehouse.closing = .draining leftover due → due ≤ now →
      warehouse.store? 0 = some store → (Batch.mk leftover).writeTo 0 store = (result, after) →
      Passage warehouse (.event (.act now .settle)) .empty
        ((warehouse.setStore 0 after).report
          (if result.isOk then leftover.length else 0) (if result.isOk then 0 else leftover.length))

/-- The lanes were through when what is left over was handed on. -/
def IsHandedOn (first : Warehouse) (occasions : List Occasion) (register : Register)
    (leftover : List Operation) : Prop :=
  ∃ before now here next,
    IsMoment first occasions before register here (.event (.act now .drain)) .empty next ∧
      here.closing = .awaiting leftover ∧
      .event (.shutdown leftover) ∈ before ∧
      first.chronicle replies before = register.attempts

/-- The moment at which a pool is closed with a report about what was left over. -/
structure Closes (workers : Nat) (leftover : List Operation) (report : ClosingReport)
    (here next : Warehouse) : Prop where
  ongoing : here.isOver = false
  closing : next.closing = .closed report
  /-- Nothing but what is drained gets into a store, and that as one batch of the first worker. -/
  rows : next.rows =
    if report.drained = 0 then
      here.rows
    else
      here.rows.modify (here.storeOf 0) fun tables => tables.applyBatch ⟨leftover⟩
  closed : ∀ worker < workers, ∃ store, next.store? worker = some store ∧
    store.store.closed = true
  deadLetters : report.deadLetters = next.pool.deadLetters.letters.length

/-- How a pool was closed, with operations left over. -/
structure EndsWith (workers : Nat) (first : Warehouse) (occasions : List Occasion)
    (register : Register) (leftover : List Operation) (report : ClosingReport) : Prop where
  handedOn : IsHandedOn first occasions register leftover
  /-- After all answers to the lanes there is one to what is left over, if anything is. -/
  answers : first.chronicle replies occasions =
    register.attempts ++
      if leftover = [] then [] else [⟨0, ⟨leftover⟩, decide (report.drained ≠ 0)⟩]
  drained_add_dropped : report.drained + report.dropped = leftover.length
  drained_or_dropped : report.drained = 0 ∨ report.dropped = 0
  closes : ∃ before occasion here next,
    IsMoment first occasions before register here occasion .empty next ∧
      Closes workers leftover report here next

/-- What a run has come to, by how far the pool has been closed. -/
def HasCome (workers : Nat) (first : Warehouse) (occasions : List Occasion) (register : Register)
    (warehouse : Warehouse) : Prop :=
  match warehouse.closing with
  | .opened => first.chronicle replies occasions = register.attempts
  | .awaiting leftover =>
      .event (.shutdown leftover) ∈ occasions ∧
        first.chronicle replies occasions = register.attempts
  | .draining leftover _ =>
      leftover ≠ [] ∧ IsHandedOn first occasions register leftover ∧
        first.chronicle replies occasions = register.attempts
  | .closed report => ∃ leftover, EndsWith workers first occasions register leftover report
  | .crashed => True

variable {workers capacity : Nat} {shared : Bool} {retry : RetrySchedule}
  {first warehouse here next last : Warehouse} {occasion : Occasion}
  {occasions before : List Occasion} {register note : Register} {leftover : List Operation}
  {report : ClosingReport}

/-! ## The stores of a pool -/

theorem stores_of_follow? (followed : first.follow? occasions = some (register, last)) :
    last.stores.length = first.stores.length ∧ last.shared = first.shared := by
  refine follow?_induction (fun _ warehouse => warehouse.stores.length = first.stores.length ∧
    warehouse.shared = first.shared) ?_ ⟨rfl, rfl⟩ followed
  intro occasion _ register warehouse note next same meeting
  cases meeting with
  | event _ happened =>
      obtain ⟨length, shared⟩ := stores_of_happen? happened
      exact ⟨length.trans same.1, shared.trans same.2⟩
  | accepted happened =>
      obtain ⟨length, shared⟩ := stores_of_happen? happened
      exact ⟨length.trans same.1, shared.trans same.2⟩
  | returned _ _ => exact same

/-- Every worker of a pool has a store. -/
theorem exists_store?_of_follow?
    {worker : Nat}
    (followed : (new workers shared retry capacity).follow? occasions = some (register, last))
    (inside : worker < workers) :
    ∃ store, last.store? worker = some store := by
  obtain ⟨length, sharing⟩ := stores_of_follow? followed
  have placed : last.storeOf worker < last.stores.length := by
    rw [length, storeOf, sharing, new, List.length_replicate]
    split
    · omega
    · exact inside
  exact ⟨_, List.getElem?_eq_getElem placed⟩

/-- A worker has a store as long as there are as many stores. -/
theorem store?_of_length
    {worker : Nat}
    {store : SwitchedStore}
    (found : warehouse.store? worker = some store)
    (length : next.stores.length = warehouse.stores.length)
    (sharing : next.shared = warehouse.shared) :
    ∃ store, next.store? worker = some store := by
  obtain ⟨inside, -⟩ := List.getElem?_eq_some_iff.mp found
  have placed : next.storeOf worker < next.stores.length := by
    rw [length, storeOf, sharing]
    exact inside
  exact ⟨_, List.getElem?_eq_getElem placed⟩

theorem closed_of_report
    {worker : Nat}
    {store : SwitchedStore}
    (found : warehouse.store? worker = some store)
    (drained dropped : Nat) :
    ∃ store, (warehouse.report drained dropped).store? worker = some store ∧
      store.store.closed = true := by
  refine ⟨PlanStore.close store, ?_, rfl⟩
  change (warehouse.stores.map PlanStore.close)[warehouse.storeOf worker]? = _
  unfold store? at found
  rw [List.getElem?_map, found]
  rfl

/-! ## One occasion -/

/-- Lanes that work are served, since from the last batch on they are quiet. -/
theorem isServing_of_work
    {later : Pool}
    {index : Nat}
    {now : Instant}
    {outcomes : List Outcome}
    {remainder : List Operation}
    (work : Pool.Work warehouse.pool index now outcomes later)
    (closing : warehouse.IsClosing remainder) :
    warehouse.isServing = true := by
  have busy := work.not_isQuiet
  unfold IsClosing at closing
  unfold isServing
  cases stage : warehouse.closing with
  | opened | awaiting _ => rfl
  | draining _ _ | closed _ | crashed => simp [stage, busy] at closing

theorem passage_of_drain?
    {now : Instant}
    (calm : warehouse.IsCalm)
    (stocked : ∃ store, warehouse.store? 0 = some store)
    (drained : warehouse.drain? now = some next) :
    Passage warehouse (.event (.act now .drain)) .empty next := by
  cases drain_of_drain? drained with
  | nothing awaiting _ => exact .close awaiting
  | drop _ _ _ missing =>
      obtain ⟨store, found⟩ := stocked
      cases missing.symm.trans found
  | crash _ _ _ found crashes => exact absurd (calm.crashes_eq found) (Nat.ne_of_gt crashes)
  | hand awaiting _ filled _ _ => exact .hand awaiting filled

theorem passage_of_settle?
    {now : Instant}
    (settled : warehouse.settle? now = some next) :
    Passage warehouse (.event (.act now .settle)) .empty next := by
  cases settle_of_settle? settled with
  | write draining passed found answered => exact .settle draining passed found answered
  | drop draining passed found answered => exact .settle draining passed found answered

/-- Every occasion is a passage of one of these kinds. -/
theorem passage_of_meet?
    (kept : warehouse.IsKept workers capacity register)
    (stocked : ∃ store, warehouse.store? 0 = some store)
    (met : warehouse.meet? occasion = some (note, next)) :
    Passage warehouse occasion note next := by
  have closing := kept.balanced.closing
  cases occasion with
  | call batch =>
      obtain ⟨⟨answer, reached⟩, answered, same⟩ := Option.map_eq_some_iff.mp met
      obtain ⟨rfl, rfl⟩ := Prod.mk.inj same
      rw [answer?] at answered
      split at answered
      · next opened =>
        have serving : warehouse.isServing = true := by rw [isServing, opened]
        split at answered
        · next routed =>
          obtain ⟨rfl, rfl⟩ := Prod.mk.inj (Option.some.inj answered)
          obtain ⟨pool, -, rfl⟩ := Option.map_eq_some_iff.mp routed
          exact .serve serving rfl rfl
        · obtain ⟨-, answered⟩ := Option.ite_none_right_eq_some.mp answered
          obtain ⟨rfl, rfl⟩ := Prod.mk.inj (Option.some.inj answered)
          exact .serve serving rfl rfl
      · cases answered
  | event event =>
      have noRoute : ∀ batch, event ≠ .route batch := by
        rintro batch rfl
        cases met
      rw [meet?_event noRoute] at met
      obtain ⟨reached, happened, same⟩ := Option.map_eq_some_iff.mp met
      obtain ⟨rfl, rfl⟩ := Prod.mk.inj same
      cases event with
      | act now action =>
          cases action with
          | start lane =>
              obtain ⟨work, same⟩ := work_of_start? happened
              exact .serve (isServing_of_work work closing) same rfl
          | finish lane =>
              obtain ⟨work, same⟩ := work_of_finish? happened
              exact .serve (isServing_of_work work closing) same rfl
          | abandon lane =>
              obtain ⟨pool, abandoned, rfl⟩ := Option.map_eq_some_iff.mp happened
              exact .serve (isServing_of_work (Pool.work_of_abandon? abandoned now) closing) rfl rfl
          | drain => exact passage_of_drain? kept.calm stocked happened
          | settle => exact passage_of_settle? happened
      | route batch => exact absurd rfl (noRoute batch)
      | shutdown leftover =>
          obtain ⟨opened, rfl⟩ := happen?_shutdown_eq_some_iff.mp happened
          exact .announce opened
      | cancel | touchStore _ _ | delayStore _ _ | crashStore _ _ =>
          exact .pass (Option.some.inj happened ▸ rfl) rfl

/-! ## Runs -/

theorem IsHandedOn.extend
    {longer : List Occasion}
    (handedOn : IsHandedOn first occasions register leftover)
    (within : occasions <+: longer) :
    IsHandedOn first longer register leftover := by
  obtain ⟨before, now, here, next, moment, rest⟩ := handedOn
  exact ⟨before, now, here, next, moment.extend within, rest⟩

theorem EndsWith.extend
    {longer : List Occasion}
    (ends : EndsWith workers first occasions register leftover report)
    (within : occasions <+: longer)
    (silent : first.chronicle replies longer = first.chronicle replies occasions) :
    EndsWith workers first longer register leftover report := by
  obtain ⟨before, occasion, here, next, moment, closes⟩ := ends.closes
  exact ⟨ends.handedOn.extend within, silent.trans ends.answers, ends.drained_add_dropped,
    ends.drained_or_dropped, before, occasion, here, next, moment.extend within, closes⟩

/-- Occasions without an entry and without an answer of a store leave what a run has come to. -/
theorem HasCome.extend
    {longer : List Occasion}
    (come : HasCome workers first occasions register warehouse)
    (within : occasions <+: longer)
    (silent : first.chronicle replies longer = first.chronicle replies occasions)
    (same : next.closing = warehouse.closing) :
    HasCome workers first longer register next := by
  unfold HasCome at come ⊢
  rw [same, silent]
  cases stage : warehouse.closing with
  | opened =>
      rw [stage] at come
      exact come
  | awaiting leftover =>
      rw [stage] at come
      exact ⟨within.subset come.1, come.2⟩
  | draining leftover due =>
      rw [stage] at come
      exact ⟨come.1, come.2.1.extend within, come.2.2⟩
  | closed report =>
      rw [stage] at come
      obtain ⟨leftover, ends⟩ := come
      exact ⟨leftover, ends.extend within silent⟩
  | crashed => trivial

/-- A store that answers to what is left over takes it whole or not at all. -/
theorem closes_of_settle
    {due : Instant}
    {store after : SwitchedStore}
    {result : Except BatchFailure Receipt}
    (draining : here.closing = .draining leftover due)
    (filled : leftover ≠ [])
    (found : here.store? 0 = some store)
    (asked : (Batch.mk leftover).writeTo 0 store = (result, after))
    (stocked : ∀ worker < workers, ∃ store, here.store? worker = some store)
    (reported : report = ⟨if result.isOk then leftover.length else 0,
      if result.isOk then 0 else leftover.length, here.pool.deadLetters.letters.length⟩) :
    Closes workers leftover report here
      ((here.setStore 0 after).report report.drained report.dropped) := by
  subst reported
  have written := Batch.tables_writeTo ⟨leftover⟩ 0 store
  rw [asked] at written
  constructor
  · rw [isOver, draining]
  · rfl
  · have placed := rows_of_store? found
    rw [rows_report, rows_setStore, written, List.modify_eq_set_getElem?, placed]
    cases result with
    | ok receipt =>
        have drained : leftover.length ≠ 0 := fun none => filled (List.length_eq_zero_iff.mp none)
        exact (if_neg drained).symm
    | error failure =>
        obtain ⟨inside, same⟩ := List.getElem?_eq_some_iff.mp placed
        change here.rows.set (here.storeOf 0) store.store.tables = here.rows
        rw [← same]
        exact List.set_getElem_self inside
  · intro worker inside
    obtain ⟨other, placed⟩ := stocked worker inside
    obtain ⟨another, replaced⟩ : ∃ store, (here.setStore 0 after).store? worker = some store :=
      store?_of_length placed List.length_set rfl
    exact closed_of_report replaced _ _
  · rfl

/-- An answer to a lane comes after the answers before it. -/
theorem HasCome.serve
    (come : HasCome workers first before register here)
    (followed : first.follow? before = some (register, here))
    (serving : here.isServing = true)
    (same : next.closing = here.closing)
    (answered : here.replies occasion = note.attempts) :
    HasCome workers first (before ++ [occasion]) (register ++ note) next := by
  have replied := chronicle_concat replies followed occasion
  unfold HasCome at come ⊢
  rw [replied, answered, same, Register.attempts_append]
  cases stage : here.closing with
  | opened =>
      simp only [stage] at come ⊢
      rw [come]
  | awaiting leftover =>
      simp only [stage] at come ⊢
      exact ⟨List.mem_append_left _ come.1, by rw [come.2]⟩
  | draining _ _ | closed _ | crashed => simp [isServing, stage] at serving

/-- A pool that is closed with nothing left over has asked nobody since its lanes were through. -/
theorem endsWith_of_close
    {now : Instant}
    (moment : IsMoment first (before ++ [.event (.act now .drain)]) before register here
      (.event (.act now .drain)) .empty (here.report 0 0))
    (awaiting : here.closing = .awaiting [])
    (announced : .event (.shutdown []) ∈ before)
    (answered : first.chronicle replies before = register.attempts)
    (stocked : ∀ worker < workers, ∃ store, here.store? worker = some store) :
    EndsWith workers first (before ++ [.event (.act now .drain)]) register []
      ⟨0, 0, here.pool.deadLetters.letters.length⟩ := by
  have closes : Closes workers [] ⟨0, 0, here.pool.deadLetters.letters.length⟩ here
      (here.report 0 0) := by
    refine ⟨by rw [isOver, awaiting], rfl, rows_report _ _ _, fun worker inside => ?_, rfl⟩
    obtain ⟨store, found⟩ := stocked worker inside
    exact closed_of_report found _ _
  refine ⟨⟨before, _, here, _, moment, awaiting, announced, answered⟩, ?_, rfl, .inl rfl,
    before, _, here, _, moment, closes⟩
  rw [chronicle_concat replies moment.followed, answered]
  rfl

/-- A pool whose first worker has had its answer is closed after this answer. -/
theorem endsWith_of_settle
    {now due : Instant}
    {store after : SwitchedStore}
    {result : Except BatchFailure Receipt}
    (moment : IsMoment first (before ++ [.event (.act now .settle)]) before register here
      (.event (.act now .settle)) .empty
      ((here.setStore 0 after).report
        (if result.isOk then leftover.length else 0) (if result.isOk then 0 else leftover.length)))
    (draining : here.closing = .draining leftover due)
    (passed : due ≤ now)
    (found : here.store? 0 = some store)
    (asked : (Batch.mk leftover).writeTo 0 store = (result, after))
    (filled : leftover ≠ [])
    (handedOn : IsHandedOn first before register leftover)
    (answered : first.chronicle replies before = register.attempts)
    (stocked : ∀ worker < workers, ∃ store, here.store? worker = some store) :
    EndsWith workers first (before ++ [.event (.act now .settle)]) register leftover
      ⟨if result.isOk then leftover.length else 0, if result.isOk then 0 else leftover.length,
        here.pool.deadLetters.letters.length⟩ := by
  have answer : here.replies (.event (.act now .settle)) = [⟨0, ⟨leftover⟩, result.isOk⟩] := by
    simp only [replies, draining, found, passed, if_true, asked]
  have drained : leftover.length ≠ 0 := fun none => filled (List.length_eq_zero_iff.mp none)
  refine ⟨handedOn.extend (List.prefix_append _ _), ?_, ?_, ?_, before, _, here, _, moment,
    closes_of_settle draining filled found asked stocked rfl⟩
  · rw [chronicle_concat replies moment.followed, answered, answer, if_neg filled]
    cases result with
    | ok receipt => simp [Except.isOk, Except.toBool, drained]
    | error failure => rfl
  · cases result with
    | ok receipt => rfl
    | error failure => exact Nat.zero_add _
  · cases result with
    | ok receipt => exact .inr rfl
    | error failure => exact .inl rfl

/-- What a run has come to after one more occasion.  What was told of the run before is taken from
the stage that the occasion starts in. -/
theorem HasCome.meet
    (come : HasCome workers first before register here)
    (followed : first.follow? before = some (register, here))
    (met : here.meet? occasion = some (note, next))
    (stocked : ∀ worker < workers, ∃ store, here.store? worker = some store)
    (passage : Passage here occasion note next) :
    HasCome workers first (before ++ [occasion]) (register ++ note) next := by
  have moment : IsMoment first (before ++ [occasion]) before register here occasion note next :=
    ⟨List.prefix_rfl, followed, met⟩
  have replied := chronicle_concat replies followed occasion
  cases passage with
  | serve serving same answered => exact come.serve followed serving same answered
  | pass same silent =>
      rw [silent, List.append_nil] at replied
      rw [Register.append_empty]
      exact come.extend (List.prefix_append _ _) replied same
  | announce opened =>
      unfold HasCome at come
      simp only [opened] at come
      refine ⟨List.mem_append_right _ (List.mem_singleton_self _), ?_⟩
      rw [replied, come, Register.attempts_append]
      rfl
  | hand awaiting filled =>
      unfold HasCome at come
      simp only [awaiting] at come
      rw [Register.append_empty]
      refine ⟨filled, ⟨before, _, here, _, moment, awaiting, come⟩, ?_⟩
      rw [replied, come.2]
      exact List.append_nil _
  | close awaiting =>
      unfold HasCome at come
      simp only [awaiting] at come
      rw [Register.append_empty]
      exact ⟨[], endsWith_of_close moment awaiting come.1 come.2 stocked⟩
  | settle draining passed found asked =>
      unfold HasCome at come
      simp only [draining] at come
      obtain ⟨filled, handedOn, answered⟩ := come
      have ends := endsWith_of_settle moment draining passed found asked filled handedOn answered
        stocked
      rw [Register.append_empty]
      exact ⟨_, ends⟩

theorem hasCome_of_follow?
    (staffed : 0 < workers)
    (harmless : ∀ occasion ∈ occasions, ¬ occasion.IsCrash)
    (followed : (new workers shared retry capacity).follow? occasions = some (register, last)) :
    HasCome workers (new workers shared retry capacity) occasions register last := by
  have start : HasCome workers (new workers shared retry capacity) [] .empty
      (new workers shared retry capacity) := rfl
  refine follow?_induction_moments _ ?_ start followed
  intro before register here occasion note next moment come
  have kept := moment.isKept staffed harmless
  have stocked : ∀ worker < workers, ∃ store, here.store? worker = some store :=
    fun worker inside => exists_store?_of_follow? moment.followed inside
  exact come.meet moment.followed moment.met stocked
    (passage_of_meet? kept (stocked 0 staffed) moment.met)

/--
A pool without crashes that has been shut down with operations left over has first ended every
batch it accepted, each in its lane.  Only then was the store of the first worker asked to write
what was left over, once and as one batch, and nobody was asked if nothing was.  The report counts
these operations as drained if they were written and as dropped if no store has changed, and with
the report every store was closed.  Apart from that, a store changes only from outside and by the
answers to lanes.
-/
theorem drains_once_and_last
    (staffed : 0 < workers)
    (harmless : ∀ occasion ∈ occasions, ¬ occasion.IsCrash)
    (followed : (new workers shared retry capacity).follow? occasions = some (register, last))
    (closed : last.closing = .closed report) :
    (∀ worker < workers,
      (register.books.outcomesOf worker).map Outcome.batch =
        register.acceptedFor workers worker) ∧
    (∃ leftover,
      EndsWith workers (new workers shared retry capacity) occasions register leftover report) ∧
    ∀ before earlier here occasion note next,
      IsMoment (new workers shared retry capacity) occasions before earlier here occasion note
        next →
      ¬ occasion.IsOutside → Visits here occasion next := by
  refine ⟨?_, ?_, ?_⟩
  · have kept := isKept_of_follow? staffed harmless followed
    exact (kept.settled (accepted_eq_routed followed) closed).ended
  · have come := hasCome_of_follow? staffed harmless followed
    unfold HasCome at come
    rwa [closed] at come
  · intro before earlier here occasion note next moment inside
    exact visits_of_meet? (moment.isKept staffed harmless).calm inside moment.met

/-- Two workers are shut down while both are writing.  The second one tries its batch again, and
the first one fails to write what is left over. -/
def lastBatchRefused : List Occasion :=
  [.call ⟨[.testProgram "a" 1]⟩, .call ⟨[.testProgram "g" 1]⟩,
    .event (.touchStore 1 (LocalStore.injectFailures · .programs 1)),
    .event (.act 0 (.start 1)), .event (.act 0 (.start 0)),
    .event (.shutdown [.testProgram "h" 1, .delete "g"]),
    .event (.act 0 (.finish 1)), .event (.act 0 (.finish 0)), .event (.act 0 (.start 1)),
    .event (.touchStore 0 (LocalStore.injectFailures · .deletes 1)),
    .event (.act 0 (.finish 1)), .event (.act 0 .drain), .event (.act 0 .settle)]

/-- What is left over is dropped after both lanes have written their batches. -/
theorem drains_once_and_last_refused :
    ∃ register last leftover report,
      (new 2 false ⟨2, ⟨0⟩⟩ 1).follow? lastBatchRefused = some (register, last) ∧
        (∀ occasion ∈ lastBatchRefused, ¬ occasion.IsCrash) ∧
        last.closing = .closed report ∧
        report = ⟨0, 2, 0⟩ ∧
        ((new 2 false ⟨2, ⟨0⟩⟩ 1).chronicle replies lastBatchRefused).map
            (fun attempt => (attempt.worker, attempt.succeeded)) =
          [(1, false), (0, true), (1, true), (0, false)] ∧
        EndsWith 2 (new 2 false ⟨2, ⟨0⟩⟩ 1) lastBatchRefused register leftover report := by
  have evaluated : ((new 2 false ⟨2, ⟨0⟩⟩ 1).follow? lastBatchRefused).map
        (fun reached => reached.2.report?) = some (some ⟨0, 2, 0⟩) := by decide +kernel
  obtain ⟨⟨register, last⟩, followed, reported⟩ := Option.map_eq_some_iff.mp evaluated
  have harmless : ∀ occasion ∈ lastBatchRefused, ¬ occasion.IsCrash := by
    simp [lastBatchRefused, Occasion.IsCrash, Event.IsCrash]
  have closed : last.closing = .closed ⟨0, 2, 0⟩ := closing_of_report? reported
  obtain ⟨-, ⟨leftover, ends⟩, -⟩ := drains_once_and_last Nat.two_pos harmless followed closed
  exact ⟨register, last, leftover, _, followed, harmless, closed, rfl, by decide +kernel, ends⟩

end Warehouse
end FuzzIntake
