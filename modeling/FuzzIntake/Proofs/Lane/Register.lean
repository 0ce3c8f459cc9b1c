import FuzzIntake.Proofs.Lane.Settlement

/-!
# Runs of a pool with its callers

Callers hand batches to a pool and get an answer each: the batch is accepted, or it comes
back from a cancelled pool without room.  A run of a pool is a list of occasions, which are
the answers to calls and everything else that can happen to a warehouse.  Its register holds
the books, the batches that lanes began, the answers of the stores and the answers to the
calls.
-/

namespace FuzzIntake

/-- A batch at a worker. -/
structure Assignment where
  /-- The worker. -/
  worker : Nat
  /-- The batch. -/
  batch : Batch

/-- The answer of the store of a worker to a batch. -/
structure Attempt where
  /-- The worker. -/
  worker : Nat
  /-- The batch. -/
  batch : Batch
  /-- Whether the store wrote the batch. -/
  succeeded : Bool

/-- What callers, lanes and stores did in a run of a pool. -/
@[ext]
structure Register where
  /-- What was routed and what came of it. -/
  books : Books
  /-- The batches that lanes took out of their buffers to write them. -/
  begun : List Assignment
  /-- The answers of the stores to the lanes, in order. -/
  attempts : List Attempt
  /-- The batches of the calls with the answers, in the order of the answers. -/
  calls : List (Batch × Routed)

namespace Register

/-- A register without entries. -/
def empty : Register :=
  ⟨.empty, [], [], []⟩

instance : Append Register where
  append earlier later :=
    ⟨earlier.books ++ later.books, earlier.begun ++ later.begun,
      earlier.attempts ++ later.attempts, earlier.calls ++ later.calls⟩

@[simp] theorem books_append (earlier later : Register) :
    (earlier ++ later).books = earlier.books ++ later.books := rfl

@[simp] theorem begun_append (earlier later : Register) :
    (earlier ++ later).begun = earlier.begun ++ later.begun := rfl

@[simp] theorem attempts_append (earlier later : Register) :
    (earlier ++ later).attempts = earlier.attempts ++ later.attempts := rfl

@[simp] theorem calls_append (earlier later : Register) :
    (earlier ++ later).calls = earlier.calls ++ later.calls := rfl

theorem append_assoc (first second third : Register) :
    first ++ second ++ third = first ++ (second ++ third) := by
  ext1
  · exact Books.append_assoc _ _ _
  · exact List.append_assoc _ _ _
  · exact List.append_assoc _ _ _
  · exact List.append_assoc _ _ _

@[simp] theorem append_empty (register : Register) : register ++ empty = register := by
  ext1
  · exact Books.append_empty _
  · exact List.append_nil _
  · exact List.append_nil _
  · exact List.append_nil _

@[simp] theorem empty_append (register : Register) : empty ++ register = register := rfl

/-- The batch that was accepted and not empty, if it was. -/
def acceptedBatch? (call : Batch × Routed) : Option Batch :=
  match call.2 with
  | .accepted => if call.1.isEmpty then none else some call.1
  | .returned _ => none

/-- The batches with operations that were accepted. -/
def accepted (register : Register) : List Batch :=
  register.calls.filterMap acceptedBatch?

/-- The batches accepted for one of the workers. -/
def acceptedFor (register : Register) (workers worker : Nat) : List Batch :=
  register.accepted.filter fun batch => Routing.index batch.laneKey workers == worker

/-- The batches that a worker began. -/
def begunBy (register : Register) (worker : Nat) : List Batch :=
  (register.begun.filter fun assignment => assignment.worker == worker).map Assignment.batch

/-- The answers of a worker's store. -/
def attemptsOf (register : Register) (worker : Nat) : List Attempt :=
  register.attempts.filter fun attempt => attempt.worker == worker

end Register

/-- The batch that a lane would begin. -/
def Pool.beginning (pool : Pool) (index : Nat) : List Batch :=
  match pool.lanes[index]? with
  | some ⟨batch :: _, .idle⟩ => [batch]
  | _ => []

namespace Warehouse

/-- What happens in a run of a pool. -/
inductive Occasion
  /-- Something else than a call. -/
  | event (event : Event)
  /-- A call with a batch is answered. -/
  | call (batch : Batch)

/-- A store that is told to crash. -/
def Occasion.IsCrash : Occasion → Prop
  | .event happening => happening.IsCrash
  | .call _ => False

/-- The report of a warehouse that has been closed. -/
def report? (warehouse : Warehouse) : Option ClosingReport :=
  match warehouse.closing with
  | .closed report => some report
  | _ => none

/-- The answer to a call, if it has one now. -/
def answer? (warehouse : Warehouse) (batch : Batch) : Option (Routed × Warehouse) :=
  match warehouse.closing with
  | .opened =>
      match warehouse.route? batch with
      | some next => some (.accepted, next)
      | none => if warehouse.pool.cancelled then some (.returned batch, warehouse) else none
  | _ => none

/-- The batch that a lane begins at an event. -/
def begun (warehouse : Warehouse) : Event → List Assignment
  | .act _ (.start lane) => (warehouse.pool.beginning lane).map (Assignment.mk lane)
  | _ => []

/-- The answer of a lane's store at an event. -/
def attempts (warehouse : Warehouse) : Event → List Attempt
  | .act now (.finish lane) =>
      match warehouse.store? lane, warehouse.pool.answering? lane now with
      | some store, some (batch, _) => [⟨lane, batch, (batch.writeTo lane store).1.isOk⟩]
      | _, _ => []
  | _ => []

/-- What an event adds to the register. -/
def note (warehouse : Warehouse) (event : Event) : Register :=
  ⟨warehouse.entry event, warehouse.begun event, warehouse.attempts event, []⟩

/-- What the answer to a call adds to the register. -/
def callNote (warehouse : Warehouse) (batch : Batch) (answer : Routed) : Register :=
  let books :=
    match answer with
    | .accepted => warehouse.entry (.route batch)
    | .returned _ => .empty
  ⟨books, [], [], [(batch, answer)]⟩

/-- The warehouse after an occasion, and what the occasion adds to the register. -/
def meet? (warehouse : Warehouse) : Occasion → Option (Register × Warehouse)
  | .event (.route _) => none
  | .event event => (warehouse.happen? event).map fun next => (warehouse.note event, next)
  | .call batch =>
      (warehouse.answer? batch).map fun (answer, next) => (warehouse.callNote batch answer, next)

/-- The warehouse after some occasions, with the register kept meanwhile. -/
def follow? (warehouse : Warehouse) : List Occasion → Option (Register × Warehouse)
  | [] => some (.empty, warehouse)
  | occasion :: rest =>
      (warehouse.meet? occasion).bind fun (note, next) =>
        (next.follow? rest).map fun (later, last) => (note ++ later, last)

/-- An occasion is an event, a batch that is accepted, or a batch that comes back. -/
inductive Meeting (warehouse : Warehouse) : Occasion → Register → Warehouse → Prop
  | event {event : Event} {next : Warehouse}
      (noRoute : ∀ batch, event ≠ .route batch)
      (happened : warehouse.happen? event = some next) :
      Meeting warehouse (.event event) (warehouse.note event) next
  | accepted {batch : Batch} {next : Warehouse}
      (happened : warehouse.happen? (.route batch) = some next) :
      Meeting warehouse (.call batch) (warehouse.callNote batch .accepted) next
  | returned {batch : Batch}
      (noRoom : warehouse.route? batch = none)
      (cancelled : warehouse.pool.cancelled = true) :
      Meeting warehouse (.call batch) (warehouse.callNote batch (.returned batch)) warehouse

variable {warehouse next last : Warehouse} {occasion : Occasion} {occasions : List Occasion}
  {register note : Register}

theorem closing_of_report?
    {report : ClosingReport}
    (reported : last.report? = some report) :
    last.closing = .closed report := by
  rw [report?] at reported
  split at reported
  · next closed => rw [closed, Option.some.inj reported]
  · cases reported

theorem meet?_event
    {event : Event}
    (noRoute : ∀ batch, event ≠ .route batch) :
    warehouse.meet? (.event event) =
      (warehouse.happen? event).map fun next => (warehouse.note event, next) := by
  cases event with
  | route batch => exact absurd rfl (noRoute batch)
  | act _ _ | cancel | shutdown _ | touchStore _ _ | delayStore _ _ | crashStore _ _ => rfl

theorem meeting_of_meet? (met : warehouse.meet? occasion = some (note, next)) :
    Meeting warehouse occasion note next := by
  cases occasion with
  | event event =>
      have noRoute : ∀ batch, event ≠ .route batch := by
        rintro batch rfl
        cases met
      rw [meet?_event noRoute] at met
      obtain ⟨reached, happened, same⟩ := Option.map_eq_some_iff.mp met
      obtain ⟨rfl, rfl⟩ := Prod.mk.inj same
      exact .event noRoute happened
  | call batch =>
      obtain ⟨⟨answer, reached⟩, answered, same⟩ := Option.map_eq_some_iff.mp met
      obtain ⟨rfl, rfl⟩ := Prod.mk.inj same
      rw [answer?] at answered
      split at answered
      · next opened =>
          split at answered
          · next routed =>
              obtain ⟨rfl, rfl⟩ := Prod.mk.inj (Option.some.inj answered)
              exact .accepted (by rw [happen?, opened]; exact routed)
          · next noRoom =>
              obtain ⟨cancelled, answered⟩ := Option.ite_none_right_eq_some.mp answered
              obtain ⟨rfl, rfl⟩ := Prod.mk.inj (Option.some.inj answered)
              exact .returned noRoom cancelled
      · cases answered

/-- What one occasion keeps, with what it adds to the register, a whole run keeps.  The induction
goes along the occasions with the register kept before them. -/
theorem follow?_induction
    (holds : Register → Warehouse → Prop)
    {first : Warehouse}
    (step : ∀ occasion ∈ occasions, ∀ {register warehouse note next}, holds register warehouse →
      Meeting warehouse occasion note next → holds (register ++ note) next)
    (start : holds .empty first)
    (followed : first.follow? occasions = some (register, last)) :
    holds register last := by
  suffices general : ∀ earlier, holds earlier first → holds (earlier ++ register) last from
    general .empty start
  clear start
  induction occasions generalizing first register with
  | nil =>
      obtain ⟨rfl, rfl⟩ := Prod.mk.inj (Option.some.inj followed)
      intro earlier held
      rwa [Register.append_empty]
  | cons occasion rest inductionHypothesis =>
      obtain ⟨⟨note, next⟩, met, remains⟩ := Option.bind_eq_some_iff.mp followed
      obtain ⟨⟨after, reached⟩, followedOn, same⟩ := Option.map_eq_some_iff.mp remains
      obtain ⟨rfl, rfl⟩ := Prod.mk.inj same
      intro earlier held
      rw [← Register.append_assoc]
      exact inductionHypothesis
        (fun other present => step other (List.mem_cons_of_mem occasion present)) followedOn _
        (step occasion List.mem_cons_self held (meeting_of_meet? met))

/-- A run passes through every one of its occasions. -/
theorem exists_meet?_of_follow?
    {first : Warehouse}
    {before after : List Occasion}
    (followed : first.follow? (before ++ occasion :: after) = some (register, last)) :
    ∃ earlier here note next, first.follow? before = some (earlier, here) ∧
      here.meet? occasion = some (note, next) := by
  induction before generalizing first register with
  | nil =>
      obtain ⟨⟨note, next⟩, met, -⟩ := Option.bind_eq_some_iff.mp followed
      exact ⟨_, _, note, next, rfl, met⟩
  | cons other before inductionHypothesis =>
      rw [List.cons_append, follow?] at followed
      obtain ⟨⟨begun, second⟩, met, remains⟩ := Option.bind_eq_some_iff.mp followed
      obtain ⟨⟨later, reached⟩, followedOn, same⟩ := Option.map_eq_some_iff.mp remains
      obtain ⟨rfl, rfl⟩ := Prod.mk.inj same
      obtain ⟨earlier, here, note, next, through, metHere⟩ := inductionHypothesis followedOn
      refine ⟨begun ++ earlier, here, note, next, ?_, metHere⟩
      rw [follow?, met, Option.bind_some]
      simp only [through, Option.map_some]

/-! ### The books and the answers to the calls -/

theorem routed_entry_of_noRoute
    (warehouse : Warehouse)
    {event : Event}
    (noRoute : ∀ batch, event ≠ .route batch) :
    (warehouse.entry event).routed = [] := by
  cases event with
  | route batch => exact absurd rfl (noRoute batch)
  | act _ _ | cancel | shutdown _ | touchStore _ _ | delayStore _ _ | crashStore _ _ => rfl

theorem routed_entry_route (warehouse : Warehouse) (batch : Batch) :
    (warehouse.entry (.route batch)).routed =
      (Register.acceptedBatch? (batch, .accepted)).toList := by
  rw [entry, Register.acceptedBatch?]
  split
  · rfl
  · rfl

/-- The batches that an occasion adds to the books are those it accepts. -/
theorem Meeting.accepted_eq_routed (meeting : Meeting warehouse occasion note next) :
    note.accepted = note.books.routed := by
  cases meeting with
  | event noRoute _ => exact (routed_entry_of_noRoute warehouse noRoute).symm
  | accepted _ =>
      refine Eq.trans ?_ (routed_entry_route warehouse _).symm
      rw [Register.accepted, callNote, List.filterMap_cons]
      split
      · next none => rw [none]; rfl
      · next some => rw [some]; rfl
  | returned _ _ => rfl

/-- The batches in the books are those accepted. -/
theorem accepted_eq_routed
    {first : Warehouse}
    (followed : first.follow? occasions = some (register, last)) :
    register.accepted = register.books.routed := by
  refine follow?_induction
    (fun register _ => register.accepted = register.books.routed) ?_ rfl followed
  intro occasion _ register warehouse note next agreed meeting
  rw [Register.accepted, Register.calls_append, List.filterMap_append, Register.books_append,
    Books.routed_append, ← agreed, ← meeting.accepted_eq_routed]
  rfl

/-! ### Cancellation -/

theorem pool_of_drain?
    {now : Instant}
    (drained : warehouse.drain? now = some next) :
    next.pool = warehouse.pool := by
  cases drain_of_drain? drained <;> rfl

theorem pool_of_settle?
    {now : Instant}
    (settled : warehouse.settle? now = some next) :
    next.pool = warehouse.pool := by
  cases settle_of_settle? settled <;> rfl

theorem cancelled_of_work
    {pool later : Pool}
    {index : Nat}
    {now : Instant}
    {outcomes : List Outcome}
    (work : Pool.Work pool index now outcomes later) :
    later.cancelled = pool.cancelled := by
  cases work <;> rfl

theorem cancelled_of_route?
    {pool later : Pool}
    {batch : Batch}
    (routed : pool.route? batch = some later) :
    later.cancelled = pool.cancelled := by
  cases Pool.route_of_route? routed <;> rfl

/-- Only a cancellation cancels the pool. -/
theorem cancelled_of_happen?
    {event : Event}
    (noCancel : event ≠ .cancel)
    (happened : warehouse.happen? event = some next) :
    next.pool.cancelled = warehouse.pool.cancelled := by
  cases event with
  | cancel => exact absurd rfl noCancel
  | act now action =>
      cases action with
      | start lane => exact cancelled_of_work (work_of_start? happened).1
      | finish lane => exact cancelled_of_work (work_of_finish? happened).1
      | abandon lane =>
          obtain ⟨pool, abandoned, rfl⟩ := Option.map_eq_some_iff.mp happened
          exact cancelled_of_work (Pool.work_of_abandon? abandoned now)
      | drain => rw [pool_of_drain? happened]
      | settle => rw [pool_of_settle? happened]
  | route batch =>
      obtain ⟨-, pool, routed, rfl⟩ := happen?_route_eq_some_iff.mp happened
      exact cancelled_of_route? routed
  | shutdown leftover =>
      obtain ⟨-, rfl⟩ := happen?_shutdown_eq_some_iff.mp happened
      rfl
  | touchStore _ _ | delayStore _ _ | crashStore _ _ => exact Option.some.inj happened ▸ rfl

/-- A pool that has been cancelled in a run was cancelled on one of its occasions. -/
theorem cancel_mem_of_follow?
    {first : Warehouse}
    (running : first.pool.cancelled = false)
    (followed : first.follow? occasions = some (register, last))
    (cancelled : last.pool.cancelled = true) :
    .event .cancel ∈ occasions := by
  by_contra noCancel
  have kept : last.pool.cancelled = false := by
    refine follow?_induction
      (fun _ warehouse => warehouse.pool.cancelled = false) ?_ running followed
    intro occasion present register warehouse note next running meeting
    cases meeting with
    | event noRoute happened =>
        rw [← running]
        exact cancelled_of_happen? (fun same => noCancel (same ▸ present)) happened
    | accepted happened =>
        rw [← running]
        exact cancelled_of_happen? (fun same : Event.route _ = .cancel => nomatch same) happened
    | returned _ _ => exact running
  rw [kept] at cancelled
  cases cancelled

end Warehouse
end FuzzIntake
