import FuzzIntake.Lane.Warehouse
import FuzzIntake.Proofs.Lane.Work

/-!
# The books of a warehouse

A run of a warehouse is a list of events, and its books say which batches were routed,
how batches ended and what was left over for the last batch.  The books balance at
every moment: what was routed to a lane is what came to an end in it and what it holds,
in the order of routing.
-/

namespace FuzzIntake

/-- What was routed in a warehouse and what came of it. -/
@[ext]
structure Books where
  /-- The batches taken, in the order of routing. -/
  routed : List Batch
  /-- The batches that came to an end, in the order of their ends. -/
  outcomes : List Outcome
  /-- The operations left over for the last batch. -/
  remainder : List Operation

namespace Books

/-- Books without entries. -/
def empty : Books :=
  ⟨[], [], []⟩

instance : Append Books where
  append earlier later :=
    ⟨earlier.routed ++ later.routed, earlier.outcomes ++ later.outcomes,
      earlier.remainder ++ later.remainder⟩

@[simp] theorem routed_append (earlier later : Books) :
    (earlier ++ later).routed = earlier.routed ++ later.routed := rfl

@[simp] theorem outcomes_append (earlier later : Books) :
    (earlier ++ later).outcomes = earlier.outcomes ++ later.outcomes := rfl

@[simp] theorem remainder_append (earlier later : Books) :
    (earlier ++ later).remainder = earlier.remainder ++ later.remainder := rfl

theorem append_assoc (first second third : Books) :
    first ++ second ++ third = first ++ (second ++ third) := by
  ext1
  · exact List.append_assoc _ _ _
  · exact List.append_assoc _ _ _
  · exact List.append_assoc _ _ _

@[simp] theorem append_empty (books : Books) : books ++ empty = books := by
  ext1
  · exact List.append_nil _
  · exact List.append_nil _
  · exact List.append_nil _

@[simp] theorem empty_append (books : Books) : empty ++ books = books := rfl

/-- The batches routed to one of the workers. -/
def routedTo (books : Books) (workers worker : Nat) : List Batch :=
  books.routed.filter fun batch => Routing.index batch.laneKey workers == worker

/-- How the batches of a worker ended. -/
def outcomesOf (books : Books) (worker : Nat) : List Outcome :=
  books.outcomes.filter fun outcome => outcome.worker == worker

/-- The batches written. -/
def committed (books : Books) : List Batch :=
  (books.outcomes.filter Outcome.isCommitted).map Outcome.batch

/-- The dead letters pushed, those pushed out again included. -/
def letters (books : Books) : List DeadLetter :=
  books.outcomes.filterMap Outcome.letter?

@[simp] theorem letters_append (earlier later : Books) :
    (earlier ++ later).letters = earlier.letters ++ later.letters :=
  List.filterMap_append

end Books

namespace Warehouse

/-- What can happen to a warehouse. -/
inductive Event
  /-- Something happens by itself. -/
  | act (now : Instant) (action : Action)
  /-- A batch is routed. -/
  | route (batch : Batch)
  /-- No batch is tried again. -/
  | cancel
  /-- No more batches are taken. -/
  | shutdown (leftover : List Operation)
  /-- A store is changed from outside. -/
  | touchStore (worker : Nat) (change : LocalStore → LocalStore)
  /-- A store is told how long to take. -/
  | delayStore (worker : Nat) (delay : Span)
  /-- A store is told to crash. -/
  | crashStore (worker : Nat) (count : Nat)

/-- A store that is told to crash. -/
def Event.IsCrash : Event → Prop
  | .crashStore _ _ => True
  | _ => False

/-- The warehouse after an event, if the event is possible. -/
def happen? (warehouse : Warehouse) : Event → Option Warehouse
  | .act now action => warehouse.act? now action
  | .route batch =>
      match warehouse.closing with
      | .opened => warehouse.route? batch
      | _ => none
  | .cancel => some warehouse.cancel
  | .shutdown leftover =>
      match warehouse.closing with
      | .opened => some (warehouse.shutdown leftover)
      | _ => none
  | .touchStore worker change =>
      some (warehouse.changeStore worker fun store => { store with store := change store.store })
  | .delayStore worker delay =>
      some (warehouse.changeStore worker fun store => { store with delay := delay })
  | .crashStore worker count =>
      some (warehouse.changeStore worker fun store => { store with crashes := count })

/-- How batches end in an action. -/
def outcomes (warehouse : Warehouse) (now : Instant) : Action → List Outcome
  | .start lane =>
      match warehouse.store? lane with
      | some store => if 0 < store.crashes then warehouse.pool.losses lane now else []
      | none => []
  | .finish lane =>
      match warehouse.store? lane, warehouse.pool.answering? lane now with
      | some store, some (batch, _) =>
          warehouse.pool.answers lane now (batch.writeTo lane store).1
      | _, _ => []
  | .abandon lane => warehouse.pool.abandonments lane
  | _ => []

/-- What an event adds to the books. -/
def entry (warehouse : Warehouse) : Event → Books
  | .act now action => ⟨[], warehouse.outcomes now action, []⟩
  | .route batch =>
      if batch.isEmpty then .empty else ⟨[batch], warehouse.pool.refusals batch, []⟩
  | .shutdown leftover => ⟨[], [], leftover⟩
  | _ => .empty

/-- Only the end of taking batches leaves operations over. -/
theorem remainder_entry
    (warehouse : Warehouse)
    {event : Event}
    (noShutdown : ∀ leftover, event ≠ .shutdown leftover) :
    (warehouse.entry event).remainder = [] := by
  cases event with
  | route batch =>
      rw [entry]
      split
      · rfl
      · rfl
  | shutdown leftover => exact absurd rfl (noShutdown leftover)
  | _ => rfl

/-- Whether a warehouse has been closed, or has crashed while it was closed. -/
def isOver (warehouse : Warehouse) : Bool :=
  match warehouse.closing with
  | .closed _ => true
  | .crashed => true
  | _ => false

/-- The warehouse after some events, with the books kept meanwhile, if they are possible. -/
def run? (warehouse : Warehouse) : List Event → Option (Books × Warehouse)
  | [] => some (.empty, warehouse)
  | event :: rest =>
      (warehouse.happen? event).bind fun next =>
        (next.run? rest).map fun (books, last) => (warehouse.entry event ++ books, last)

/-- What one event keeps, with the entry it makes, a whole run keeps. -/
theorem run?_induction
    (holds : Books → Warehouse → Prop)
    {events : List Event}
    {first last : Warehouse}
    {earlier later : Books}
    (step : ∀ event ∈ events, ∀ {books warehouse next}, holds books warehouse →
      warehouse.happen? event = some next → holds (books ++ warehouse.entry event) next)
    (start : holds earlier first)
    (ran : first.run? events = some (later, last)) :
    holds (earlier ++ later) last := by
  induction events generalizing first earlier later with
  | nil =>
      obtain ⟨rfl, rfl⟩ := Prod.mk.inj (Option.some.inj ran)
      rwa [Books.append_empty]
  | cons event rest inductionHypothesis =>
      obtain ⟨next, happened, remains⟩ := Option.bind_eq_some_iff.mp ran
      obtain ⟨⟨after, reached⟩, ranOn, same⟩ := Option.map_eq_some_iff.mp remains
      obtain ⟨rfl, rfl⟩ := Prod.mk.inj same
      rw [← Books.append_assoc]
      exact inductionHypothesis
        (fun other present => step other (List.mem_cons_of_mem event present))
        (step event List.mem_cons_self start happened) ranOn

/-- A run goes on with one more event. -/
theorem run?_append_singleton
    {warehouse next last : Warehouse}
    {orders : List Event}
    {order : Event}
    {books : Books}
    (ran : warehouse.run? orders = some (books, next))
    (happened : next.happen? order = some last) :
    warehouse.run? (orders ++ [order]) = some (books ++ next.entry order, last) := by
  induction orders generalizing warehouse books with
  | nil =>
      obtain ⟨rfl, rfl⟩ := Prod.mk.inj (Option.some.inj ran)
      rw [List.nil_append, run?, happened, Books.empty_append]
      exact congrArg (fun books => some (books, last)) (Books.append_empty _)
  | cons first rest inductionHypothesis =>
      obtain ⟨second, begun, remains⟩ := Option.bind_eq_some_iff.mp ran
      obtain ⟨⟨later, reached⟩, ranOn, same⟩ := Option.map_eq_some_iff.mp remains
      obtain ⟨rfl, rfl⟩ := Prod.mk.inj same
      rw [List.cons_append, run?, begun, Option.bind_some, inductionHypothesis ranOn,
        Option.map_some, Books.append_assoc]

/-! ## What the books say at every moment -/

/-- How far the closing of a warehouse has come with what was left over. -/
def IsClosing (warehouse : Warehouse) (remainder : List Operation) : Prop :=
  match warehouse.closing with
  | .opened => remainder = []
  | .awaiting leftover => remainder = leftover
  | .draining leftover _ => remainder = leftover ∧ warehouse.pool.isQuiet = true
  | .closed report =>
      warehouse.pool.isQuiet = true ∧
        (report.drained = remainder.length ∧ report.dropped = 0 ∨
          report.drained = 0 ∧ report.dropped = remainder.length) ∧
        report.deadLetters = warehouse.pool.deadLetters.letters.length
  | .crashed => warehouse.pool.isQuiet = true

/-- Books that say where every batch is. -/
structure IsBalanced (workers capacity : Nat) (books : Books) (warehouse : Warehouse) :
    Prop where
  length_lanes : warehouse.pool.lanes.length = workers
  tidy : ∀ lane ∈ warehouse.pool.lanes, lane.phase = .dead → lane.buffer = []
  order : ∀ index lane, warehouse.pool.lanes[index]? = some lane →
    books.routedTo workers index =
      (books.outcomesOf index).map Outcome.batch ++ lane.held
  within : ∀ outcome ∈ books.outcomes, outcome.worker < workers
  filled : ∀ batch ∈ books.routed, batch.isEmpty = false
  committed : warehouse.pool.tally.committed = books.outcomes.countP Outcome.isCommitted
  deadLettered : warehouse.pool.tally.deadLettered = books.letters.length
  deadLetters : warehouse.pool.deadLetters =
    books.letters.foldl DeadLetters.push (DeadLetters.new capacity)
  closing : warehouse.IsClosing books.remainder

/-- The books of a new warehouse balance. -/
theorem isBalanced_new
    (workers : Nat)
    (shared : Bool)
    (retry : RetrySchedule)
    (capacity : Nat) :
    (new workers shared retry capacity).IsBalanced workers capacity .empty := by
  have idle : ∀ lane ∈ (new workers shared retry capacity).pool.lanes, lane = Lane.empty :=
    fun lane present => List.eq_of_mem_replicate present
  constructor
  · exact List.length_replicate
  · intro lane present dead
    rw [idle lane present]
    rfl
  · intro index lane found
    rw [idle lane (List.mem_of_getElem? found)]
    rfl
  · simp [Books.empty]
  · simp [Books.empty]
  · rfl
  · rfl
  · rfl
  · rfl

end Warehouse
end FuzzIntake
