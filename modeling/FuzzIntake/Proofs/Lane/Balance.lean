import FuzzIntake.Proofs.Data.List
import FuzzIntake.Proofs.Lane.Events

/-!
# The books always balance

Every event keeps the books of a warehouse in balance: a change of one lane by what all
such changes have in common, and the closing of the warehouse since nothing more comes
out of quiet lanes.
-/

namespace FuzzIntake

namespace Pool

/-- A lane that does something is not at rest. -/
theorem Work.not_isQuiet
    {pool next : Pool}
    {index : Nat}
    {now : Instant}
    {outcomes : List Outcome}
    (work : Work pool index now outcomes next) :
    pool.isQuiet = false := by
  have restless : ∃ lane ∈ pool.lanes, isResting lane = false := by
    cases work with
    | begin due found => exact ⟨_, List.mem_of_getElem? found, rfl⟩
    | again due found _ _ => exact ⟨_, List.mem_of_getElem? found, rfl⟩
    | commit found _ => exact ⟨_, List.mem_of_getElem? found, rfl⟩
    | retry error found _ _ _ => exact ⟨_, List.mem_of_getElem? found, rfl⟩
    | giveUp error found _ _ => exact ⟨_, List.mem_of_getElem? found, rfl⟩
    | abandon found _ => exact ⟨_, List.mem_of_getElem? found, rfl⟩
    | crash found starting =>
        refine ⟨_, List.mem_of_getElem? found, ?_⟩
        rw [next?, found] at starting
        rename_i lane
        obtain ⟨buffer, phase⟩ := lane
        cases phase with
        | idle =>
            cases buffer with
            | nil => simp at starting
            | cons oldest rest => rfl
        | dead => simp at starting
        | applying batch attempt due => rfl
        | pausing batch attempt error resumeAt => rfl
  obtain ⟨lane, present, busy⟩ := restless
  rw [isQuiet, List.all_eq_false]
  exact ⟨lane, present, by simp [busy]⟩

/-- A lane at rest holds nothing. -/
theorem held_eq_nil_of_isQuiet
    {pool : Pool}
    {index : Nat}
    {lane : Lane}
    (tidy : ∀ lane ∈ pool.lanes, lane.phase = .dead → lane.buffer = [])
    (quiet : pool.isQuiet = true)
    (found : pool.lanes[index]? = some lane) :
    lane.held = [] := by
  have present := List.mem_of_getElem? found
  have resting : isResting lane = true := List.all_eq_true.mp quiet lane present
  obtain ⟨buffer, phase⟩ := lane
  cases phase with
  | idle => simpa [isResting, Lane.held] using resting
  | dead => exact tidy _ present rfl
  | applying batch attempt due => simp [isResting] at resting
  | pausing batch attempt error resumeAt => simp [isResting] at resting

end Pool

namespace Warehouse

variable {workers capacity : Nat} {books : Books} {warehouse next : Warehouse}

/-! ## One change of a lane -/

/-- A change of one lane keeps the order of every lane. -/
theorem IsBalanced.order_shift
    {index : Nat}
    {given : List Batch}
    {outcomes : List Outcome}
    (balanced : warehouse.IsBalanced workers capacity books)
    (shift : Pool.Shift warehouse.pool index given outcomes next.pool)
    (routed : ∀ batch ∈ given, warehouse.pool.laneOf batch = index)
    {place : Nat}
    {lane : Lane}
    (placed : next.pool.lanes[place]? = some lane) :
    (books ++ ⟨given, outcomes, []⟩).routedTo workers place =
      ((books ++ ⟨given, outcomes, []⟩).outcomesOf place).map Outcome.batch ++ lane.held := by
  obtain ⟨before, later, found, set, order, -⟩ := shift.order
  have inside : index < warehouse.pool.lanes.length := (List.getElem?_eq_some_iff.mp found).1
  have lanes : ∀ batch ∈ given, Routing.index batch.laneKey workers = index := by
    rw [← balanced.length_lanes]
    exact routed
  have earlier := fun lane => balanced.order place lane
  simp only [Books.routedTo, Books.outcomesOf] at earlier
  simp only [Books.routedTo, Books.outcomesOf, Books.routed_append, Books.outcomes_append,
    List.filter_append, List.filter_place lanes, List.filter_place shift.own]
  rw [set] at placed
  by_cases same : index = place
  · subst same
    rw [List.getElem?_set_self inside] at placed
    obtain rfl := Option.some.inj placed
    rw [if_pos rfl, if_pos rfl, earlier before found, List.append_assoc, order, List.map_append,
      List.append_assoc]
  · rw [List.getElem?_set_ne same] at placed
    rw [if_neg same, if_neg same, List.append_nil, List.append_nil]
    exact earlier lane placed

/-- A change of one lane keeps the books in balance. -/
theorem IsBalanced.shift
    {index : Nat}
    {given : List Batch}
    {outcomes : List Outcome}
    (balanced : warehouse.IsBalanced workers capacity books)
    (shift : Pool.Shift warehouse.pool index given outcomes next.pool)
    (routed : ∀ batch ∈ given, batch.isEmpty = false ∧ warehouse.pool.laneOf batch = index)
    (closing : next.IsClosing books.remainder) :
    next.IsBalanced workers capacity (books ++ ⟨given, outcomes, []⟩) := by
  obtain ⟨lane, later, found, set, -, tidy⟩ := shift.order
  have inside : index < warehouse.pool.lanes.length := (List.getElem?_eq_some_iff.mp found).1
  constructor
  · rw [set, List.length_set, balanced.length_lanes]
  · intro other present
    rw [set] at present
    rcases List.mem_or_eq_of_mem_set present with old | rfl
    · exact balanced.tidy other old
    · exact tidy
  · intro place other placed
    exact balanced.order_shift shift (fun batch present => (routed batch present).2) placed
  · intro outcome present
    rcases List.mem_append.mp present with old | new
    · exact balanced.within outcome old
    · rw [shift.own outcome new, ← balanced.length_lanes]
      exact inside
  · intro batch present
    rcases List.mem_append.mp present with old | new
    · exact balanced.filled batch old
    · exact (routed batch new).1
  · rw [shift.committed, balanced.committed, Books.outcomes_append, List.countP_append]
  · rw [shift.deadLettered, balanced.deadLettered, Books.letters_append, List.length_append]
    rfl
  · rw [shift.deadLetters, balanced.deadLetters, Books.letters_append, List.foldl_append]
    rfl
  · rwa [Books.remainder_append, List.append_nil]

/-- Books stay in balance when no lane changes. -/
theorem IsBalanced.keep
    {remainder : List Operation}
    (balanced : warehouse.IsBalanced workers capacity books)
    (sameLanes : next.pool.lanes = warehouse.pool.lanes)
    (sameTally : next.pool.tally = warehouse.pool.tally)
    (sameLetters : next.pool.deadLetters = warehouse.pool.deadLetters)
    (closing : next.IsClosing (books.remainder ++ remainder)) :
    next.IsBalanced workers capacity (books ++ ⟨[], [], remainder⟩) := by
  have routed : (books ++ ⟨[], [], remainder⟩).routed = books.routed := List.append_nil _
  have outcomes : (books ++ ⟨[], [], remainder⟩).outcomes = books.outcomes := List.append_nil _
  constructor
  · rw [sameLanes, balanced.length_lanes]
  · rw [sameLanes]
    exact balanced.tidy
  · intro index lane found
    rw [sameLanes] at found
    simp only [Books.routedTo, Books.outcomesOf, routed, outcomes]
    exact balanced.order index lane found
  · rw [outcomes]
    exact balanced.within
  · rw [routed]
    exact balanced.filled
  · rw [sameTally, outcomes]
    exact balanced.committed
  · rw [sameTally, Books.letters, outcomes]
    exact balanced.deadLettered
  · rw [sameLetters, Books.letters, outcomes]
    exact balanced.deadLetters
  · exact closing

/-- Books stay in balance when only what is around the pool changes. -/
theorem IsBalanced.keepPool
    {remainder : List Operation}
    (balanced : warehouse.IsBalanced workers capacity books)
    (samePool : next.pool = warehouse.pool)
    (closing : next.IsClosing (books.remainder ++ remainder)) :
    next.IsBalanced workers capacity (books ++ ⟨[], [], remainder⟩) :=
  balanced.keep (by rw [samePool]) (by rw [samePool]) (by rw [samePool]) closing

/-! ## One event -/

/-- The start of an attempt is work of the lane, and its crash loses what the lane holds. -/
theorem work_of_start?
    {now : Instant}
    {lane : Nat}
    (started : warehouse.start? now lane = some next) :
    Pool.Work warehouse.pool lane now (warehouse.outcomes now (.start lane)) next.pool ∧
      next.closing = warehouse.closing := by
  cases start_of_start? started with
  | begin found healthy begun =>
      refine ⟨?_, rfl⟩
      simp only [outcomes, found, healthy, Nat.lt_irrefl, if_false]
      exact Pool.work_of_start? begun
  | crash found crashes crashed =>
      refine ⟨?_, rfl⟩
      simp only [outcomes, found, crashes, if_true]
      exact Pool.work_of_crash? crashed

/-- The answer of a store is work of its lane. -/
theorem work_of_finish?
    {now : Instant}
    {lane : Nat}
    (finished : warehouse.finish? now lane = some next) :
    Pool.Work warehouse.pool lane now (warehouse.outcomes now (.finish lane)) next.pool ∧
      next.closing = warehouse.closing := by
  obtain ⟨store, batch, attempt, pool, found, answering, done, rfl⟩ := exists_of_finish? finished
  simp only [outcomes, found, answering]
  exact ⟨Pool.work_of_finish? done, rfl⟩

/-- Handing over what is left over, and writing it, closes the warehouse as it should. -/
theorem isClosing_of_drain?
    {now : Instant}
    {remainder : List Operation}
    (drained : warehouse.drain? now = some next)
    (closing : warehouse.IsClosing remainder) :
    next.pool = warehouse.pool ∧ next.IsClosing remainder := by
  cases drain_of_drain? drained with
  | nothing awaiting quiet =>
      obtain rfl : remainder = [] := by simpa only [IsClosing, awaiting] using closing
      exact ⟨rfl, quiet, .inl ⟨rfl, rfl⟩, rfl⟩
  | @drop leftover awaiting quiet _ _ =>
      obtain rfl : remainder = leftover := by simpa only [IsClosing, awaiting] using closing
      exact ⟨rfl, quiet, .inr ⟨rfl, rfl⟩, rfl⟩
  | crash _ quiet _ _ _ => exact ⟨rfl, quiet⟩
  | @hand leftover _ awaiting quiet _ _ _ =>
      obtain rfl : remainder = leftover := by simpa only [IsClosing, awaiting] using closing
      exact ⟨rfl, rfl, quiet⟩

/-- The answer to the last batch closes the warehouse. -/
theorem isClosing_of_settle?
    {now : Instant}
    {remainder : List Operation}
    (settled : warehouse.settle? now = some next)
    (closing : warehouse.IsClosing remainder) :
    next.pool = warehouse.pool ∧ next.IsClosing remainder := by
  cases settle_of_settle? settled with
  | @write leftover _ _ _ _ draining _ _ _ =>
      obtain ⟨rfl, quiet⟩ : remainder = leftover ∧ warehouse.pool.isQuiet = true := by
        simpa only [IsClosing, draining] using closing
      exact ⟨rfl, quiet, .inl ⟨rfl, rfl⟩, rfl⟩
  | @drop leftover _ _ _ _ draining _ _ _ =>
      obtain ⟨rfl, quiet⟩ : remainder = leftover ∧ warehouse.pool.isQuiet = true := by
        simpa only [IsClosing, draining] using closing
      exact ⟨rfl, quiet, .inr ⟨rfl, rfl⟩, rfl⟩

/-- A change of busy lanes leaves a warehouse as far closed as it is, since from the last batch on
the lanes are quiet. -/
theorem isClosing_of_busy
    {remainder : List Operation}
    (busy : warehouse.pool.isQuiet = false)
    (same : next.closing = warehouse.closing)
    (closing : warehouse.IsClosing remainder) :
    next.IsClosing remainder := by
  simp only [IsClosing, same] at closing ⊢
  split at closing
  · exact closing
  · exact closing
  · simp [busy] at closing
  · simp [busy] at closing
  · simp [busy] at closing

/-- The lanes of a warehouse that is over are quiet. -/
theorem isQuiet_of_isOver
    {remainder : List Operation}
    (closing : warehouse.IsClosing remainder)
    (finished : warehouse.isOver = true) :
    warehouse.pool.isQuiet = true := by
  unfold isOver at finished
  unfold IsClosing at closing
  cases closed : warehouse.closing with
  | closed report =>
      rw [closed] at closing
      exact closing.1
  | crashed =>
      rw [closed] at closing
      exact closing
  | opened | awaiting _ | draining _ _ => simp [closed] at finished

/-- Work of a lane leaves a warehouse as far closed as it is, since quiet lanes do nothing. -/
theorem isClosing_of_work
    {index : Nat}
    {now : Instant}
    {ended : List Outcome}
    {remainder : List Operation}
    (work : Pool.Work warehouse.pool index now ended next.pool)
    (same : next.closing = warehouse.closing)
    (closing : warehouse.IsClosing remainder) :
    next.IsClosing remainder :=
  isClosing_of_busy work.not_isQuiet same closing

/-- An action keeps the books in balance. -/
theorem IsBalanced.act
    {now : Instant}
    {action : Action}
    (balanced : warehouse.IsBalanced workers capacity books)
    (acted : warehouse.act? now action = some next) :
    next.IsBalanced workers capacity (books ++ ⟨[], warehouse.outcomes now action, []⟩) := by
  have work : ∀ index, Pool.Work warehouse.pool index now (warehouse.outcomes now action)
        next.pool ∧ next.closing = warehouse.closing →
      next.IsBalanced workers capacity (books ++ ⟨[], warehouse.outcomes now action, []⟩) :=
    fun index ⟨work, same⟩ =>
      balanced.shift work.shift (by simp) (isClosing_of_work work same balanced.closing)
  have around : next.pool = warehouse.pool ∧ next.IsClosing books.remainder →
      next.IsBalanced workers capacity (books ++ ⟨[], [], []⟩) :=
    fun ⟨samePool, closing⟩ => balanced.keepPool samePool (by rwa [List.append_nil])
  cases action with
  | start lane => exact work lane (work_of_start? acted)
  | finish lane => exact work lane (work_of_finish? acted)
  | abandon lane =>
      obtain ⟨pool, abandoned, rfl⟩ := Option.map_eq_some_iff.mp acted
      exact work lane ⟨Pool.work_of_abandon? abandoned now, rfl⟩
  | drain => exact around (isClosing_of_drain? acted balanced.closing)
  | settle => exact around (isClosing_of_settle? acted balanced.closing)

/-- A change of a store keeps the books in balance. -/
theorem IsBalanced.changeStore
    (balanced : warehouse.IsBalanced workers capacity books)
    (worker : Nat)
    (change : SwitchedStore → SwitchedStore) :
    (warehouse.changeStore worker change).IsBalanced workers capacity (books ++ .empty) := by
  have samePool : (warehouse.changeStore worker change).pool = warehouse.pool := rfl
  refine balanced.keepPool samePool ?_
  rw [List.append_nil]
  exact balanced.closing

/-- Books without lanes stay in balance when a batch is routed nowhere. -/
theorem IsBalanced.routeNowhere
    {batch : Batch}
    (balanced : warehouse.IsBalanced workers capacity books)
    (noLanes : warehouse.pool.lanes = [])
    (filled : batch.isEmpty = false) :
    warehouse.IsBalanced workers capacity (books ++ ⟨[batch], [], []⟩) := by
  have outcomes : (books ++ ⟨[batch], [], []⟩).outcomes = books.outcomes := List.append_nil _
  have remainder : (books ++ ⟨[batch], [], []⟩).remainder = books.remainder := List.append_nil _
  constructor
  · exact balanced.length_lanes
  · exact balanced.tidy
  · intro index lane found
    rw [noLanes] at found
    cases found
  · rw [outcomes]
    exact balanced.within
  · intro other present
    rcases List.mem_append.mp present with old | new
    · exact balanced.filled other old
    · rwa [List.mem_singleton.mp new]
  · rw [outcomes]
    exact balanced.committed
  · rw [Books.letters, outcomes]
    exact balanced.deadLettered
  · rw [Books.letters, outcomes]
    exact balanced.deadLetters
  · rw [remainder]
    exact balanced.closing

/-- A batch that is routed keeps the books in balance. -/
theorem IsBalanced.route
    {batch : Batch}
    {pool : Pool}
    (balanced : warehouse.IsBalanced workers capacity books)
    (routed : warehouse.pool.route? batch = some pool)
    (filled : batch.isEmpty = false)
    (closing : IsClosing { warehouse with pool := pool } books.remainder) :
    IsBalanced workers capacity (books ++ ⟨[batch], warehouse.pool.refusals batch, []⟩)
      { warehouse with pool := pool } := by
  rcases Nat.eq_zero_or_pos warehouse.pool.lanes.length with unstaffed | staffed
  · have noLanes := List.length_eq_zero_iff.mp unstaffed
    obtain ⟨rfl, unrefused⟩ := Pool.eq_of_route?_of_noLanes routed noLanes
    rw [unrefused]
    exact balanced.routeNowhere noLanes filled
  · refine balanced.shift (Pool.shift_of_route? routed filled staffed balanced.tidy)
      (fun other present => ?_) closing
    rw [List.mem_singleton.mp present]
    exact ⟨filled, rfl⟩

/-- Every event keeps the books in balance. -/
theorem IsBalanced.happen
    {event : Event}
    (balanced : warehouse.IsBalanced workers capacity books)
    (happened : warehouse.happen? event = some next) :
    next.IsBalanced workers capacity (books ++ warehouse.entry event) := by
  cases event with
  | act now action => exact balanced.act happened
  | route batch =>
      obtain ⟨opened, pool, routed, rfl⟩ := happen?_route_eq_some_iff.mp happened
      have closing : IsClosing { warehouse with pool := pool } books.remainder := by
        have before := balanced.closing
        simp only [IsClosing, opened] at before ⊢
        exact before
      rw [entry]
      split
      · next empty =>
          have samePool := Pool.eq_of_route?_of_isEmpty routed empty
          exact balanced.keepPool samePool (by rwa [List.append_nil])
      · next filled => exact balanced.route routed (by simpa using filled) closing
  | cancel =>
      obtain rfl := Option.some.inj happened
      have sameLanes : warehouse.cancel.pool.lanes = warehouse.pool.lanes := rfl
      refine balanced.keep sameLanes rfl rfl ?_
      rw [List.append_nil]
      exact balanced.closing
  | shutdown leftover =>
      obtain ⟨opened, rfl⟩ := happen?_shutdown_eq_some_iff.mp happened
      have none : books.remainder = [] := by
        simpa only [IsClosing, opened] using balanced.closing
      have samePool : (warehouse.shutdown leftover).pool = warehouse.pool := rfl
      refine balanced.keepPool samePool ?_
      rw [none]
      rfl
  | touchStore worker change =>
      obtain rfl := Option.some.inj happened
      exact balanced.changeStore worker _
  | delayStore worker delay =>
      obtain rfl := Option.some.inj happened
      exact balanced.changeStore worker _
  | crashStore worker count =>
      obtain rfl := Option.some.inj happened
      exact balanced.changeStore worker _

/-- A warehouse that is open or over stays so, unless it is told to take no more batches. -/
theorem closing_of_happen?
    {event : Event}
    (settled : warehouse.closing = .opened ∨ warehouse.isOver = true)
    (noShutdown : warehouse.closing = .opened → ∀ leftover, event ≠ .shutdown leftover)
    (happened : warehouse.happen? event = some next) :
    next.closing = warehouse.closing := by
  cases event with
  | act now action =>
      cases action with
      | start lane => exact (work_of_start? happened).2
      | finish lane => exact (work_of_finish? happened).2
      | abandon lane =>
          obtain ⟨pool, -, rfl⟩ := Option.map_eq_some_iff.mp happened
          rfl
      | drain =>
          cases drain_of_drain? happened with
          | nothing awaiting _ | drop awaiting _ _ _ | crash awaiting _ _ _ _
          | hand awaiting _ _ _ _ => simp [isOver, awaiting] at settled
      | settle =>
          cases settle_of_settle? happened with
          | write draining _ _ _ | drop draining _ _ _ => simp [isOver, draining] at settled
  | route batch =>
      obtain ⟨-, pool, -, rfl⟩ := happen?_route_eq_some_iff.mp happened
      rfl
  | shutdown leftover =>
      obtain ⟨opened, -⟩ := happen?_shutdown_eq_some_iff.mp happened
      exact absurd rfl (noShutdown opened leftover)
  | cancel =>
      obtain rfl := Option.some.inj happened
      rfl
  | touchStore worker change =>
      obtain rfl := Option.some.inj happened
      rfl
  | delayStore worker delay =>
      obtain rfl := Option.some.inj happened
      rfl
  | crashStore worker count =>
      obtain rfl := Option.some.inj happened
      rfl

/-- The stores are at the places they were at. -/
theorem stores_of_happen?
    {event : Event}
    (happened : warehouse.happen? event = some next) :
    next.stores.length = warehouse.stores.length ∧ next.shared = warehouse.shared := by
  cases event with
  | act instant action =>
      cases action with
      | start worker =>
          cases start_of_start? happened with
          | begin _ _ _ => exact ⟨rfl, rfl⟩
          | crash _ _ _ => exact ⟨List.length_set, rfl⟩
      | finish worker =>
          obtain ⟨store, batch, number, pool, -, -, -, rfl⟩ := exists_of_finish? happened
          exact ⟨List.length_set, rfl⟩
      | abandon worker =>
          obtain ⟨pool, abandoned, rfl⟩ := Option.map_eq_some_iff.mp happened
          exact ⟨rfl, rfl⟩
      | drain =>
          cases drain_of_drain? happened with
          | nothing _ _ | drop _ _ _ _ => exact ⟨List.length_map _, rfl⟩
          | crash _ _ _ _ _ => exact ⟨List.length_set, rfl⟩
          | hand _ _ _ _ _ => exact ⟨rfl, rfl⟩
      | settle =>
          cases settle_of_settle? happened with
          | write _ _ _ _ | drop _ _ _ _ => exact ⟨(List.length_map _).trans List.length_set, rfl⟩
  | route batch =>
      obtain ⟨-, pool, -, rfl⟩ := happen?_route_eq_some_iff.mp happened
      exact ⟨rfl, rfl⟩
  | shutdown leftover =>
      obtain ⟨-, rfl⟩ := happen?_shutdown_eq_some_iff.mp happened
      exact ⟨rfl, rfl⟩
  | cancel => exact Option.some.inj happened ▸ ⟨rfl, rfl⟩
  | touchStore _ _ | delayStore _ _ | crashStore _ _ =>
      exact Option.some.inj happened ▸ ⟨List.length_modify _ _ _, rfl⟩

/-! ## Runs -/

/-- A run keeps the books in balance. -/
theorem IsBalanced.run
    {events : List Event}
    {later : Books}
    {last : Warehouse}
    (balanced : warehouse.IsBalanced workers capacity books)
    (ran : warehouse.run? events = some (later, last)) :
    last.IsBalanced workers capacity (books ++ later) :=
  run?_induction (IsBalanced workers capacity)
    (fun _ _ _ _ _ balanced happened => balanced.happen happened) balanced ran

end Warehouse
end FuzzIntake
