import FuzzIntake.Proofs.Lane.Room
import FuzzIntake.Proofs.Lane.Treatment

/-!
# Stores that crash under a lane

The store of a lane may crash as the lane starts an attempt, and while the lane waits for its
answer.  Either way the lane goes down with the batch it is writing and those in its buffer.  An
incident is anything that can happen to a pool with its callers, or a crash while a store writes.

`Course` lists what an incident does to one lane: the lane lives on and loses nothing, it goes down
with what it holds, or it is dead and refuses what is routed to it.
-/

namespace FuzzIntake

namespace Pool

/-- The store of a lane crashes while the lane waits for its answer. -/
def collapse? (pool : Pool) (index : Nat) : Option Pool :=
  match pool.lanes[index]? with
  | some ⟨_, .applying _ _ _⟩ => some (pool.setLane index ⟨[], .dead⟩)
  | _ => none

variable {pool : Pool} {now : Instant} {index : Nat} {news : List Warehouse.Record}
  {phase later : LanePhase}

theorem exists_of_collapse?
    {next : Pool}
    (collapsed : pool.collapse? index = some next) :
    ∃ buffer batch number due, pool.lanes[index]? = some ⟨buffer, .applying batch number due⟩ ∧
      pool.setLane index ⟨[], .dead⟩ = next := by
  rw [collapse?] at collapsed
  split at collapsed
  · next found => exact ⟨_, _, _, _, found, Option.some.inj collapsed⟩
  · cases collapsed

/-- A lane that makes a stride is alive before and after. -/
theorem Stride.alive (stride : Stride pool now index phase news later) :
    phase ≠ .dead ∧ later ≠ .dead := by
  cases stride <;> simp

/-- The batches that a lane ends in a stride are its own, and none of them is lost. -/
theorem Stride.outcomes
    (stride : Stride pool now index phase news later)
    {outcome : Outcome}
    (present : outcome ∈ news.filterMap Warehouse.Record.outcome?) :
    outcome.worker = index ∧ outcome.isLost = false := by
  cases stride with
  | begin _ _ | again _ _ _ | retry _ _ _ => simp [Warehouse.Record.outcome?] at present
  | commit _ | giveUp _ _ | abandon _ =>
      simp only [Warehouse.Record.outcome?, List.filterMap_cons, List.filterMap_nil,
        List.mem_singleton] at present
      rw [present]
      exact ⟨rfl, rfl⟩

/-- A dead lane gives up the batches that are routed to it. -/
theorem filter_refusals_of_dead
    {batch : Batch}
    (found : pool.phases[index]? = some .dead) :
    (pool.refusals batch).filter (fun outcome => outcome.worker == index) =
      if pool.laneOf batch = index then
        [⟨index, batch, .givenUp 0 "worker lane closed"⟩]
      else
        [] := by
  have own : ∀ outcome ∈ pool.refusals batch, outcome.worker = pool.laneOf batch := by
    intro outcome present
    rw [refusals] at present
    split at present
    · split at present
      · rw [List.mem_singleton.mp present]
      · cases present
    · cases present
  rw [List.filter_place own]
  split
  · next same =>
      rw [phases, List.getElem?_map] at found
      obtain ⟨⟨buffer, phase⟩, placed, rfl⟩ := Option.map_eq_some_iff.mp found
      rw [refusals, same, placed]
      rfl
  · rfl

end Pool

namespace Warehouse

/-- What can happen to a pool with its callers. -/
inductive Incident
  /-- Anything but a crash while a store writes. -/
  | meet (occasion : Occasion)
  /-- The store of a lane crashes while it writes. -/
  | collapse (worker : Nat)

/-- The warehouse after an incident, and what the incident adds to the register. -/
def suffer? (warehouse : Warehouse) : Incident → Option (Register × Warehouse)
  | .meet occasion => warehouse.meet? occasion
  | .collapse worker =>
      (warehouse.pool.collapse? worker).map fun pool =>
        (⟨⟨[], (warehouse.pool.heldBy worker).map fun batch => ⟨worker, batch, .lost⟩, []⟩,
          [], [], []⟩, { warehouse with pool := pool })

/-- The warehouse after some incidents, with the register kept meanwhile. -/
def endure? (warehouse : Warehouse) : List Incident → Option (Register × Warehouse)
  | [] => some (.empty, warehouse)
  | incident :: rest =>
      (warehouse.suffer? incident).bind fun (note, next) =>
        (next.endure? rest).map fun (later, last) => (note ++ later, last)

/-- The worker whose lane goes down in an incident, the batch it is writing and those in its
buffer. -/
def struck? (warehouse : Warehouse) : Incident → Option (Nat × Batch × List Batch)
  | .meet (.event (.act now (.start worker))) =>
      (warehouse.store? worker).bind fun store =>
        if 0 < store.crashes then
          (warehouse.pool.next? worker now).map fun (batch, _, lane) =>
            (worker, batch, lane.buffer)
        else
          none
  | .collapse worker =>
      match warehouse.pool.lanes[worker]? with
      | some ⟨buffer, .applying batch _ _⟩ => some (worker, batch, buffer)
      | _ => none
  | _ => none

/-- In a run the lane of a worker goes down with the batch it is writing and those in its buffer,
when the register holds what came earlier. -/
def GoesDown (first : Warehouse) (incidents : List Incident) (worker : Nat) (earlier : Register)
    (batch : Batch) (waiting : List Batch) : Prop :=
  ∃ before incident after here, incidents = before ++ incident :: after ∧
    first.endure? before = some (earlier, here) ∧
    here.struck? incident = some (worker, batch, waiting)

/-! ## Runs -/

variable {warehouse first next last : Warehouse} {incident : Incident}
  {incidents before after : List Incident} {register earlier note : Register}

/-- A run that begins with an incident. -/
theorem exists_suffer?_of_endure?
    (endured : first.endure? (incident :: after) = some (register, last)) :
    ∃ note next later, first.suffer? incident = some (note, next) ∧
      next.endure? after = some (later, last) ∧ register = note ++ later := by
  obtain ⟨⟨note, next⟩, suffered, remains⟩ := Option.bind_eq_some_iff.mp endured
  obtain ⟨⟨later, reached⟩, enduredOn, same⟩ := Option.map_eq_some_iff.mp remains
  obtain ⟨rfl, rfl⟩ := Prod.mk.inj same
  exact ⟨note, next, later, suffered, enduredOn, rfl⟩

/-- A run in two parts. -/
theorem split_of_endure?
    (endured : first.endure? (before ++ after) = some (register, last)) :
    ∃ earlier here later, first.endure? before = some (earlier, here) ∧
      here.endure? after = some (later, last) ∧ register = earlier ++ later := by
  induction before generalizing first register with
  | nil => exact ⟨_, _, _, rfl, endured, (Register.empty_append register).symm⟩
  | cons incident before inductionHypothesis =>
      obtain ⟨note, second, rest, suffered, enduredOn, rfl⟩ := exists_suffer?_of_endure? endured
      obtain ⟨earlier, here, later, through, onwards, rfl⟩ := inductionHypothesis enduredOn
      refine ⟨note ++ earlier, here, later, ?_, onwards, (Register.append_assoc _ _ _).symm⟩
      rw [endure?, suffered, Option.bind_some]
      simp only [through, Option.map_some]

/-- What one incident keeps, with what it adds to the register, a whole run keeps. -/
theorem endure?_induction
    (holds : Register → Warehouse → Prop)
    (step : ∀ {register warehouse incident note next}, holds register warehouse →
      suffer? warehouse incident = some (note, next) → holds (register ++ note) next)
    (start : holds earlier first)
    (endured : first.endure? incidents = some (register, last)) :
    holds (earlier ++ register) last := by
  induction incidents generalizing first earlier register with
  | nil =>
      obtain ⟨rfl, rfl⟩ := Prod.mk.inj (Option.some.inj endured)
      rwa [Register.append_empty]
  | cons incident rest inductionHypothesis =>
      obtain ⟨note, next, later, suffered, enduredOn, rfl⟩ := exists_suffer?_of_endure? endured
      rw [← Register.append_assoc]
      exact inductionHypothesis (step start suffered) enduredOn

/-! ## What an incident does to one lane -/

/-- What an incident does to the lane of a worker, with what it adds to the register and with the
crash of the lane, if it crashes. -/
inductive Course (workers worker : Nat) (pool : Pool) (note : Register) (next : Pool) :
    Option (Batch × List Batch) → Prop
  /-- The lane lives on, and loses nothing. -/
  | spared {phase later : LanePhase} :
      pool.phases[worker]? = some phase → phase ≠ .dead →
      next.phases[worker]? = some later → later ≠ .dead →
      (∀ outcome ∈ note.books.outcomesOf worker, outcome.isLost = false) →
      Course workers worker pool note next none
  /-- The lane goes down with the batch it is writing and with those in its buffer. -/
  | struck {lane : Lane} {batch : Batch} {waiting : List Batch} :
      pool.lanes[worker]? = some lane → lane.phase ≠ .dead → lane.held = batch :: waiting →
      waiting.length ≤ lane.buffer.length → next.phases[worker]? = some .dead →
      note.books.outcomesOf worker = (batch :: waiting).map (⟨worker, ·, .lost⟩) →
      note.accepted = [] →
      Course workers worker pool note next (some (batch, waiting))
  /-- The lane is dead, and the batches accepted for it are given up. -/
  | dead :
      pool.phases[worker]? = some .dead → next.phases[worker]? = some .dead →
      note.books.outcomesOf worker =
        (note.acceptedFor workers worker).map (⟨worker, ·, .givenUp 0 "worker lane closed"⟩) →
      Course workers worker pool note next none

/-- The crash of the lane of a worker in an incident. -/
def strike? (warehouse : Warehouse) (worker : Nat) (incident : Incident) :
    Option (Batch × List Batch) :=
  ((warehouse.struck? incident).filter fun struck => struck.1 == worker).map Prod.snd

variable {workers worker : Nat} {pool nextPool : Pool}

/-- A lane that is left alone lives on or is dead as before. -/
theorem course_of_same
    {phase : LanePhase}
    (found : pool.phases[worker]? = some phase)
    (same : nextPool.phases[worker]? = pool.phases[worker]?)
    (noneEnded : note.books.outcomesOf worker = [])
    (noneAccepted : note.acceptedFor workers worker = []) :
    Course workers worker pool note nextPool none := by
  by_cases dead : phase = .dead
  · subst dead
    exact .dead found (same.trans found) (by rw [noneEnded, noneAccepted]; rfl)
  · exact .spared found dead (same.trans found) dead (by simp [noneEnded])

/-- One lane makes a stride, with its outcomes. -/
theorem course_of_strides
    {now : Instant}
    {lane : Nat}
    {phase : LanePhase}
    {news : List Record}
    (strides : pool.Strides now lane news nextPool)
    (found : pool.phases[worker]? = some phase)
    (outcomes : note.books.outcomes = news.filterMap Record.outcome?)
    (noneAccepted : note.accepted = []) :
    Course workers worker pool note nextPool none := by
  obtain ⟨-, before, later, placed, set, stride⟩ := strides
  by_cases own : lane = worker
  · subst own
    obtain ⟨alive, still⟩ := stride.alive
    have inside := (List.getElem?_eq_some_iff.mp placed).1
    refine .spared placed alive (by rw [set, List.getElem?_set_self inside]) still ?_
    intro outcome present
    have ended := (List.mem_filter.mp present).1
    rw [outcomes] at ended
    exact (stride.outcomes ended).2
  · apply course_of_same found (by rw [set, List.getElem?_set_ne own])
    · refine List.filter_eq_nil_iff.mpr fun outcome present => ?_
      rw [outcomes] at present
      rw [(stride.outcomes present).1]
      simpa using own
    · rw [Register.acceptedFor, noneAccepted]
      rfl

/-- A lane goes down with what it holds. -/
theorem course_of_downfall
    {lane : Nat}
    {phase : LanePhase}
    {placed : Lane}
    {batch : Batch}
    {waiting : List Batch}
    (downfall : pool.lanes[lane]? = some placed)
    (alive : placed.phase ≠ .dead)
    (held : placed.held = batch :: waiting)
    (short : waiting.length ≤ placed.buffer.length)
    (down : nextPool = pool.setLane lane ⟨[], .dead⟩)
    (outcomes : note.books.outcomes = placed.held.map (⟨lane, ·, .lost⟩))
    (noneAccepted : note.accepted = [])
    (found : pool.phases[worker]? = some phase) :
    Course workers worker pool note nextPool
      (if lane = worker then some (batch, waiting) else none) := by
  have ended : note.books.outcomesOf worker =
      if lane = worker then placed.held.map (⟨lane, ·, .lost⟩) else [] := by
    rw [Books.outcomesOf, outcomes]
    apply List.filter_place
    intro outcome present
    obtain ⟨batch, -, rfl⟩ := List.mem_map.mp present
    rfl
  have set : nextPool.phases = pool.phases.set lane .dead := by
    rw [down, Pool.phases, Pool.setLane, List.map_set]
    rfl
  split
  · next same =>
      subst same
      rw [if_pos rfl, held] at ended
      refine .struck downfall alive held short ?_ ended noneAccepted
      rw [set, List.getElem?_set_self (List.getElem?_eq_some_iff.mp found).1]
  · next different =>
      rw [if_neg different] at ended
      apply course_of_same found _ ended
      · rw [Register.acceptedFor, noneAccepted]
        rfl
      · rw [set, List.getElem?_set_ne different]

/-- The batch of a call that is accepted is one for its lane. -/
theorem acceptedFor_callNote
    {batch : Batch}
    (filled : batch.isEmpty = false) :
    (warehouse.callNote batch .accepted).acceptedFor workers worker =
      if Routing.index batch.laneKey workers = worker then [batch] else [] := by
  have accepted : (warehouse.callNote batch .accepted).accepted = [batch] := by
    simp [Register.accepted, callNote, Register.acceptedBatch?, filled]
  rw [Register.acceptedFor, accepted]
  apply List.filter_place
  simp

/-- A batch that is accepted waits in its lane, or is given up as the lane is dead. -/
theorem course_of_route?
    {batch : Batch}
    {phase : LanePhase}
    (staffed : warehouse.pool.lanes.length = workers)
    (found : warehouse.pool.phases[worker]? = some phase)
    (routed : warehouse.pool.route? batch = some nextPool) :
    Course workers worker warehouse.pool (warehouse.callNote batch .accepted) nextPool none := by
  have same : nextPool.phases[worker]? = warehouse.pool.phases[worker]? := by
    rw [Pool.phases_of_route? routed]
  cases filled : batch.isEmpty with
  | true =>
      apply course_of_same found same
      · simp [callNote, entry, filled, Books.outcomesOf, Books.empty]
      · simp [callNote, Register.acceptedFor, Register.accepted, Register.acceptedBatch?, filled]
  | false =>
      have outcomes : (warehouse.callNote batch .accepted).books.outcomes =
          warehouse.pool.refusals batch := by
        simp [callNote, entry, filled]
      by_cases dead : phase = .dead
      · subst dead
        apply Course.dead found (same.trans found)
        rw [Books.outcomesOf, outcomes, Pool.filter_refusals_of_dead found,
          acceptedFor_callNote filled, ← staffed, apply_ite (List.map _)]
        rfl
      · apply Course.spared found dead (same.trans found) dead
        intro outcome present
        rw [Books.outcomesOf, outcomes] at present
        exact isLost_of_mem_refusals (List.mem_filter.mp present).1

/-- The lane that would start an attempt holds the batch of it and those in its buffer. -/
theorem held_of_next?
    {lane number : Nat}
    {now : Instant}
    {batch : Batch}
    {later : Lane}
    (ready : pool.next? lane now = some (batch, number, later)) :
    ∃ placed, pool.lanes[lane]? = some placed ∧ placed.phase ≠ .dead ∧
      placed.held = batch :: later.buffer ∧ later.buffer.length ≤ placed.buffer.length := by
  cases Pool.ready_of_next? ready with
  | first found => exact ⟨_, found, by simp, rfl, Nat.le_succ _⟩
  | again found _ _ => exact ⟨_, found, by simp, rfl, Nat.le_refl _⟩

theorem strike?_eq
    {struck : Nat}
    {batch : Batch}
    {waiting : List Batch}
    (strikes : warehouse.struck? incident = some (struck, batch, waiting))
    (worker : Nat) :
    warehouse.strike? worker incident =
      if struck = worker then some (batch, waiting) else none := by
  rw [strike?, strikes, Option.filter_some]
  simp only [beq_iff_eq]
  split
  · rfl
  · rfl

/-- A lane starts an attempt, or goes down as it does. -/
theorem course_of_start?
    {lane : Nat}
    {now : Instant}
    {phase : LanePhase}
    (found : warehouse.pool.phases[worker]? = some phase)
    (happened : warehouse.happen? (.act now (.start lane)) = some next) :
    Course workers worker warehouse.pool (warehouse.note (.act now (.start lane))) next.pool
      (warehouse.strike? worker (.meet (.event (.act now (.start lane))))) := by
  cases start_of_start? happened with
  | begin stocked healthy begun =>
      obtain ⟨batch, number, later, ready, strides⟩ := Pool.strides_of_start? begun
      have strikes : warehouse.strike? worker (.meet (.event (.act now (.start lane)))) = none := by
        rw [strike?, struck?, stocked, Option.bind_some, healthy]
        rfl
      rw [strikes]
      apply course_of_strides strides found _ rfl
      simp only [Warehouse.note, entry, outcomes, stocked, healthy, Nat.lt_irrefl, if_false]
      rfl
  | crash stocked crashes crashed =>
      obtain ⟨⟨batch, number, later⟩, ready, rfl⟩ := Option.map_eq_some_iff.mp crashed
      obtain ⟨placed, downfall, alive, held, short⟩ := held_of_next? ready
      have strikes : warehouse.struck? (.meet (.event (.act now (.start lane)))) =
          some (lane, batch, later.buffer) := by
        rw [struck?, stocked, Option.bind_some, if_pos crashes, ready]
        rfl
      rw [strike?_eq strikes]
      apply course_of_downfall downfall alive held short rfl _ rfl found
      simp only [Warehouse.note, entry, outcomes, stocked, if_pos crashes, Pool.losses, ready,
        Pool.heldBy, downfall]
      rfl

theorem filterMap_ended (outcomes : List Outcome) :
    (outcomes.map Record.ended).filterMap Record.outcome? = outcomes := by
  rw [List.filterMap_map]
  exact List.filterMap_some

/-- An event that leaves the pool as it is leaves every lane as it is. -/
theorem course_of_pool
    {event : Event}
    {phase : LanePhase}
    (found : warehouse.pool.phases[worker]? = some phase)
    (same : next.pool.phases = warehouse.pool.phases)
    (silent : (warehouse.entry event).outcomes = []) :
    Course workers worker warehouse.pool (warehouse.note event) next.pool none := by
  apply course_of_same found (by rw [same])
  · rw [Books.outcomesOf, Warehouse.note, silent]
    rfl
  · rfl

/-- Every event takes every lane on its course. -/
theorem course_of_happen?
    {event : Event}
    {phase : LanePhase}
    (noRoute : ∀ batch, event ≠ .route batch)
    (found : warehouse.pool.phases[worker]? = some phase)
    (happened : warehouse.happen? event = some next) :
    Course workers worker warehouse.pool (warehouse.note event) next.pool
      (warehouse.strike? worker (.meet (.event event))) := by
  cases event with
  | act now action =>
      cases action with
      | start lane => exact course_of_start? found happened
      | finish lane =>
          obtain ⟨store, batch, number, pool, stocked, answering, done, rfl⟩ :=
            exists_of_finish? happened
          apply course_of_strides (Pool.strides_of_finish? answering done) found _ rfl
          rw [List.cons_append, List.filterMap_cons_none rfl, List.filterMap_append,
            filterMap_ended]
          simp only [Warehouse.note, entry, outcomes, stocked, answering]
          split
          · exact (List.append_nil _).symm
          · exact (List.append_nil _).symm
      | abandon lane =>
          obtain ⟨pool, abandoned, rfl⟩ := Option.map_eq_some_iff.mp happened
          have strides : warehouse.pool.Strides now lane _ pool :=
            Pool.strides_of_abandon? abandoned
          apply course_of_strides strides found _ rfl
          rw [filterMap_ended]
          rfl
      | drain => exact course_of_pool found (by rw [pool_of_drain? happened]) rfl
      | settle => exact course_of_pool found (by rw [pool_of_settle? happened]) rfl
  | route batch => exact absurd rfl (noRoute batch)
  | shutdown leftover =>
      obtain ⟨-, rfl⟩ := happen?_shutdown_eq_some_iff.mp happened
      exact course_of_pool found rfl rfl
  | cancel | touchStore _ _ | delayStore _ _ | crashStore _ _ =>
      exact course_of_pool found (Option.some.inj happened ▸ rfl) rfl

/-- Every incident takes every lane on its course. -/
theorem course_of_suffer?
    {phase : LanePhase}
    (staffed : warehouse.pool.lanes.length = workers)
    (found : warehouse.pool.phases[worker]? = some phase)
    (suffered : warehouse.suffer? incident = some (note, next)) :
    Course workers worker warehouse.pool note next.pool (warehouse.strike? worker incident) := by
  cases incident with
  | meet occasion =>
      cases meeting_of_meet? suffered with
      | event noRoute happened => exact course_of_happen? noRoute found happened
      | accepted happened =>
          obtain ⟨-, pool, routed, rfl⟩ := happen?_route_eq_some_iff.mp happened
          exact course_of_route? staffed found routed
      | returned _ _ => exact course_of_same found rfl rfl rfl
  | collapse lane =>
      obtain ⟨pool, collapsed, same⟩ := Option.map_eq_some_iff.mp suffered
      obtain ⟨rfl, rfl⟩ := Prod.mk.inj same
      obtain ⟨buffer, batch, number, due, placed, rfl⟩ := Pool.exists_of_collapse? collapsed
      have strikes : warehouse.struck? (.collapse lane) = some (lane, batch, buffer) := by
        rw [struck?, placed]
      rw [strike?_eq strikes]
      apply course_of_downfall placed (by simp) rfl (Nat.le_refl _) rfl _ rfl found
      rw [Pool.heldBy, placed]

end Warehouse
end FuzzIntake
