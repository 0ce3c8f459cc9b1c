import FuzzIntake.Proofs.Lane.Attempts
import FuzzIntake.Proofs.Lane.Settlement

/-!
# How much the lanes hold

A lane takes no batch beyond its room, so it never holds more than the batches of its buffer
and the one it is writing or pausing for.
-/

namespace FuzzIntake

namespace Pool

/-- No lane buffers more batches than it has room for. -/
def IsWithinRoom (pool : Pool) : Prop :=
  ∀ lane ∈ pool.lanes, lane.buffer.length ≤ laneRoom

variable {pool next : Pool}

/-- A lane holds its buffer and at most one batch more. -/
theorem IsWithinRoom.length_heldBy
    (within : pool.IsWithinRoom)
    (index : Nat) :
    (pool.heldBy index).length ≤ laneRoom + 1 := by
  rw [heldBy]
  split
  · next lane found =>
      have short := within lane (List.mem_of_getElem? found)
      have single := lane.length_current_le
      rw [lane.held_eq, List.length_append]
      omega
  · exact Nat.zero_le _

/-- A lane may be replaced by one that is within its room. -/
theorem IsWithinRoom.set
    {index : Nat}
    {later : Lane}
    (within : pool.IsWithinRoom)
    (set : next.lanes = pool.lanes.set index later)
    (short : later.buffer.length ≤ laneRoom) :
    next.IsWithinRoom := by
  intro lane present
  rw [set] at present
  rcases List.mem_or_eq_of_mem_set present with old | rfl
  · exact within lane old
  · exact short

/-- What a lane does by itself takes no batch into its buffer. -/
theorem Work.isWithinRoom
    {index : Nat}
    {now : Instant}
    {outcomes : List Outcome}
    (work : Work pool index now outcomes next)
    (within : pool.IsWithinRoom) :
    next.IsWithinRoom := by
  have held : ∀ {lane}, pool.lanes[index]? = some lane → lane.buffer.length ≤ laneRoom :=
    fun found => within _ (List.mem_of_getElem? found)
  cases work with
  | begin due found => exact within.set rfl (Nat.le_of_succ_le (held found))
  | again due found _ _ => exact within.set rfl (held found :)
  | commit found _ => exact within.set rfl (held found :)
  | retry error found _ _ _ => exact within.set rfl (held found :)
  | giveUp error found _ _ => exact within.set rfl (held found :)
  | abandon found _ => exact within.set rfl (held found :)
  | crash _ _ => exact within.set rfl (Nat.zero_le laneRoom)

/-- A batch is routed only where there is room for it. -/
theorem isWithinRoom_of_route?
    {batch : Batch}
    (within : pool.IsWithinRoom)
    (routed : pool.route? batch = some next) :
    next.IsWithinRoom := by
  cases route_of_route? routed with
  | blank _ | nowhere _ _ _ | refuse _ _ _ => exact within
  | wait _ _ _ room _ =>
      refine within.set rfl ?_
      rw [List.length_append]
      exact room

end Pool

namespace Warehouse

variable {workers capacity : Nat} {books : Books} {warehouse next : Warehouse}

theorem isWithinRoom_new
    (workers : Nat)
    (shared : Bool)
    (retry : RetrySchedule)
    (capacity : Nat) :
    (new workers shared retry capacity).pool.IsWithinRoom := by
  intro lane present
  rw [List.eq_of_mem_replicate present]
  exact Nat.zero_le laneRoom

/-- Every event keeps the lanes within their room. -/
theorem isWithinRoom_of_happen?
    {event : Event}
    (within : warehouse.pool.IsWithinRoom)
    (happened : warehouse.happen? event = some next) :
    next.pool.IsWithinRoom := by
  cases event with
  | act now action =>
      cases action with
      | start lane => exact (work_of_start? happened).1.isWithinRoom within
      | finish lane => exact (work_of_finish? happened).1.isWithinRoom within
      | abandon lane =>
          obtain ⟨pool, abandoned, rfl⟩ := Option.map_eq_some_iff.mp happened
          exact (Pool.work_of_abandon? abandoned now).isWithinRoom within
      | drain => rwa [pool_of_drain? happened]
      | settle => rwa [pool_of_settle? happened]
  | route batch =>
      obtain ⟨-, pool, routed, rfl⟩ := happen?_route_eq_some_iff.mp happened
      exact Pool.isWithinRoom_of_route? within routed
  | shutdown leftover =>
      obtain ⟨-, rfl⟩ := happen?_shutdown_eq_some_iff.mp happened
      exact within
  | cancel | touchStore worker change | delayStore worker delay | crashStore worker count =>
      exact Option.some.inj happened ▸ within

/-- A run keeps the lanes within their room. -/
theorem isWithinRoom_of_run?
    {events : List Event}
    {last : Warehouse}
    (within : warehouse.pool.IsWithinRoom)
    (ran : warehouse.run? events = some (books, last)) :
    last.pool.IsWithinRoom :=
  @run?_induction (fun _ warehouse => warehouse.pool.IsWithinRoom)
    events warehouse last .empty books
    (fun _ _ _ _ _ within happened => isWithinRoom_of_happen? within happened) within ran

end Warehouse
end FuzzIntake
