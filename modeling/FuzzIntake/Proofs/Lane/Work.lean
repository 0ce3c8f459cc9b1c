import FuzzIntake.Lane.Pool
import Mathlib.Data.List.Basic

/-!
# What a lane can do

A lane takes batches in, holds them in order and lets them out with an outcome each.
`Work` lists what a lane can do by itself, with the outcomes of the batches it lets out,
`Route` what becomes of a batch that is routed, and `Shift` says what every change of one
lane has in common: what the lane held and was given is what it let out and holds now, in
order.
-/

namespace FuzzIntake

/-- How a batch ended. -/
inductive Fate
  /-- It was written by an attempt. -/
  | committed (attempt : Nat)
  /-- It was given up after some attempts. -/
  | givenUp (attempts : Nat) (error : String)
  /-- It went down with its lane. -/
  | lost

/-- The end of a batch at a worker. -/
structure Outcome where
  /-- The worker. -/
  worker : Nat
  /-- The batch. -/
  batch : Batch
  /-- How the batch ended. -/
  fate : Fate

namespace Outcome

/-- Whether the batch was written. -/
def isCommitted (outcome : Outcome) : Bool :=
  match outcome.fate with
  | .committed _ => true
  | _ => false

/-- Whether the batch went down with its lane. -/
def isLost (outcome : Outcome) : Bool :=
  match outcome.fate with
  | .lost => true
  | _ => false

/-- The dead letter that the end of a batch leaves, if it was given up. -/
def letter? (outcome : Outcome) : Option DeadLetter :=
  match outcome.fate with
  | .givenUp attempts error =>
      some ⟨outcome.worker, attempts, error, outcome.batch.operations⟩
  | _ => none

end Outcome

/-- The batches of a lane, from the one it is writing or pausing for. -/
def Lane.held (lane : Lane) : List Batch :=
  match lane.phase with
  | .applying batch _ _ => batch :: lane.buffer
  | .pausing batch _ _ _ => batch :: lane.buffer
  | _ => lane.buffer

theorem LanePhase.beq_dead_iff {phase : LanePhase} :
    (phase == .dead) = true ↔ phase = .dead := by
  cases phase with
  | dead => exact iff_of_true rfl rfl
  | idle | applying _ _ _ | pausing _ _ _ _ => exact iff_of_false (nomatch ·) (nomatch ·)

namespace Pool

/-- What a lane can do by itself, with the outcomes of the batches it lets out. -/
inductive Work (pool : Pool) (index : Nat) (now : Instant) : List Outcome → Pool → Prop
  /-- It starts the first attempt at its oldest batch. -/
  | begin {batch : Batch} {rest : List Batch} (due : Instant) :
      pool.lanes[index]? = some ⟨batch :: rest, .idle⟩ →
      Work pool index now [] (pool.setLane index ⟨rest, .applying batch 1 due⟩)
  /-- It starts another attempt after a pause. -/
  | again {buffer : List Batch} {batch : Batch} {attempt : Nat} {error : BatchFailure}
      {resumeAt : Instant} (due : Instant) :
      pool.lanes[index]? = some ⟨buffer, .pausing batch attempt error resumeAt⟩ →
      resumeAt ≤ now → pool.cancelled = false →
      Work pool index now []
        (pool.setLane index ⟨buffer, .applying batch (attempt + 1) due⟩)
  /-- Its batch is written. -/
  | commit {buffer : List Batch} {batch : Batch} {attempt : Nat} {due : Instant} :
      pool.lanes[index]? = some ⟨buffer, .applying batch attempt due⟩ → due ≤ now →
      Work pool index now [⟨index, batch, .committed attempt⟩]
        { (pool.setLane index ⟨buffer, .idle⟩) with
          tally := { pool.tally with committed := pool.tally.committed + 1 } }
  /-- An attempt fails and another one is to come. -/
  | retry {buffer : List Batch} {batch : Batch} {attempt : Nat} {due : Instant}
      (error : BatchFailure) :
      pool.lanes[index]? = some ⟨buffer, .applying batch attempt due⟩ → due ≤ now →
      attempt < pool.maxAttempts → pool.cancelled = false →
      Work pool index now []
        { (pool.setLane index
            ⟨buffer, .pausing batch attempt error (Instant.after now pool.retry.backoff)⟩) with
          tally := { pool.tally with retried := pool.tally.retried + 1 } }
  /-- The last attempt fails. -/
  | giveUp {buffer : List Batch} {batch : Batch} {attempt : Nat} {due : Instant}
      (error : BatchFailure) :
      pool.lanes[index]? = some ⟨buffer, .applying batch attempt due⟩ → due ≤ now →
      (pool.maxAttempts ≤ attempt ∨ pool.cancelled = true) →
      Work pool index now [⟨index, batch, .givenUp attempt error.message⟩]
        ((pool.setLane index ⟨buffer, .idle⟩).giveUp index attempt error.message batch)
  /-- It is cancelled while pausing. -/
  | abandon {buffer : List Batch} {batch : Batch} {attempt : Nat} {error : BatchFailure}
      {resumeAt : Instant} :
      pool.lanes[index]? = some ⟨buffer, .pausing batch attempt error resumeAt⟩ →
      pool.cancelled = true →
      Work pool index now [⟨index, batch, .givenUp attempt error.message⟩]
        ((pool.setLane index ⟨buffer, .idle⟩).giveUp index attempt error.message batch)
  /-- It goes down as it starts an attempt. -/
  | crash {lane : Lane} :
      pool.lanes[index]? = some lane → (pool.next? index now).isSome = true →
      Work pool index now (lane.held.map fun batch => ⟨index, batch, .lost⟩)
        (pool.setLane index ⟨[], .dead⟩)

/-- The batches that a lane holds. -/
def heldBy (pool : Pool) (index : Nat) : List Batch :=
  match pool.lanes[index]? with
  | some lane => lane.held
  | none => []

/-- The outcomes of a lane that goes down. -/
def losses (pool : Pool) (index : Nat) (now : Instant) : List Outcome :=
  if (pool.next? index now).isSome then
    (pool.heldBy index).map fun batch => ⟨index, batch, .lost⟩
  else
    []

/-- The outcomes of the answer of a lane's store. -/
def answers (pool : Pool) (index : Nat) (now : Instant)
    (result : Except BatchFailure Receipt) : List Outcome :=
  match pool.answering? index now with
  | none => []
  | some (batch, attempt) =>
      match result with
      | .ok _ => [⟨index, batch, .committed attempt⟩]
      | .error error =>
          if attempt < pool.maxAttempts ∧ !pool.cancelled then
            []
          else
            [⟨index, batch, .givenUp attempt error.message⟩]

/-- The outcome of giving up the batch that a lane is pausing for. -/
def abandonments (pool : Pool) (index : Nat) : List Outcome :=
  match pool.lanes[index]? with
  | some ⟨_, .pausing batch attempt error _⟩ =>
      if pool.cancelled then [⟨index, batch, .givenUp attempt error.message⟩] else []
  | _ => []

/-! ## Every action of a lane is in the list -/

/-- A change of what a lane is doing is a change of the lane. -/
theorem setPhase_eq_setLane
    {pool : Pool}
    {index : Nat}
    {lane : Lane}
    (found : pool.lanes[index]? = some lane)
    (phase : LanePhase) :
    pool.setPhase index phase = pool.setLane index { lane with phase := phase } := by
  rw [setPhase, setLane, List.modify_eq_set_getElem?, found]
  rfl

/-- The batch that a lane would start, the number of the attempt, and the lane with what is left
waiting. -/
inductive Ready (pool : Pool) (index : Nat) (now : Instant) : Batch → Nat → Lane → Prop
  /-- The first attempt at its oldest batch. -/
  | first {batch : Batch} {rest : List Batch} :
      pool.lanes[index]? = some ⟨batch :: rest, .idle⟩ →
      Ready pool index now batch 1 ⟨rest, .idle⟩
  /-- Another attempt after a pause. -/
  | again {buffer : List Batch} {batch : Batch} {attempt : Nat} {error : BatchFailure}
      {resumeAt : Instant} :
      pool.lanes[index]? = some ⟨buffer, .pausing batch attempt error resumeAt⟩ →
      resumeAt ≤ now → pool.cancelled = false →
      Ready pool index now batch (attempt + 1) ⟨buffer, .pausing batch attempt error resumeAt⟩

theorem ready_of_next?
    {pool : Pool}
    {index : Nat}
    {now : Instant}
    {batch : Batch}
    {attempt : Nat}
    {later : Lane}
    (ready : pool.next? index now = some (batch, attempt, later)) :
    Ready pool index now batch attempt later := by
  rw [next?] at ready
  split at ready
  · cases ready
  · next lane found =>
      obtain ⟨buffer, phase⟩ := lane
      cases phase with
      | idle =>
          cases buffer with
          | nil => cases ready
          | cons oldest rest =>
              obtain ⟨rfl, rfl, rfl⟩ := ready
              exact .first found
      | pausing held tried error resumeAt =>
          obtain ⟨⟨passed, going⟩, ready⟩ := Option.ite_none_right_eq_some.mp ready
          obtain ⟨rfl, rfl, rfl⟩ := ready
          exact .again found passed (by simpa using going)
      | applying _ _ _ => cases ready
      | dead => cases ready

theorem work_of_start?
    {pool next : Pool}
    {index : Nat}
    {now due : Instant}
    (started : pool.start? index now due = some next) :
    Work pool index now [] next := by
  obtain ⟨⟨batch, attempt, later⟩, ready, rfl⟩ := Option.map_eq_some_iff.mp started
  cases ready_of_next? ready with
  | first found => exact .begin due found
  | again found passed going => exact .again due found passed going

theorem work_of_crash?
    {pool next : Pool}
    {index : Nat}
    {now : Instant}
    (crashed : pool.crash? index now = some next) :
    Work pool index now (pool.losses index now) next := by
  obtain ⟨start, ready, rfl⟩ := Option.map_eq_some_iff.mp crashed
  have starting : (pool.next? index now).isSome = true := by rw [ready]; rfl
  cases found : pool.lanes[index]? with
  | none => simp [next?, found] at ready
  | some lane =>
      rw [losses, if_pos starting, heldBy, found]
      exact .crash found starting

/-- The answer of a store to an attempt at a batch. -/
inductive Answer (pool : Pool) (index : Nat) (now : Instant) (batch : Batch) (attempt : Nat) :
    Except BatchFailure Receipt → Pool → Prop
  /-- The batch is written. -/
  | commit {buffer : List Batch} {due : Instant} {receipt : Receipt} :
      pool.lanes[index]? = some ⟨buffer, .applying batch attempt due⟩ → due ≤ now →
      pool.answers index now (.ok receipt) = [⟨index, batch, .committed attempt⟩] →
      Answer pool index now batch attempt (.ok receipt)
        { (pool.setLane index ⟨buffer, .idle⟩) with
          tally := { pool.tally with committed := pool.tally.committed + 1 } }
  /-- The attempt fails and another one is to come. -/
  | retry {buffer : List Batch} {due : Instant} {error : BatchFailure} :
      pool.lanes[index]? = some ⟨buffer, .applying batch attempt due⟩ → due ≤ now →
      attempt < pool.maxAttempts → pool.cancelled = false →
      pool.answers index now (.error error) = [] →
      Answer pool index now batch attempt (.error error)
        { (pool.setLane index
            ⟨buffer, .pausing batch attempt error (Instant.after now pool.retry.backoff)⟩) with
          tally := { pool.tally with retried := pool.tally.retried + 1 } }
  /-- The last attempt fails. -/
  | giveUp {buffer : List Batch} {due : Instant} {error : BatchFailure} :
      pool.lanes[index]? = some ⟨buffer, .applying batch attempt due⟩ → due ≤ now →
      (pool.maxAttempts ≤ attempt ∨ pool.cancelled = true) →
      pool.answers index now (.error error) =
        [⟨index, batch, .givenUp attempt error.message⟩] →
      Answer pool index now batch attempt (.error error)
        ((pool.setLane index ⟨buffer, .idle⟩).giveUp index attempt error.message batch)

theorem answer_of_finish?
    {pool next : Pool}
    {index : Nat}
    {now : Instant}
    {result : Except BatchFailure Receipt}
    {batch : Batch}
    {attempt : Nat}
    (answering : pool.answering? index now = some (batch, attempt))
    (finished : pool.finish? index now result = some next) :
    Answer pool index now batch attempt result next := by
  have writing := answering
  rw [answering?] at writing
  split at writing
  · next buffer held tried due found =>
      obtain ⟨passed, writing⟩ := Option.ite_none_right_eq_some.mp writing
      obtain ⟨rfl, rfl⟩ := Prod.mk.inj (Option.some.inj writing)
      rw [finish?, answering] at finished
      simp only [Option.map_some, setPhase_eq_setLane found] at finished
      cases result with
      | ok receipt =>
          obtain rfl := Option.some.inj finished
          exact .commit found passed (by rw [answers, answering])
      | error error =>
          simp only at finished
          split at finished
          · next more =>
              obtain rfl := Option.some.inj finished
              refine .retry found passed more.1 (by simpa using more.2) ?_
              simp only [answers, answering, if_pos more]
          · next last =>
              obtain rfl := Option.some.inj finished
              refine .giveUp found passed ?_ ?_
              · cases stopped : pool.cancelled with
                | true => exact .inr rfl
                | false =>
                    simp only [stopped, Bool.not_false, and_true, Nat.not_lt] at last
                    exact .inl last
              · simp only [answers, answering, if_neg last]
  · cases writing

theorem work_of_finish?
    {pool next : Pool}
    {index : Nat}
    {now : Instant}
    {result : Except BatchFailure Receipt}
    (finished : pool.finish? index now result = some next) :
    Work pool index now (pool.answers index now result) next := by
  obtain ⟨⟨batch, attempt⟩, answering, -⟩ := Option.map_eq_some_iff.mp finished
  cases answer_of_finish? answering finished with
  | commit found passed answers => exact answers ▸ .commit found passed
  | retry found passed more going answers => exact answers ▸ .retry _ found passed more going
  | giveUp found passed last answers => exact answers ▸ .giveUp _ found passed last

/-- A lane gives up the batch it is pausing for. -/
theorem exists_of_abandon?
    {pool next : Pool}
    {index : Nat}
    (abandoned : pool.abandon? index = some next) :
    ∃ buffer batch attempt error resumeAt,
      pool.lanes[index]? = some ⟨buffer, .pausing batch attempt error resumeAt⟩ ∧
      pool.cancelled = true ∧
      pool.abandonments index = [⟨index, batch, .givenUp attempt error.message⟩] ∧
      (pool.setLane index ⟨buffer, .idle⟩).giveUp index attempt error.message batch = next := by
  rw [abandon?] at abandoned
  split at abandoned
  · next buffer batch attempt error resumeAt found =>
      obtain ⟨stopped, abandoned⟩ := Option.ite_none_right_eq_some.mp abandoned
      rw [setPhase_eq_setLane found] at abandoned
      have gaveUp : pool.abandonments index =
          [⟨index, batch, .givenUp attempt error.message⟩] := by
        simp only [abandonments, found, stopped, if_true]
      exact ⟨buffer, batch, attempt, error, resumeAt, found, stopped, gaveUp,
        Option.some.inj abandoned⟩
  · cases abandoned

theorem work_of_abandon?
    {pool next : Pool}
    {index : Nat}
    (abandoned : pool.abandon? index = some next)
    (now : Instant) :
    Work pool index now (pool.abandonments index) next := by
  obtain ⟨buffer, batch, attempt, error, resumeAt, found, stopped, gaveUp, rfl⟩ :=
    exists_of_abandon? abandoned
  rw [gaveUp]
  exact .abandon found stopped

/-! ## What all changes of a lane have in common -/

/--
A change of one lane.  What the lane held and was given is what it let out and holds now,
in order, and what it let out is counted and given up as its outcomes say.
-/
structure Shift (pool : Pool) (index : Nat) (given : List Batch) (outcomes : List Outcome)
    (next : Pool) : Prop where
  order : ∃ lane later, pool.lanes[index]? = some lane ∧
    next.lanes = pool.lanes.set index later ∧
    lane.held ++ given = outcomes.map Outcome.batch ++ later.held ∧
    (later.phase = .dead → later.buffer = [])
  own : ∀ outcome ∈ outcomes, outcome.worker = index
  committed : next.tally.committed =
    pool.tally.committed + outcomes.countP Outcome.isCommitted
  deadLettered : next.tally.deadLettered =
    pool.tally.deadLettered + (outcomes.filterMap Outcome.letter?).length
  deadLetters : next.deadLetters =
    (outcomes.filterMap Outcome.letter?).foldl DeadLetters.push pool.deadLetters

/-- A lane that goes down lets out all it held. -/
theorem shift_of_downfall
    {pool : Pool}
    {index : Nat}
    {lane : Lane}
    (found : pool.lanes[index]? = some lane) :
    Shift pool index [] (lane.held.map fun batch => ⟨index, batch, .lost⟩)
      (pool.setLane index ⟨[], .dead⟩) := by
  have batches : (lane.held.map fun batch => Outcome.mk index batch .lost).map
      Outcome.batch = lane.held := by
    rw [List.map_map]
    exact List.map_id _
  have noLetters : (lane.held.map fun batch => Outcome.mk index batch .lost).filterMap
      Outcome.letter? = [] := by
    rw [List.filterMap_map, List.filterMap_eq_nil_iff]
    exact fun _ _ => rfl
  have noneCommitted : (lane.held.map fun batch => Outcome.mk index batch .lost).countP
      Outcome.isCommitted = 0 := by
    rw [List.countP_map, List.countP_eq_zero]
    exact fun _ _ => Bool.false_ne_true
  refine ⟨⟨_, _, found, rfl, ?_, fun _ => rfl⟩, ?_, ?_, ?_, ?_⟩
  · rw [batches]
    rfl
  · intro outcome present
    obtain ⟨batch, -, rfl⟩ := List.mem_map.mp present
    rfl
  · rw [noneCommitted]
    rfl
  · rw [noLetters]
    rfl
  · rw [noLetters]
    rfl

theorem Work.shift
    {pool next : Pool}
    {index : Nat}
    {now : Instant}
    {outcomes : List Outcome}
    (work : Work pool index now outcomes next) :
    Shift pool index [] outcomes next := by
  cases work with
  | begin due found =>
      exact ⟨⟨_, _, found, rfl, List.append_nil _, by simp⟩, by simp, rfl, rfl, rfl⟩
  | again due found _ _ =>
      exact ⟨⟨_, _, found, rfl, List.append_nil _, by simp⟩, by simp, rfl, rfl, rfl⟩
  | commit found _ =>
      exact ⟨⟨_, _, found, rfl, List.append_nil _, by simp⟩, by simp, rfl, rfl, rfl⟩
  | retry error found _ _ _ =>
      exact ⟨⟨_, _, found, rfl, List.append_nil _, by simp⟩, by simp, rfl, rfl, rfl⟩
  | giveUp error found _ _ =>
      exact ⟨⟨_, _, found, rfl, List.append_nil _, by simp⟩, by simp, rfl, rfl, rfl⟩
  | abandon found _ =>
      exact ⟨⟨_, _, found, rfl, List.append_nil _, by simp⟩, by simp, rfl, rfl, rfl⟩
  | crash found _ => exact shift_of_downfall found

/-! ## Routing -/

/-- The outcome of a batch that is routed to a dead lane. -/
def refusals (pool : Pool) (batch : Batch) : List Outcome :=
  match pool.lanes[pool.laneOf batch]? with
  | some lane =>
      if lane.phase == .dead then
        [⟨pool.laneOf batch, batch, .givenUp 0 "worker lane closed"⟩]
      else
        []
  | none => []

/-- A batch belongs to a lane that is there, if any is. -/
theorem getElem?_laneOf_ne_none
    {pool : Pool}
    (staffed : 0 < pool.lanes.length)
    (batch : Batch) :
    pool.lanes[pool.laneOf batch]? ≠ none := by
  rw [ne_eq, List.getElem?_eq_none_iff, Nat.not_le]
  exact Routing.index_lt staffed batch.laneKey

/-- What becomes of a batch that is routed. -/
inductive Route (pool : Pool) (batch : Batch) : Pool → Prop
  /-- It has no operations. -/
  | blank : batch.isEmpty = true → Route pool batch pool
  /-- There is no lane for it. -/
  | nowhere :
      batch.isEmpty = false → pool.lanes[pool.laneOf batch]? = none →
      pool.refusals batch = [] → Route pool batch pool
  /-- Its lane is dead. -/
  | refuse {buffer : List Batch} :
      batch.isEmpty = false → pool.lanes[pool.laneOf batch]? = some ⟨buffer, .dead⟩ →
      pool.refusals batch = [⟨pool.laneOf batch, batch, .givenUp 0 "worker lane closed"⟩] →
      Route pool batch (pool.giveUp (pool.laneOf batch) 0 "worker lane closed" batch)
  /-- It waits in its lane. -/
  | wait {buffer : List Batch} {phase : LanePhase} :
      batch.isEmpty = false → pool.lanes[pool.laneOf batch]? = some ⟨buffer, phase⟩ →
      phase ≠ .dead → buffer.length < laneRoom → pool.refusals batch = [] →
      Route pool batch (pool.setLane (pool.laneOf batch) ⟨buffer ++ [batch], phase⟩)

theorem route_of_route?
    {pool next : Pool}
    {batch : Batch}
    (routed : pool.route? batch = some next) :
    Route pool batch next := by
  rw [route?] at routed
  cases empty : batch.isEmpty with
  | true =>
      obtain rfl := Option.some.inj ((if_pos empty).symm.trans routed)
      exact .blank empty
  | false =>
      simp only [empty, Bool.false_eq_true, if_false] at routed
      cases found : pool.lanes[pool.laneOf batch]? with
      | none =>
          simp only [found] at routed
          obtain rfl := Option.some.inj routed
          exact .nowhere empty found (by rw [refusals, found])
      | some lane =>
          obtain ⟨buffer, phase⟩ := lane
          by_cases dead : phase = .dead
          · subst dead
            simp only [found] at routed
            obtain rfl := Option.some.inj routed
            refine .refuse empty found ?_
            rw [refusals, found]
            rfl
          · have alive := mt LanePhase.beq_dead_iff.mp dead
            simp only [found, if_neg alive] at routed
            obtain ⟨room, routed⟩ := Option.ite_none_right_eq_some.mp routed
            obtain rfl := Option.some.inj routed
            refine .wait empty found dead room ?_
            simp only [refusals, found, if_neg alive]

/-- A batch without operations is routed without effect. -/
theorem eq_of_route?_of_isEmpty
    {pool next : Pool}
    {batch : Batch}
    (routed : pool.route? batch = some next)
    (empty : batch.isEmpty = true) :
    next = pool := by
  rw [route?, if_pos empty] at routed
  exact (Option.some.inj routed).symm

/-- Without lanes a batch is routed without effect. -/
theorem eq_of_route?_of_noLanes
    {pool next : Pool}
    {batch : Batch}
    (routed : pool.route? batch = some next)
    (noLanes : pool.lanes = []) :
    next = pool ∧ pool.refusals batch = [] := by
  refine ⟨?_, by simp [refusals, noLanes]⟩
  cases route_of_route? routed with
  | blank _ | nowhere _ _ _ => rfl
  | refuse _ found _ | wait _ found _ _ _ => simp [noLanes] at found

/-- A batch that is routed is given to its lane. -/
theorem shift_of_route?
    {pool next : Pool}
    {batch : Batch}
    (routed : pool.route? batch = some next)
    (filled : batch.isEmpty = false)
    (staffed : 0 < pool.lanes.length)
    (tidy : ∀ lane ∈ pool.lanes, lane.phase = .dead → lane.buffer = []) :
    Shift pool (pool.laneOf batch) [batch] (pool.refusals batch) next := by
  cases route_of_route? routed with
  | blank empty => simp [filled] at empty
  | nowhere _ missing _ => exact absurd missing (getElem?_laneOf_ne_none staffed batch)
  | @refuse buffer _ found refused =>
      obtain rfl : buffer = [] := tidy ⟨buffer, .dead⟩ (List.mem_of_getElem? found) rfl
      rw [refused]
      refine ⟨⟨⟨[], .dead⟩, ⟨[], .dead⟩, found, ?_, rfl, fun _ => rfl⟩, by simp, rfl, rfl, rfl⟩
      obtain ⟨inside, same⟩ := List.getElem?_eq_some_iff.mp found
      rw [← same]
      exact (List.set_getElem_self inside).symm
  | @wait buffer phase _ found alive _ unrefused =>
      have order : Lane.held ⟨buffer, phase⟩ ++ [batch] = Lane.held ⟨buffer ++ [batch], phase⟩ := by
        cases phase <;> rfl
      rw [unrefused]
      exact ⟨⟨_, _, found, rfl, order, fun still => absurd still alive⟩, by simp, rfl, rfl, rfl⟩

end Pool
end FuzzIntake
