import FuzzIntake.Proofs.Lane.Accounting
import FuzzIntake.Proofs.Lane.Incidents

/-!
# A crash stays within its lane

A lane whose store crashes loses the batch it is writing and those in its buffer, and nothing else.
The other lanes settle every batch, and the batches that are routed to the dead lane from then on
become dead letters without attempts.
-/

namespace FuzzIntake

/-- A batch that is written, or becomes a dead letter with exactly its operations. -/
def Outcome.IsSettled (outcome : Outcome) : Prop :=
  outcome.isCommitted = true ∧ outcome.letter? = none ∨
    outcome.isCommitted = false ∧
      ∃ letter, outcome.letter? = some letter ∧ letter.operations = outcome.batch.operations

namespace Warehouse

variable {warehouse next last : Warehouse} {incident : Incident} {incidents : List Incident}
  {register earlier note : Register} {pool nextPool : Pool} {workers worker capacity : Nat}

/-! ## What holds at every moment -/

/-- What holds at every moment of a run, whichever stores crash: a lane that is alive has lost
nothing. -/
structure IsUpheld (workers capacity : Nat) (register : Register) (warehouse : Warehouse) :
    Prop where
  balanced : warehouse.IsBalanced workers capacity register.books
  accepted : register.accepted = register.books.routed
  within : warehouse.pool.IsWithinRoom
  intact : ∀ worker phase, warehouse.pool.phases[worker]? = some phase → phase ≠ .dead →
    ∀ outcome ∈ register.books.outcomesOf worker, outcome.isLost = false

theorem isUpheld_new
    (workers : Nat)
    (shared : Bool)
    (retry : RetrySchedule)
    (capacity : Nat) :
    (new workers shared retry capacity).IsUpheld workers capacity .empty where
  balanced := isBalanced_new workers shared retry capacity
  accepted := rfl
  within := isWithinRoom_new workers shared retry capacity
  intact _ _ _ _ _ present := nomatch present

/-- A lane that goes down loses what it holds, in order. -/
theorem shift_of_collapse?
    {lane : Nat}
    (collapsed : pool.collapse? lane = some nextPool) :
    Pool.Shift pool lane [] ((pool.heldBy lane).map (⟨lane, ·, .lost⟩)) nextPool ∧
      pool.isQuiet = false := by
  obtain ⟨buffer, batch, number, due, found, rfl⟩ := Pool.exists_of_collapse? collapsed
  rw [Pool.heldBy, found]
  refine ⟨Pool.shift_of_downfall found, List.all_eq_false.mpr ?_⟩
  exact ⟨_, List.mem_of_getElem? found, by simp [Pool.isResting]⟩

/-- An incident keeps the books in balance. -/
theorem IsBalanced.suffer
    (balanced : warehouse.IsBalanced workers capacity register.books)
    (suffered : warehouse.suffer? incident = some (note, next)) :
    next.IsBalanced workers capacity (register ++ note).books := by
  rw [Register.books_append]
  cases incident with
  | meet occasion =>
      cases meeting_of_meet? suffered with
      | event noRoute happened => exact balanced.happen happened
      | accepted happened => exact balanced.happen happened
      | returned _ _ => exact (Books.append_empty register.books).symm ▸ balanced
  | collapse lane =>
      obtain ⟨pool, collapsed, same⟩ := Option.map_eq_some_iff.mp suffered
      obtain ⟨rfl, rfl⟩ := Prod.mk.inj same
      obtain ⟨shift, busy⟩ := shift_of_collapse? collapsed
      have same : { warehouse with pool := pool }.closing = warehouse.closing := rfl
      exact balanced.shift shift (by simp) (isClosing_of_busy busy same balanced.closing)

/-- An incident accepts the batches that it routes. -/
theorem accepted_of_suffer? (suffered : warehouse.suffer? incident = some (note, next)) :
    note.accepted = note.books.routed := by
  cases incident with
  | meet occasion => exact (meeting_of_meet? suffered).accepted_eq_routed
  | collapse lane =>
      obtain ⟨pool, -, same⟩ := Option.map_eq_some_iff.mp suffered
      obtain ⟨rfl, rfl⟩ := Prod.mk.inj same
      rfl

/-- An incident keeps the lanes within their room. -/
theorem isWithinRoom_of_suffer?
    (within : warehouse.pool.IsWithinRoom)
    (suffered : warehouse.suffer? incident = some (note, next)) :
    next.pool.IsWithinRoom := by
  cases incident with
  | meet occasion =>
      cases meeting_of_meet? suffered with
      | event noRoute happened => exact isWithinRoom_of_happen? within happened
      | accepted happened => exact isWithinRoom_of_happen? within happened
      | returned _ _ => exact within
  | collapse lane =>
      obtain ⟨pool, collapsed, same⟩ := Option.map_eq_some_iff.mp suffered
      obtain ⟨rfl, rfl⟩ := Prod.mk.inj same
      obtain ⟨_, _, _, _, -, rfl⟩ := Pool.exists_of_collapse? collapsed
      exact within.set rfl (Nat.zero_le laneRoom)

theorem accepted_append (register note : Register) :
    (register ++ note).accepted = register.accepted ++ note.accepted :=
  List.filterMap_append

/-- The lane of every worker is there before an incident if it is there after it. -/
theorem IsUpheld.exists_phase
    (upheld : warehouse.IsUpheld workers capacity register)
    (inside : worker < workers) :
    ∃ phase, warehouse.pool.phases[worker]? = some phase := by
  rw [← upheld.balanced.length_lanes, ← List.length_map Lane.phase] at inside
  exact ⟨_, List.getElem?_eq_getElem inside⟩

/-- Every incident keeps what holds at every moment. -/
theorem IsUpheld.suffer
    (upheld : warehouse.IsUpheld workers capacity register)
    (suffered : warehouse.suffer? incident = some (note, next)) :
    next.IsUpheld workers capacity (register ++ note) := by
  have balanced := upheld.balanced.suffer suffered
  refine ⟨balanced, ?_, isWithinRoom_of_suffer? upheld.within suffered, ?_⟩
  · rw [accepted_append, Register.books_append, Books.routed_append, upheld.accepted,
      accepted_of_suffer? suffered]
  · intro worker later reached alive outcome present
    have inside : worker < workers := by
      rw [← balanced.length_lanes, ← List.length_map Lane.phase]
      exact (List.getElem?_eq_some_iff.mp reached).1
    obtain ⟨phase, found⟩ := upheld.exists_phase inside
    rw [Register.books_append, Books.outcomesOf, Books.outcomes_append,
      List.filter_append] at present
    have course := course_of_suffer? upheld.balanced.length_lanes found suffered
    generalize warehouse.strike? worker incident = strike at course
    cases course with
    | spared found living reached still kept =>
        rcases List.mem_append.mp present with old | now
        · exact upheld.intact worker _ found living outcome old
        · exact kept outcome now
    | struck _ _ _ _ down => exact absurd (Option.some.inj (reached.symm.trans down)) alive
    | dead _ down => exact absurd (Option.some.inj (reached.symm.trans down)) alive

theorem isUpheld_of_endure?
    {shared : Bool}
    {retry : RetrySchedule}
    (endured : (new workers shared retry capacity).endure? incidents = some (register, last)) :
    last.IsUpheld workers capacity register := by
  have upheld := endure?_induction (IsUpheld workers capacity)
    (fun upheld suffered => upheld.suffer suffered)
    (isUpheld_new workers shared retry capacity) endured
  exact upheld

/-! ## Lanes that go down -/

theorem acceptedFor_append (register note : Register) :
    (register ++ note).acceptedFor workers worker =
      register.acceptedFor workers worker ++ note.acceptedFor workers worker := by
  rw [Register.acceptedFor, accepted_append, List.filter_append]
  rfl

theorem outcomesOf_register_append (register note : Register) :
    (register ++ note).books.outcomesOf worker =
      register.books.outcomesOf worker ++ note.books.outcomesOf worker :=
  List.filter_append _ _

theorem struck?_of_strike?
    {batch : Batch}
    {waiting : List Batch}
    (strikes : warehouse.strike? worker incident = some (batch, waiting)) :
    warehouse.struck? incident = some (worker, batch, waiting) := by
  obtain ⟨⟨struck, what⟩, found, rfl⟩ := Option.map_eq_some_iff.mp strikes
  obtain ⟨present, own⟩ := Option.filter_eq_some_iff.mp found
  obtain rfl : struck = worker := beq_iff_eq.mp own
  exact present

/-- A lane is dead only after an incident that struck it.  The induction takes the last incident
off: either it struck the lane, or the lane was dead before. -/
theorem exists_goesDown_of_dead
    {shared : Bool}
    {retry : RetrySchedule}
    (endured : (new workers shared retry capacity).endure? incidents = some (register, last))
    (dead : last.pool.phases[worker]? = some .dead) :
    ∃ earlier batch waiting,
      (new workers shared retry capacity).GoesDown incidents worker earlier batch waiting := by
  induction incidents using List.reverseRecOn generalizing register last with
  | nil =>
      obtain ⟨rfl, rfl⟩ := Prod.mk.inj (Option.some.inj endured)
      rw [Pool.phases, List.getElem?_map] at dead
      obtain ⟨lane, placed, phase⟩ := Option.map_eq_some_iff.mp dead
      rw [List.eq_of_mem_replicate (List.mem_of_getElem? placed)] at phase
      cases phase
  | append_singleton before incident inductionHypothesis =>
      obtain ⟨earlier, here, later, through, onwards, -⟩ := split_of_endure? endured
      obtain ⟨note, next, rest, suffered, ended, -⟩ := exists_suffer?_of_endure? onwards
      obtain ⟨-, rfl⟩ := Prod.mk.inj (Option.some.inj ended)
      have upheld := isUpheld_of_endure? through
      have inside : worker < workers := by
        have reached := isUpheld_of_endure? endured
        rw [← reached.balanced.length_lanes, ← List.length_map Lane.phase]
        exact (List.getElem?_eq_some_iff.mp dead).1
      obtain ⟨phase, found⟩ := upheld.exists_phase inside
      have course := course_of_suffer? upheld.balanced.length_lanes found suffered
      generalize strikes : here.strike? worker incident = strike at course
      cases course with
      | spared _ _ reached still _ => exact absurd (Option.some.inj (reached.symm.trans dead)) still
      | struck _ _ _ _ _ _ _ =>
          exact ⟨earlier, _, _, before, incident, [], here, rfl, through,
            struck?_of_strike? strikes⟩
      | dead already _ _ =>
          obtain ⟨known, batch, waiting, first, struck, after, there, rfl, begun, strikes⟩ :=
            inductionHypothesis through already
          exact ⟨known, batch, waiting, first, struck, after ++ [incident], there, by simp, begun,
            strikes⟩

/-- The batches accepted for a worker since its lane is dead are given up without attempts. -/
structure HasRefused (workers worker : Nat) (earlier register : Register) (warehouse : Warehouse) :
    Prop where
  dead : warehouse.pool.phases[worker]? = some .dead
  refused : ∃ later,
    register.acceptedFor workers worker = earlier.acceptedFor workers worker ++ later ∧
      register.books.outcomesOf worker = earlier.books.outcomesOf worker ++
        later.map (⟨worker, ·, .givenUp 0 "worker lane closed"⟩)

/-- A dead lane stays dead, and refuses every batch. -/
theorem HasRefused.suffer
    (refusing : HasRefused workers worker earlier register warehouse)
    (staffed : warehouse.pool.lanes.length = workers)
    (suffered : warehouse.suffer? incident = some (note, next)) :
    HasRefused workers worker earlier (register ++ note) next := by
  obtain ⟨dead, later, accepted, ended⟩ := refusing
  have course := course_of_suffer? staffed dead suffered
  generalize warehouse.strike? worker incident = strike at course
  cases course with
  | spared found alive _ _ _ => exact absurd (Option.some.inj (found.symm.trans dead)) alive
  | struck found alive _ _ _ _ _ =>
      rw [Pool.phases, List.getElem?_map, found] at dead
      exact absurd (Option.some.inj dead) alive
  | dead _ still refused =>
      refine ⟨still, later ++ note.acceptedFor workers worker, ?_, ?_⟩
      · rw [acceptedFor_append, accepted, List.append_assoc]
      · rw [outcomesOf_register_append, ended, refused, List.map_append, List.append_assoc]

/-- What an incident does to a lane that it strikes. -/
theorem struck_of_suffer?
    {batch : Batch}
    {waiting : List Batch}
    (upheld : warehouse.IsUpheld workers capacity register)
    (inside : worker < workers)
    (strikes : warehouse.struck? incident = some (worker, batch, waiting))
    (suffered : warehouse.suffer? incident = some (note, next)) :
    ∃ lane, warehouse.pool.lanes[worker]? = some lane ∧ lane.phase ≠ .dead ∧
      lane.held = batch :: waiting ∧ waiting.length ≤ laneRoom ∧
      next.pool.phases[worker]? = some .dead ∧
      note.books.outcomesOf worker = (batch :: waiting).map (⟨worker, ·, .lost⟩) ∧
      note.accepted = [] := by
  obtain ⟨phase, found⟩ := upheld.exists_phase inside
  have course := course_of_suffer? upheld.balanced.length_lanes found suffered
  rw [strike?_eq strikes, if_pos rfl] at course
  cases course with
  | struck found alive held short down lost noneAccepted =>
      have room := upheld.within _ (List.mem_of_getElem? found)
      exact ⟨_, found, alive, held, Nat.le_trans short room, down, lost, noneAccepted⟩

/-- The batches of a worker whose lane has not gone down: those that ended were settled, each once
and in order, and the lane holds the others. -/
structure IsSpared (workers worker : Nat) (register : Register) (last : Warehouse) : Prop where
  order : register.acceptedFor workers worker =
    (register.books.outcomesOf worker).map Outcome.batch ++ last.pool.heldBy worker
  settled : ∀ outcome ∈ register.books.outcomesOf worker, outcome.IsSettled
  ended : last.isOver = true → last.pool.heldBy worker = []

/-- The batches of a worker whose lane goes down with the batch it is writing and those in its
buffer: the earlier ones were settled, these are lost, and the later ones become dead letters
without attempts. -/
structure IsStruck (workers worker : Nat) (earlier register : Register) (batch : Batch)
    (waiting : List Batch) : Prop where
  short : waiting.length ≤ laneRoom
  before : earlier.acceptedFor workers worker =
    (earlier.books.outcomesOf worker).map Outcome.batch ++ batch :: waiting
  settled : ∀ outcome ∈ earlier.books.outcomesOf worker, outcome.IsSettled
  after : ∃ later,
    register.acceptedFor workers worker = earlier.acceptedFor workers worker ++ later ∧
      register.books.outcomesOf worker = earlier.books.outcomesOf worker ++
        (batch :: waiting).map (⟨worker, ·, .lost⟩) ++
        later.map (⟨worker, ·, .givenUp 0 "worker lane closed"⟩)

/-- The books say where the batches of every worker are. -/
theorem IsUpheld.order
    (upheld : warehouse.IsUpheld workers capacity register)
    (inside : worker < workers) :
    register.acceptedFor workers worker =
      (register.books.outcomesOf worker).map Outcome.batch ++ warehouse.pool.heldBy worker := by
  rw [← upheld.balanced.length_lanes] at inside
  have found := List.getElem?_eq_getElem inside
  rw [Register.acceptedFor, upheld.accepted, Pool.heldBy, found]
  exact upheld.balanced.order worker _ found

theorem IsUpheld.settled
    {phase : LanePhase}
    (upheld : warehouse.IsUpheld workers capacity register)
    (found : warehouse.pool.phases[worker]? = some phase)
    (alive : phase ≠ .dead) :
    ∀ outcome ∈ register.books.outcomesOf worker, outcome.IsSettled :=
  fun outcome present => fate_of_kept (upheld.intact worker phase found alive outcome present)

/-- A warehouse that is over holds nothing. -/
theorem IsUpheld.heldBy_eq_nil
    (upheld : warehouse.IsUpheld workers capacity register)
    (finished : warehouse.isOver = true)
    (worker : Nat) :
    warehouse.pool.heldBy worker = [] := by
  have quiet := isQuiet_of_isOver upheld.balanced.closing finished
  unfold Pool.heldBy
  split
  · next lane found => exact Pool.held_eq_nil_of_isQuiet upheld.balanced.tidy quiet found
  · rfl

theorem isSpared_of_endure?
    {shared : Bool}
    {retry : RetrySchedule}
    (inside : worker < workers)
    (endured : (new workers shared retry capacity).endure? incidents = some (register, last))
    (unstruck : ∀ earlier batch waiting,
      ¬ (new workers shared retry capacity).GoesDown incidents worker earlier batch waiting) :
    IsSpared workers worker register last := by
  have upheld := isUpheld_of_endure? endured
  obtain ⟨phase, found⟩ := upheld.exists_phase inside
  refine ⟨upheld.order inside, upheld.settled found ?_,
    fun finished => upheld.heldBy_eq_nil finished worker⟩
  rintro rfl
  obtain ⟨earlier, batch, waiting, down⟩ := exists_goesDown_of_dead endured found
  exact unstruck earlier batch waiting down

theorem isStruck_of_endure?
    {shared : Bool}
    {retry : RetrySchedule}
    {batch : Batch}
    {waiting : List Batch}
    (inside : worker < workers)
    (endured : (new workers shared retry capacity).endure? incidents = some (register, last))
    (downfall :
      (new workers shared retry capacity).GoesDown incidents worker earlier batch waiting) :
    IsStruck workers worker earlier register batch waiting ∧
      last.pool.phases[worker]? = some .dead := by
  obtain ⟨before, incident, after, here, rfl, through, strikes⟩ := downfall
  have upheld := isUpheld_of_endure? through
  obtain ⟨first, reached, later, known, onwards, rfl⟩ := split_of_endure? endured
  obtain ⟨rfl, rfl⟩ := Prod.mk.inj (Option.some.inj (known.symm.trans through))
  obtain ⟨note, next, rest, suffered, enduredOn, rfl⟩ := exists_suffer?_of_endure? onwards
  obtain ⟨lane, found, alive, held, short, down, lost, noneAccepted⟩ :=
    struck_of_suffer? upheld inside strikes suffered
  have start : next.IsUpheld workers capacity (first ++ note) ∧
      HasRefused workers worker (first ++ note) (first ++ note) next :=
    ⟨upheld.suffer suffered, down, [], (List.append_nil _).symm, (List.append_nil _).symm⟩
  obtain ⟨-, dead, refused, accepted, ended⟩ := endure?_induction
    (fun register warehouse => warehouse.IsUpheld workers capacity register ∧
      HasRefused workers worker (first ++ note) register warehouse)
    (fun ⟨upheld, refusing⟩ suffered => ⟨upheld.suffer suffered,
      refusing.suffer upheld.balanced.length_lanes suffered⟩)
    start enduredOn
  have noneAcceptedFor : note.acceptedFor workers worker = [] := by
    rw [Register.acceptedFor, noneAccepted]
    rfl
  refine ⟨⟨short, ?_, ?_, refused, ?_, ?_⟩, dead⟩
  · rw [upheld.order inside, Pool.heldBy, found, ← held]
  · apply upheld.settled _ alive
    rw [Pool.phases, List.getElem?_map, found]
    rfl
  · rw [← Register.append_assoc, accepted, acceptedFor_append, noneAcceptedFor, List.append_nil]
  · rw [← Register.append_assoc, ended, outcomesOf_register_append, lost]

/-- A call with a batch of a dead lane is answered at once: the batch is a dead letter without
attempts. -/
theorem answer?_of_dead
    {batch : Batch}
    (staffed : warehouse.pool.lanes.length = workers)
    (dead : warehouse.pool.phases[worker]? = some .dead)
    (opened : warehouse.closing = .opened)
    (filled : batch.isEmpty = false)
    (own : Routing.index batch.laneKey workers = worker) :
    warehouse.answer? batch = some (.accepted,
      { warehouse with pool := warehouse.pool.giveUp worker 0 "worker lane closed" batch }) := by
  rw [Pool.phases, List.getElem?_map] at dead
  obtain ⟨⟨buffer, phase⟩, placed, rfl⟩ := Option.map_eq_some_iff.mp dead
  have home : warehouse.pool.laneOf batch = worker := by rw [Pool.laneOf, staffed, own]
  have routed : warehouse.route? batch =
      some { warehouse with
        pool := warehouse.pool.giveUp worker 0 "worker lane closed" batch } := by
    rw [Warehouse.route?, Pool.route?, if_neg (by simp [filled]), home]
    simp only [placed]
    rfl
  simp only [answer?, opened, routed]

/--
Whichever stores crash, and whenever: the lane of a worker that does not go down settles every
batch accepted for it, each once and in order, and holds none when the warehouse is over.  A lane
that goes down loses exactly the batch it is writing and those in its buffer, which are at most
its room; what it ended before is settled; and every batch accepted for it from then on is a
dead letter without attempts and with exactly its operations, at once, so that no call with such
a batch waits or is turned away.  The counters and the dead letters are those of the batches that
were written and given up.
-/
theorem contains_crashes
    {shared : Bool}
    {retry : RetrySchedule}
    (endured : (new workers shared retry capacity).endure? incidents = some (register, last)) :
    (∀ worker < workers,
      (∀ earlier batch waiting,
        ¬ (new workers shared retry capacity).GoesDown incidents worker earlier batch waiting) →
      IsSpared workers worker register last) ∧
    (∀ worker < workers, ∀ earlier batch waiting,
      (new workers shared retry capacity).GoesDown incidents worker earlier batch waiting →
      IsStruck workers worker earlier register batch waiting ∧
        ∀ late, late.isEmpty = false → Routing.index late.laneKey workers = worker →
          last.closing = .opened →
          last.answer? late = some (.accepted,
            { last with pool := last.pool.giveUp worker 0 "worker lane closed" late })) ∧
    (0 < workers →
      last.pool.tally.committed = register.books.outcomes.countP Outcome.isCommitted ∧
        last.pool.tally.deadLettered = register.books.letters.length ∧
        last.pool.deadLetters =
          register.books.letters.foldl DeadLetters.push (DeadLetters.new capacity)) := by
  refine ⟨fun worker inside => isSpared_of_endure? inside endured, ?_, fun _ => ?_⟩
  · intro worker inside earlier batch waiting downfall
    obtain ⟨struck, dead⟩ := isStruck_of_endure? inside endured downfall
    have upheld := isUpheld_of_endure? endured
    refine ⟨struck, fun late filled own opened => ?_⟩
    exact answer?_of_dead upheld.balanced.length_lanes dead opened filled own
  · have balanced := (isUpheld_of_endure? endured).balanced
    exact ⟨balanced.committed, balanced.deadLettered, balanced.deadLetters⟩

/-- Before the second of two lanes goes down: it writes the first of three batches. -/
def beforeDownfall : List Incident :=
  let batch (program : String) : Batch := ⟨[.delete program]⟩
  [.meet (.call (batch "a")), .meet (.call (batch "b")), .meet (.call (batch "c")),
    .meet (.call (batch "g")), .meet (.event (.act 0 (.start 1)))]

/-- After the second of two lanes has gone down: another batch comes for it, and the first lane
goes on. -/
def afterDownfall : List Incident :=
  [.meet (.call ⟨[.delete "a"]⟩), .meet (.event (.act 0 (.start 0))),
    .meet (.event (.act 0 (.finish 0))), .meet (.event (.shutdown [])),
    .meet (.event (.act 0 .drain))]

/-- The second lane loses three batches and refuses one; the first lane writes its batch. -/
theorem contains_crashes_downfall :
    ∃ register last earlier batch waiting,
      (new 2 false ⟨3, ⟨0⟩⟩ 4).endure? (beforeDownfall ++ .collapse 1 :: afterDownfall) =
        some (register, last) ∧
      batch.laneKey = "a" ∧ waiting.map Batch.laneKey = ["b", "c"] ∧
      last.pool.deadLetters.letters.map (fun letter => (letter.worker, letter.attempts)) =
        [(1, 0)] ∧
      IsStruck 2 1 earlier register batch waiting ∧
      last.pool.tally.committed = register.books.outcomes.countP Outcome.isCommitted := by
  have evaluated : ((new 2 false ⟨3, ⟨0⟩⟩ 4).endure?
        (beforeDownfall ++ .collapse 1 :: afterDownfall)).map (fun reached =>
        reached.2.pool.deadLetters.letters.map fun letter => (letter.worker, letter.attempts)) =
      some [(1, 0)] := by decide +kernel
  obtain ⟨⟨register, last⟩, endured, letters⟩ := Option.map_eq_some_iff.mp evaluated
  have struck : ((new 2 false ⟨3, ⟨0⟩⟩ 4).endure? beforeDownfall).map (fun reached =>
        (reached.2.struck? (.collapse 1)).map fun down =>
          (down.1, down.2.1.laneKey, down.2.2.map Batch.laneKey)) =
      some (some (1, "a", ["b", "c"])) := by decide +kernel
  obtain ⟨⟨earlier, here⟩, through, down⟩ := Option.map_eq_some_iff.mp struck
  obtain ⟨⟨worker, batch, waiting⟩, strikes, facts⟩ := Option.map_eq_some_iff.mp down
  simp only [Prod.mk.injEq] at facts
  obtain ⟨rfl, key, keys⟩ := facts
  obtain ⟨-, downfalls, accounts⟩ := contains_crashes endured
  obtain ⟨isStruck, -⟩ := downfalls 1 (by decide) earlier batch waiting
    ⟨_, _, _, here, rfl, through, strikes⟩
  exact ⟨register, last, earlier, batch, waiting, endured, key, keys, letters, isStruck,
    (accounts Nat.two_pos).1⟩

end Warehouse
end FuzzIntake
