import FuzzIntake.Proofs.Batch.Conveyor
import FuzzIntake.Proofs.History

/-!
# When batches are submitted

In virtual time what the loop does by itself takes no time: time goes on only while the loop
has nothing to do, and never beyond the end of its wait.  The sink may take its time over
every batch.

A batch is then submitted at the instant at which its last operation was popped, if that makes
it complete, and otherwise at the very instant at which its first operation reaches the age in
the limits.  So a batch for which the loop is still waiting has not reached that age.
-/

namespace FuzzIntake

namespace Accumulator

variable {accumulator rest : Accumulator} {now : Instant}

/-- A batch is given away for its age only when its first operation has reached it. -/
theorem due_of_takeDue
    {batch : Batch}
    (taken : accumulator.takeDue now = (some batch, rest)) :
    ∃ first, accumulator.openedAt = some first ∧
      accumulator.limits.maxAge.nanos ≤ now - first := by
  unfold takeDue at taken
  cases opened : accumulator.openedAt with
  | none => simp [opened] at taken
  | some first =>
      by_cases due : accumulator.limits.maxAge.nanos ≤ (Instant.until first now).nanos
      · exact ⟨first, rfl, due⟩
      · simp [opened, due] at taken

/-- The first operation opens the batch, and later ones leave its opening as it is. -/
theorem openedAt_of_push
    {grown : Accumulator}
    {operation : Operation}
    (pushed : accumulator.push operation now = (none, grown)) :
    grown.openedAt = if accumulator.held.isEmpty then some now else accumulator.openedAt := by
  unfold push at pushed
  simp only at pushed
  split at pushed
  · cases pushed
  · exact (congrArg openedAt (Prod.mk.inj pushed).2).symm

end Accumulator

namespace FlushLoop

/-- The loop never waits for longer than the batch in progress may still age. -/
theorem after_patience_le
    {accumulator : Accumulator}
    {first now : Instant}
    (opened : accumulator.openedAt = some first)
    (young : now ≤ first.after accumulator.limits.maxAge) :
    Instant.after now (patience accumulator now) ≤ first.after accumulator.limits.maxAge := by
  have left : accumulator.timeLeft now =
      some ⟨first.after accumulator.limits.maxAge - now⟩ := by
    unfold Accumulator.timeLeft
    rw [opened]
    rfl
  unfold patience
  rw [left]
  calc now + min (first.after accumulator.limits.maxAge - now) pollInterval.nanos
      ≤ now + (first.after accumulator.limits.maxAge - now) :=
        Nat.add_le_add_left (Nat.min_le_left _ _) now
    _ = first.after accumulator.limits.maxAge := Nat.add_sub_of_le young

/-- A batch in progress that was opened at an instant and has not grown too old.  While the loop
waits, its wait ends before the batch is too old; a loop that hands over a batch or has ended
has none in progress. -/
def IsYoung (loop : FlushLoop) (first now : Instant) : Prop :=
  first ≤ now ∧
    match loop.phase with
    | .polling => now ≤ first.after loop.accumulator.limits.maxAge
    | .filling => now ≤ first.after loop.accumulator.limits.maxAge
    | .waiting deadline => deadline ≤ first.after loop.accumulator.limits.maxAge
    | _ => False

end FlushLoop

namespace Conveyor

/-! ## Virtual time -/

/-- What the loop does by itself. -/
def ownEvents : List Event :=
  [.look, .receive, .runDry, .lapse, .stop]

/-- Whether the loop has nothing to do at the present instant. -/
def isAtRest (conveyor : Conveyor) : Bool :=
  ownEvents.all fun event => (conveyor.happen? event).isNone

/-- The instant until which the loop waits for an operation, if it waits. -/
def deadline? (conveyor : Conveyor) : Option Instant :=
  match conveyor.loop.phase with
  | .waiting deadline => some deadline
  | _ => none

/-- Whether an event fits virtual time: time goes on only while the loop is at rest, and not
beyond the end of its wait. -/
def isInTime (conveyor : Conveyor) : Event → Bool
  | .wait instant => conveyor.isAtRest && conveyor.deadline?.all (instant ≤ ·)
  | _ => true

/-- The conveyor after some events in virtual time, with what is told of them and when, if they
are possible. -/
def runInTime? (conveyor : Conveyor) :
    List Event → Option (List (Instant × Record) × Conveyor)
  | [] => some ([], conveyor)
  | event :: rest =>
      if conveyor.isInTime event then
        (conveyor.happen? event).bind fun next =>
          (next.runInTime? rest).map fun (later, last) =>
            ((conveyor.records next event).map (conveyor.now, ·) ++ later, last)
      else
        none

/-- What one event in virtual time keeps, with what is told of it, a whole run keeps. -/
theorem runInTime?_induction
    (holds : List (Instant × Record) → Conveyor → Prop)
    (step : ∀ {told conveyor event next}, holds told conveyor →
      conveyor.isInTime event = true → conveyor.happen? event = some next →
      holds (told ++ (conveyor.records next event).map (conveyor.now, ·)) next)
    {events : List Event}
    {first last : Conveyor}
    {earlier later : List (Instant × Record)}
    (start : holds earlier first)
    (ran : first.runInTime? events = some (later, last)) :
    holds (earlier ++ later) last := by
  induction events generalizing first earlier later with
  | nil =>
      obtain ⟨rfl, rfl⟩ := Prod.mk.inj (Option.some.inj ran)
      rwa [List.append_nil]
  | cons event rest inductionHypothesis =>
      obtain ⟨inTime, ran⟩ := Option.ite_none_right_eq_some.mp ran
      obtain ⟨next, happened, remains⟩ := Option.bind_eq_some_iff.mp ran
      obtain ⟨⟨told, reached⟩, ranOn, same⟩ := Option.map_eq_some_iff.mp remains
      obtain ⟨rfl, rfl⟩ := Prod.mk.inj same
      rw [← List.append_assoc]
      exact inductionHypothesis (step start inTime happened) ranOn

/-- The operations popped since a batch was last submitted, each with its instant. -/
def unsubmitted (told : List (Instant × Record)) : List (Instant × Operation) :=
  told.foldl
    (fun pops entry =>
      match entry.2 with
      | .popped operation => pops ++ [(entry.1, operation)]
      | .submitted _ => []
      | _ => pops)
    []

end Conveyor

/--
A batch that is submitted at an instant when the limits have it, where the operations popped
since the batch before it are given with their instants.  They are those of the batch, which is
not older than the age in the limits; either it is complete and its last operation was popped at
that instant, or it is smaller and has exactly the age.
-/
structure BatchLimits.Times (limits : BatchLimits) (pops : List (Instant × Operation))
    (batch : Batch) (instant : Instant) : Prop where
  operations : pops.map Prod.snd = batch.operations
  timely : ∃ first last, pops.head? = some first ∧ pops.getLast? = some last ∧
    instant ≤ first.1.after limits.maxAge ∧
    (batch.size = max 1 limits.maxSize ∧ last.1 = instant ∨
      batch.size < max 1 limits.maxSize ∧ instant = first.1.after limits.maxAge)

namespace Conveyor

variable {limits : BatchLimits} {conveyor next : Conveyor} {event : Event}
  {told news : List (Instant × Record)}

@[simp] theorem unsubmitted_append_popped
    (told : List (Instant × Record))
    (instant : Instant)
    (operation : Operation) :
    unsubmitted (told ++ [(instant, .popped operation)]) =
      unsubmitted told ++ [(instant, operation)] :=
  List.foldl_append

@[simp] theorem unsubmitted_append_submitted
    (told : List (Instant × Record))
    (instant : Instant)
    (batch : Batch) :
    unsubmitted (told ++ [(instant, .submitted batch)]) = [] :=
  List.foldl_append

/-- Only pops and submissions change what has been popped and not submitted. -/
theorem unsubmitted_append_of_forall
    (silent : ∀ entry ∈ news, (∀ operation, entry.2 ≠ .popped operation) ∧
      ∀ batch, entry.2 ≠ .submitted batch) :
    unsubmitted (told ++ news) = unsubmitted told := by
  unfold unsubmitted
  rw [List.foldl_append]
  generalize told.foldl _ [] = pops
  induction news with
  | nil => rfl
  | cons entry rest inductionHypothesis =>
      obtain ⟨instant, record⟩ := entry
      have here := silent _ List.mem_cons_self
      have remaining := inductionHypothesis fun other present =>
        silent other (List.mem_cons_of_mem _ present)
      rw [List.foldl_cons]
      cases record with
      | popped operation => exact absurd rfl (here.1 operation)
      | submitted batch => exact absurd rfl (here.2 batch)
      | sent _ | accepted _ | refused _ => exact remaining

/-- Whether a record fits what was told before it: a batch is submitted when the limits have
it. -/
def IsTimely (limits : BatchLimits) (before : List (Instant × Record))
    (entry : Instant × Record) : Prop :=
  ∀ batch, entry.2 = .submitted batch → limits.Times (unsubmitted before) batch entry.1

/-- Records without submissions are timely wherever they come. -/
theorem isTimely_of_forall
    (silent : ∀ entry ∈ news, ∀ batch, entry.2 ≠ .submitted batch) :
    ∀ entry ∈ news, ∀ before, IsTimely limits before entry :=
  fun entry present _ batch same => absurd same (silent entry present batch)

/-! ## One signal -/

/-- A loop at an instant, with what has been told so far.  While it has not ended, the operations
popped and not submitted are those of the batch in progress, the first of them opened it, and it
has not grown too old. -/
structure IsPunctual (limits : BatchLimits) (told : List (Instant × Record)) (loop : FlushLoop)
    (now : Instant) : Prop where
  sound : loop.IsSound limits
  opened : loop.leftover? = none →
    loop.accumulator.openedAt = (unsubmitted told).head?.map Prod.fst
  held : loop.leftover? = none → (unsubmitted told).map Prod.snd = loop.accumulator.held
  young : ∀ first, loop.accumulator.openedAt = some first → loop.IsYoung first now
  patient : ∀ deadline, loop.phase = .waiting deadline → now ≤ deadline
  timely : History.Each (IsTimely limits) told

variable {loop later : FlushLoop} {now : Instant} {signal : FlushSignal}

theorem isPunctual_new (limits : BatchLimits) (now : Instant) :
    IsPunctual limits [] (FlushLoop.new limits) now where
  sound := FlushLoop.isSound_new limits
  opened _ := rfl
  held _ := rfl
  young _ opened := by cases opened
  patient _ waiting := by cases waiting
  timely := History.each_nil _

/-- The batch in progress of a running loop, as it was popped. -/
theorem IsPunctual.exists_first
    (punctual : IsPunctual limits told loop now)
    (running : loop.leftover? = none)
    {first : Instant}
    (opened : loop.accumulator.openedAt = some first) :
    ∃ operation later, unsubmitted told = (first, operation) :: later := by
  have heads := punctual.opened running
  rw [opened] at heads
  obtain ⟨⟨instant, operation⟩, head, rfl⟩ := Option.map_eq_some_iff.mp heads.symm
  obtain ⟨later, pops⟩ := List.head?_eq_some_iff.mp head
  exact ⟨operation, later, pops⟩

/-- A batch that is submitted when the limits have it leaves nothing in progress. -/
theorem isPunctual_of_submitted
    {accumulator : Accumulator}
    {batch : Batch}
    (timely : History.Each (IsTimely limits) told)
    (times : limits.Times (unsubmitted told) batch now)
    (sound : FlushLoop.IsSound limits ⟨accumulator.take.2, .submitting batch⟩) :
    IsPunctual limits (told ++ [(now, .submitted batch)])
      ⟨accumulator.take.2, .submitting batch⟩ now where
  sound := sound
  opened _ := (congrArg (·.head?.map Prod.fst) (unsubmitted_append_submitted told now batch)).symm
  held _ := congrArg (List.map Prod.snd) (unsubmitted_append_submitted told now batch)
  young _ opened := by cases opened
  patient _ waiting := by cases waiting
  timely := by
    apply timely.concat
    rintro submitted ⟨⟩
    exact times

/-- A batch that is due is submitted at exactly the age in the limits, and a loop with a batch
that is not due waits no longer than until it is. -/
theorem IsPunctual.look
    (punctual : IsPunctual limits told loop now)
    (polling : loop.phase = .polling) :
    IsPunctual limits
      (told ++ (signalRecords loop (loop.look now) .look).map (now, ·)) (loop.look now) now := by
  have sound := FlushLoop.isSound_look punctual.sound now
  have running : loop.leftover? = none := by rw [FlushLoop.leftover?, polling]
  have young : ∀ first, loop.accumulator.openedAt = some first →
      first ≤ now ∧ now ≤ first.after limits.maxAge := by
    intro first opened
    have := punctual.young first opened
    rwa [FlushLoop.IsYoung, polling, punctual.sound.limited] at this
  rcases Accumulator.takeDue_cases punctual.sound.accumulator now with ⟨due, -⟩ | notDue
  · have looked : loop.look now =
        ⟨loop.accumulator.take.2, .submitting ⟨loop.accumulator.held⟩⟩ := by
      rw [FlushLoop.look, due]
    rw [looked] at sound ⊢
    obtain ⟨first, opened, reached⟩ := Accumulator.due_of_takeDue due
    rw [punctual.sound.limited] at reached
    obtain ⟨operation, later, pops⟩ := punctual.exists_first running opened
    obtain ⟨came, bound⟩ := young first opened
    have age : now = first.after limits.maxAge :=
      Nat.le_antisymm bound ((Nat.le_sub_iff_add_le' came).mp reached)
    have small := punctual.sound.accumulator.short
    rw [punctual.sound.limited] at small
    refine isPunctual_of_submitted punctual.timely ⟨punctual.held running, ?_⟩ sound
    rw [pops]
    exact ⟨_, _, rfl, List.getLast?_cons, bound, .inr ⟨small, age⟩⟩
  · have looked : loop.look now =
        ⟨loop.accumulator,
          .waiting (Instant.after now (FlushLoop.patience loop.accumulator now))⟩ := by
      rw [FlushLoop.look, notDue]
    rw [looked] at sound ⊢
    have silent : told ++ (signalRecords loop ⟨loop.accumulator, .waiting
        (Instant.after now (FlushLoop.patience loop.accumulator now))⟩ .look).map (now, ·) = told :=
      List.append_nil told
    rw [silent]
    refine ⟨sound, fun _ => punctual.opened running, fun _ => punctual.held running, ?_, ?_,
      punctual.timely⟩
    · intro first opened
      obtain ⟨came, bound⟩ := young first opened
      rw [← punctual.sound.limited] at bound
      exact ⟨came, FlushLoop.after_patience_le opened bound⟩
    · intro deadline waiting
      obtain rfl := FlushPhase.waiting.inj waiting
      exact Nat.le_add_right now _

/-- An operation that is popped opens the batch unless there is one in progress. -/
theorem IsPunctual.head_popped
    (punctual : IsPunctual limits told loop now)
    (running : loop.leftover? = none)
    (operation : Operation) :
    (unsubmitted told ++ [(now, operation)]).head?.map Prod.fst =
      if loop.accumulator.held.isEmpty then some now else loop.accumulator.openedAt := by
  rw [← punctual.held running, punctual.opened running]
  cases unsubmitted told <;> rfl

/-- An operation that completes the batch in progress has it submitted at once. -/
theorem IsPunctual.receive
    (punctual : IsPunctual limits told loop now)
    (running : loop.leftover? = none)
    (young : ∀ first, loop.accumulator.openedAt = some first →
      first ≤ now ∧ now ≤ first.after limits.maxAge)
    (operation : Operation) :
    IsPunctual limits
      (told ++ (signalRecords loop (loop.receive operation now) (.receive operation)).map (now, ·))
      (loop.receive operation now) now := by
  have sound := FlushLoop.isSound_receive punctual.sound operation now
  have popped : History.Each (IsTimely limits) (told ++ [(now, .popped operation)]) := by
    apply punctual.timely.append_of_forall
    apply isTimely_of_forall
    simp
  have pops := unsubmitted_append_popped told now operation
  have heads := punctual.head_popped running operation
  have bound : ∀ first,
      (unsubmitted told ++ [(now, operation)]).head?.map Prod.fst = some first →
        first ≤ now ∧ now ≤ first.after limits.maxAge := by
    intro first head
    rw [heads] at head
    split at head
    · obtain rfl := Option.some.inj head
      exact ⟨Nat.le_refl now, Nat.le_add_right now _⟩
    · exact young first head
  rcases Accumulator.push_cases punctual.sound.accumulator operation now with
    ⟨batch, complete, operations, size⟩ | ⟨grown, growing, held, limited, stillSound⟩
  · have received : loop.receive operation now =
        ⟨loop.accumulator.take.2, .submitting batch⟩ := by
      rw [FlushLoop.receive, complete]
    rw [received] at sound ⊢
    rw [punctual.sound.limited] at size
    have both : told ++ (signalRecords loop ⟨loop.accumulator.take.2, .submitting batch⟩
        (.receive operation)).map (now, ·) =
        told ++ [(now, .popped operation)] ++ [(now, .submitted batch)] := by
      rw [List.append_assoc]
      rfl
    rw [both]
    refine isPunctual_of_submitted popped ?_ sound
    rw [pops]
    obtain ⟨first, head⟩ : ∃ first,
        (unsubmitted told ++ [(now, operation)]).head? = some first := by
      cases unsubmitted told <;> exact ⟨_, rfl⟩
    refine ⟨?_, first, (now, operation), head, List.getLast?_concat, ?_, .inl ⟨size, rfl⟩⟩
    · rw [List.map_append, punctual.held running, operations]
      rfl
    · exact (bound first.1 (by rw [head]; rfl)).2
  · have received : loop.receive operation now = ⟨grown, .filling⟩ := by
      rw [FlushLoop.receive, growing]
    rw [received] at sound ⊢
    have single : told ++ (signalRecords loop ⟨grown, .filling⟩ (.receive operation)).map
        (now, ·) = told ++ [(now, .popped operation)] := rfl
    have opened := Accumulator.openedAt_of_push growing
    rw [single]
    refine ⟨sound, fun _ => ?_, fun _ => ?_, ?_, (fun _ waiting => by cases waiting), popped⟩
    · rw [pops, heads, opened]
    · rw [pops, List.map_append, punctual.held running, held]
      rfl
    · intro first open_
      rw [opened, ← heads] at open_
      rw [FlushLoop.IsYoung, sound.limited]
      exact bound first open_

/-- Records of neither pops nor submissions are punctual as far as the loop goes on with the same
batch in progress. -/
theorem IsPunctual.idle
    (punctual : IsPunctual limits told loop now)
    (silent : ∀ entry ∈ news, (∀ operation, entry.2 ≠ .popped operation) ∧
      ∀ batch, entry.2 ≠ .submitted batch)
    (sound : later.IsSound limits)
    (same : later.leftover? = none →
      loop.leftover? = none ∧ later.accumulator = loop.accumulator)
    (young : ∀ first, later.accumulator.openedAt = some first → later.IsYoung first now)
    (patient : ∀ deadline, later.phase = .waiting deadline → now ≤ deadline) :
    IsPunctual limits (told ++ news) later now := by
  refine ⟨sound, fun going => ?_, fun going => ?_, young, patient,
    punctual.timely.append_of_forall
      (isTimely_of_forall fun entry present => (silent entry present).2)⟩
  · obtain ⟨running, same⟩ := same going
    rw [unsubmitted_append_of_forall silent, same]
    exact punctual.opened running
  · obtain ⟨running, same⟩ := same going
    rw [unsubmitted_append_of_forall silent, same]
    exact punctual.held running

/-- Every signal leaves the records punctual. -/
theorem IsPunctual.react
    (punctual : IsPunctual limits told loop now)
    (reacted : loop.react? now signal = some later) :
    IsPunctual limits (told ++ (signalRecords loop later signal).map (now, ·)) later now := by
  have running := leftover?_of_react? reacted
  have sound := FlushLoop.isSound_react? punctual.sound reacted
  have young := punctual.young
  have patient := punctual.patient
  obtain rfl := punctual.sound.limited
  have waited : ∀ {deadline}, loop.phase = .waiting deadline →
      ∀ first, loop.accumulator.openedAt = some first →
        first ≤ now ∧ now ≤ first.after loop.accumulator.limits.maxAge := by
    intro deadline waiting first opened
    obtain ⟨came, bound⟩ := young first opened
    rw [waiting] at bound
    exact ⟨came, Nat.le_trans (patient deadline waiting) bound⟩
  have filled : loop.phase = .filling → ∀ first, loop.accumulator.openedAt = some first →
      first ≤ now ∧ now ≤ first.after loop.accumulator.limits.maxAge := by
    intro filling first opened
    have := young first opened
    rwa [FlushLoop.IsYoung, filling] at this
  cases FlushLoop.reaction_of_react? reacted with
  | look polling => exact punctual.look polling
  | receive waiting => exact punctual.receive running (waited waiting) _
  | fill filling => exact punctual.receive running (filled filling) _
  | runDry filling =>
      exact punctual.idle (by simp [signalRecords]) sound (fun _ => ⟨running, rfl⟩)
        (filled filling) fun _ waiting => by cases waiting
  | lapse waiting _ =>
      exact punctual.idle (by simp [signalRecords]) sound (fun _ => ⟨running, rfl⟩)
        (waited waiting) fun _ waiting => by cases waiting
  | stop _ =>
      exact punctual.idle (by simp [signalRecords]) sound (fun going => by cases going)
        (fun _ opened => by cases opened) fun _ waiting => by cases waiting
  | accept submitting =>
      refine punctual.idle ?_ sound (fun _ => ⟨running, rfl⟩) ?_ fun _ waiting => by cases waiting
      · simp [FlushLoop.offered?, submitting]
      · intro first opened
        have := young first opened
        rw [FlushLoop.IsYoung, submitting] at this
        exact this.2.elim
  | refuse submitting =>
      refine punctual.idle ?_ sound (fun going => by cases going)
        (fun _ opened => by cases opened) fun _ waiting => by cases waiting
      simp [FlushLoop.offered?, submitting]

/-! ## Time goes on -/

/-- A conveyor at rest has ended, is handing over a batch, or waits and its wait is not over. -/
theorem phase_of_isAtRest (resting : conveyor.isAtRest = true) :
    match conveyor.loop.phase with
    | .polling => False
    | .filling => False
    | .waiting deadline => conveyor.now < deadline
    | _ => True := by
  have idle : ∀ event ∈ ownEvents, conveyor.happen? event = none := by
    intro event present
    exact Option.isNone_iff_eq_none.mp (List.all_eq_true.mp resting event present)
  split
  · next polling =>
      have looked := idle .look (by simp [ownEvents])
      simp [happen?, react?, cue?, FlushLoop.react?, polling] at looked
  · next filling =>
      have received := idle .receive (by simp [ownEvents])
      have ranDry := idle .runDry (by simp [ownEvents])
      cases items : conveyor.queue.items with
      | nil => simp [happen?, react?, cue?, FlushLoop.react?, filling, items] at ranDry
      | cons operation rest =>
          simp [happen?, react?, cue?, FlushLoop.react?, isWaiting, filling, Queue.pop?, items]
            at received
  · next deadline waiting =>
      have received := idle .receive (by simp [ownEvents])
      have lapsed := idle .lapse (by simp [ownEvents])
      have stopped := idle .stop (by simp [ownEvents])
      cases cancelled : conveyor.cancelled with
      | true => simp [happen?, react?, cue?, FlushLoop.react?, waiting, cancelled] at stopped
      | false =>
          cases items : conveyor.queue.items with
          | nil =>
              simpa [happen?, react?, cue?, FlushLoop.react?, waiting, cancelled, items]
                using lapsed
          | cons operation rest =>
              simp [happen?, react?, cue?, FlushLoop.react?, isWaiting, waiting, cancelled,
                Queue.pop?, items] at received
  · trivial

/-- A loop that is left alone stays punctual as long as its wait is not over: a loop that still
polls or fills is not at rest, and a wait ends when it did. -/
theorem IsPunctual.wait
    {instant : Instant}
    (punctual : IsPunctual limits told conveyor.loop conveyor.now)
    (inTime : conveyor.isInTime (.wait instant) = true)
    (forward : conveyor.now ≤ instant) :
    IsPunctual limits told conveyor.loop instant := by
  obtain ⟨resting, inWait⟩ := Bool.and_eq_true_iff.mp inTime
  have rest := phase_of_isAtRest resting
  refine ⟨punctual.sound, punctual.opened, punctual.held, ?_, ?_, punctual.timely⟩
  · intro first opened
    obtain ⟨came, young⟩ := punctual.young first opened
    refine ⟨Nat.le_trans came forward, ?_⟩
    split at young
    · next polling => simp only [polling] at rest
    · next filling => simp only [filling] at rest
    · exact young
    · exact young.elim
  · intro deadline waiting
    rw [deadline?, waiting] at inWait
    simpa using inWait

theorem now_of_react? (happened : conveyor.react? event = some next) :
    next.now = conveyor.now := by
  obtain ⟨⟨signal, queue⟩, -, remains⟩ := Option.bind_eq_some_iff.mp happened
  obtain ⟨loop, -, rfl⟩ := Option.map_eq_some_iff.mp remains
  rfl

/-- Only waiting takes time. -/
theorem now_of_happen?
    (noWait : ∀ instant, event ≠ .wait instant)
    (happened : conveyor.happen? event = some next) :
    next.now = conveyor.now := by
  cases event with
  | wait instant => exact absurd rfl (noWait instant)
  | send operations =>
      obtain ⟨-, happened⟩ := Option.ite_none_right_eq_some.mp happened
      exact Option.some.inj happened ▸ rfl
  | offer sender operation | line sender =>
      obtain ⟨-, happened⟩ := Option.ite_none_right_eq_some.mp happened
      obtain ⟨queue, -, rfl⟩ := Option.map_eq_some_iff.mp happened
      rfl
  | withdraw sender | dropSender | cancel => exact Option.some.inj happened ▸ rfl
  | look | receive | runDry | lapse | stop | accept | refuse => exact now_of_react? happened

/-- Every event in virtual time leaves the records punctual. -/
theorem IsPunctual.happen
    (punctual : IsPunctual limits told conveyor.loop conveyor.now)
    (inTime : conveyor.isInTime event = true)
    (happened : conveyor.happen? event = some next) :
    IsPunctual limits (told ++ (conveyor.records next event).map (conveyor.now, ·)) next.loop
      next.now := by
  by_cases waits : ∃ instant, event = .wait instant
  · obtain ⟨instant, rfl⟩ := waits
    obtain ⟨forward, happened⟩ := Option.ite_none_right_eq_some.mp happened
    obtain rfl := Option.some.inj happened
    have silent : told ++ (conveyor.records { conveyor with now := instant } (.wait instant)).map
        (conveyor.now, ·) = told := List.append_nil told
    rw [silent]
    exact punctual.wait inTime forward
  · have now : next.now = conveyor.now :=
      now_of_happen? (fun instant same => waits ⟨instant, same⟩) happened
    rw [now]
    cases move_of_happen? happened with
    | signal signal cued reacted items noneTaken =>
        have records : conveyor.records next event =
            signalRecords conveyor.loop next.loop signal := by
          rw [Conveyor.records, cued, noneTaken]
          rfl
        rw [records]
        exact punctual.react reacted
    | outside noCue sameLoop items =>
        have records : conveyor.records next event = (conveyor.taken event).map .sent := by
          rw [Conveyor.records, noCue, List.append_nil]
        rw [records, sameLoop]
        exact punctual.idle (by simp) punctual.sound (fun running => ⟨running, rfl⟩)
          punctual.young punctual.patient

/-! ## Runs -/

/-- A conveyor in virtual time, from a loop that has taken nothing yet. -/
theorem isPunctual_of_runInTime?
    {capacity : Nat}
    {start : Instant}
    {events : List Event}
    {last : Conveyor}
    (ran : (new limits capacity start).runInTime? events = some (told, last)) :
    IsPunctual limits told last.loop last.now := by
  have punctual := runInTime?_induction
    (fun told conveyor => IsPunctual limits told conveyor.loop conveyor.now)
    IsPunctual.happen (isPunctual_new limits start) ran
  exact punctual

/-- A batch for which the loop is still waiting has not reached the age in the limits. -/
theorem IsPunctual.lt_of_waiting
    {deadline : Instant}
    (punctual : IsPunctual limits told loop now)
    (waiting : loop.phase = .waiting deadline)
    (still : now < deadline)
    (nonempty : loop.accumulator.held ≠ []) :
    ∃ first operation rest, unsubmitted told = (first, operation) :: rest ∧
      (unsubmitted told).map Prod.snd = loop.accumulator.held ∧
      now < first.after limits.maxAge := by
  have running : loop.leftover? = none := by rw [FlushLoop.leftover?, waiting]
  obtain ⟨first, opened⟩ := Option.isSome_iff_exists.mp
    (punctual.sound.accumulator.opened.mpr nonempty)
  obtain ⟨operation, rest, pops⟩ := punctual.exists_first running opened
  obtain ⟨-, young⟩ := punctual.young first opened
  rw [waiting, punctual.sound.limited] at young
  exact ⟨first, operation, rest, pops, punctual.held running, Nat.lt_of_lt_of_le still young⟩

/--
In virtual time, whatever is sent, cancelled or refused and however long the sink takes over a
batch: the operations of every submitted batch are those popped since the submission before it,
the batch is not older than the age in the limits, and either it is complete and its last
operation was popped at that instant, or it is smaller and has exactly that age.  A batch in
progress for which the loop still waits, as it does whenever it waits and is at rest, is strictly
younger.
-/
theorem submits_in_time
    {capacity : Nat}
    {start : Instant}
    {events : List Event}
    {last : Conveyor}
    (ran : (new limits capacity start).runInTime? events = some (told, last)) :
    (∀ before instant batch after, told = before ++ (instant, .submitted batch) :: after →
      limits.Times (unsubmitted before) batch instant) ∧
    ∀ deadline, last.loop.phase = .waiting deadline →
      last.isAtRest = true ∨ last.now < deadline → last.loop.accumulator.held ≠ [] →
        ∃ first operation rest, unsubmitted told = (first, operation) :: rest ∧
          (unsubmitted told).map Prod.snd = last.loop.accumulator.held ∧
          last.now < first.after limits.maxAge := by
  have punctual := isPunctual_of_runInTime? ran
  refine ⟨fun before _ batch after split => punctual.timely before _ after split batch rfl, ?_⟩
  intro deadline waiting still nonempty
  apply punctual.lt_of_waiting waiting _ nonempty
  rcases still with resting | before
  · have rest := phase_of_isAtRest resting
    rwa [waiting] at rest
  · exact before

/-- The batches submitted, with their instants. -/
def submissions (told : List (Instant × Record)) : List (Instant × Batch) :=
  told.filterMap fun entry =>
    match entry.2 with
    | .submitted batch => some (entry.1, batch)
    | _ => none

/-- Two operations make a batch complete, the sink takes its time over it, the third operation is
submitted for its age, and the fourth one still waits. -/
def slowSink : List Event :=
  [.send [.delete "a", .delete "b"], .look, .receive, .receive, .wait 5, .accept, .look,
    .send [.delete "c"], .receive, .runDry, .look, .wait 15, .lapse, .look, .wait 20, .accept,
    .look, .send [.delete "d"], .receive, .runDry, .look, .wait 29]

/-- In front of a slow sink, with two operations to a batch and the age ten, a complete batch is
submitted at once and a smaller one at its age. -/
theorem submits_in_time_slowSink :
    ∃ told last, (new ⟨2, ⟨10⟩⟩ 4 0).runInTime? slowSink = some (told, last) ∧
      (submissions told).map (fun entry => (entry.1, entry.2.operations.map Operation.laneKey)) =
        [(0, ["a", "b"]), (15, ["c"])] ∧
      last.now = 29 ∧ last.deadline? = some 30 ∧
      last.loop.accumulator.held.map Operation.laneKey = ["d"] ∧
      (∀ before instant batch after, told = before ++ (instant, .submitted batch) :: after →
        BatchLimits.Times ⟨2, ⟨10⟩⟩ (unsubmitted before) batch instant) ∧
      ∃ first operation rest, unsubmitted told = (first, operation) :: rest ∧
        29 < first.after ⟨10⟩ := by
  have evaluated : ((new ⟨2, ⟨10⟩⟩ 4 0).runInTime? slowSink).map (fun reached =>
        ((submissions reached.1).map
            (fun entry => (entry.1, entry.2.operations.map Operation.laneKey)),
          reached.2.now, reached.2.deadline?,
          reached.2.loop.accumulator.held.map Operation.laneKey)) =
      some ([(0, ["a", "b"]), (15, ["c"])], 29, some 30, ["d"]) := by decide +kernel
  obtain ⟨⟨told, last⟩, ran, facts⟩ := Option.map_eq_some_iff.mp evaluated
  simp only [Prod.mk.injEq] at facts
  obtain ⟨submitted, now, deadline, held⟩ := facts
  have waiting : last.loop.phase = .waiting 30 := by
    unfold deadline? at deadline
    split at deadline
    · next waiting => rw [waiting, Option.some.inj deadline]
    · cases deadline
  have nonempty : last.loop.accumulator.held ≠ [] := by
    intro empty
    rw [empty] at held
    cases held
  obtain ⟨timely, young⟩ := submits_in_time ran
  obtain ⟨first, operation, rest, pops, -, younger⟩ :=
    young 30 waiting (.inr (by rw [now]; decide)) nonempty
  rw [now] at younger
  exact ⟨told, last, ran, submitted, now, deadline, held, timely, first, operation, rest, pops,
    younger⟩

end Conveyor
end FuzzIntake
