import FuzzIntake.Proofs.Intake.Conservation
import FuzzIntake.Proofs.Intake.Motion

/-!
# Operations sent too late

The queue is emptied once the flush loop has ended, and stays open until the warehouse is
closed.  What others send meanwhile is taken and never looked at again: it is neither written
nor given up nor left over.  The queue refuses to take more exactly if the intake has finished,
nobody else can send, or there is no room.
-/

namespace FuzzIntake

namespace Queue

theorem line_of_pop?
    {queue next : Queue}
    {operation : Operation}
    (popped : queue.pop? = some (operation, next)) :
    next.line = queue.line := by
  rw [pop?] at popped
  split at popped
  · cases popped
  · obtain ⟨-, rfl⟩ := Prod.mk.inj (Option.some.inj popped)
    rfl

/-- Who sends without waiting does not stand in line. -/
theorem line_sendAll (queue : Queue) (operations : List Operation) :
    (queue.sendAll operations).2.line = queue.line := by
  induction operations generalizing queue with
  | nil => rfl
  | cons operation rest inductionHypothesis =>
      rw [sendAll]
      split
      · rfl
      · next next sent =>
          obtain ⟨-, sent⟩ := Option.ite_none_right_eq_some.mp sent
          obtain rfl := Option.some.inj sent
          exact inductionHypothesis _

/-- A queue without room takes nothing that is sent without waiting. -/
theorem sendAll_of_full
    {queue : Queue}
    (full : queue.hasRoom = false)
    (operations : List Operation) :
    (queue.sendAll operations).1 = 0 := by
  cases operations with
  | nil => rfl
  | cons operation rest => simp [sendAll, trySend?, full]

/-- Who leaves the line does not stand in it any more, and nobody joins it. -/
theorem mem_line_leave
    {queue : Queue}
    {sender other : Nat} :
    other ∈ (queue.leave sender).line ↔ other ∈ queue.line ∧ other ≠ sender := by
  rw [leave, List.mem_filter, bne_iff_ne]

theorem line_of_send?
    {queue next : Queue}
    {sender : Nat}
    {operation : Operation}
    (sent : queue.send? sender operation = some next) :
    next.line = (queue.leave sender).line := by
  obtain ⟨-, sent⟩ := Option.ite_none_right_eq_some.mp sent
  obtain rfl := Option.some.inj sent
  rfl

theorem line_of_stand?
    {queue next : Queue}
    {sender : Nat}
    (stood : queue.stand? sender = some next) :
    next.line = queue.line ++ [sender] := by
  obtain ⟨-, stood⟩ := Option.ite_none_left_eq_some.mp stood
  obtain rfl := Option.some.inj stood
  rfl

end Queue

/-- A consumer that has an operation on offer does nothing at its broker. -/
theorem Consumer.offered?_of_move?
    {consumer next : Consumer}
    {now : Instant}
    {cancelled : Bool}
    {switched after : SwitchedBroker}
    {move : Consumer.Move}
    (moved : consumer.move? now cancelled switched move = some (next, after)) :
    consumer.offered? = none := by
  rw [offered?]
  split
  · next entry operation rest enqueuing =>
      cases move <;> simp [move?, enqueuing] at moved
  · rfl

namespace Intake

variable {intake next : Intake} {event : Event}

/-! ## Who stands in line -/

/-- An intake in which a consumer that stands in line still has its operation on offer. -/
def IsLinedUp (intake : Intake) : Prop :=
  ∀ index ∈ intake.queue.line, ∀ source, intake.sources[index]? = some source →
    source.consumer.offered? ≠ none

/-- Where nobody joins the line and no source changes, the line stays as it should be. -/
theorem IsLinedUp.of_same
    (lined : intake.IsLinedUp)
    (line : next.queue.line ⊆ intake.queue.line)
    (sources : next.sources = intake.sources) :
    next.IsLinedUp :=
  fun index present source found => lined index (line present) source (sources ▸ found)

/-- A source may change if it does not stand in line or still has its operation on offer. -/
theorem IsLinedUp.of_source
    {index : Nat}
    {later : Source}
    (lined : intake.IsLinedUp)
    (line : next.queue.line ⊆ intake.queue.line)
    (replaced : next.sources = intake.sources.set index later)
    (offering : index ∈ next.queue.line → later.consumer.offered? ≠ none) :
    next.IsLinedUp := by
  intro other present source found
  rw [replaced] at found
  by_cases same : index = other
  · subst same
    have inside := (List.getElem?_eq_some_iff.mp found).1
    rw [List.length_set] at inside
    rw [List.getElem?_set_self inside] at found
    exact Option.some.inj found ▸ offering present
  · rw [List.getElem?_set_ne same] at found
    exact lined other (line present) source found

/-- Who joins the line has an operation on offer, or is no source. -/
theorem IsLinedUp.of_stand
    {sender : Nat}
    (lined : intake.IsLinedUp)
    (line : next.queue.line = intake.queue.line ++ [sender])
    (sources : next.sources = intake.sources)
    (offering : ∀ source, intake.sources[sender]? = some source →
      source.consumer.offered? ≠ none) :
    next.IsLinedUp := by
  intro index present source found
  rw [line] at present
  rw [sources] at found
  rcases List.mem_append.mp present with old | new
  · exact lined index old source found
  · rw [List.mem_singleton.mp new] at found
    exact offering source found

/-- Once the consumers have ended, only others stand in line. -/
theorem IsLinedUp.length_le_of_mem_line
    (lined : intake.IsLinedUp)
    (deserted : intake.IsDeserted)
    {sender : Nat}
    (present : sender ∈ intake.queue.line) :
    intake.sources.length ≤ sender := by
  by_contra inside
  have found : intake.sources[sender]? = some intake.sources[sender] :=
    List.getElem?_eq_getElem (Nat.lt_of_not_le inside)
  have offering := lined sender present _ found
  rw [Consumer.offered?] at offering
  split at offering
  · next entry operation rest enqueuing =>
      refine deserted _ (List.mem_of_getElem? found) ?_
      rw [Consumer.result?, enqueuing]
  · exact offering rfl

/-! ## What an event does to the queue at the end -/

/-- What an event does to a queue that is drained or about to be, and to its line. -/
structure Tail (intake : Intake) (event : Event) (next : Intake) : Prop where
  stays : intake.isDrained = true → next.isDrained = true ∧
    next.queue.items = intake.queue.items ++ intake.taken event
  begins : intake.isDrained = false → next.isDrained = true → next.queue.items = []
  lined : intake.IsLinedUp → next.IsLinedUp

/-- An event before the queue is drained, and not the one that drains it. -/
theorem tail_of_undrained
    (before : intake.isDrained = false)
    (after : next.isDrained = false)
    (lined : intake.IsLinedUp → next.IsLinedUp) :
    Tail intake event next where
  stays drained := absurd (drained.symm.trans before) Bool.noConfusion
  begins _ drained := absurd (drained.symm.trans after) Bool.noConfusion
  lined := lined

/-- An event while the intake runs. -/
theorem tail_of_running
    (running : intake.stage = .running)
    (sameStage : next.stage = intake.stage)
    (lined : intake.IsLinedUp → next.IsLinedUp) :
    Tail intake event next := by
  refine tail_of_undrained (by rw [isDrained, running]) ?_ lined
  rw [isDrained, sameStage, running]

/-- An event that takes nothing out of the queue, whether it is drained or not. -/
theorem tail_of_taken
    (sameStage : next.stage = intake.stage)
    (items : next.queue.items = intake.queue.items ++ intake.taken event)
    (lined : intake.IsLinedUp → next.IsLinedUp) :
    Tail intake event next := by
  have same : next.isDrained = intake.isDrained := by rw [isDrained, isDrained, sameStage]
  exact {
    stays := fun drained => ⟨same.trans drained, items⟩
    begins := fun undrained drained =>
      absurd (drained.symm.trans (same.trans undrained)) Bool.noConfusion
    lined := lined }

/-- An event that has no effect on the queue and the sources. -/
theorem tail_of_same
    (noneTaken : intake.taken event = [])
    (sameStage : next.stage = intake.stage)
    (sameQueue : next.queue = intake.queue)
    (sameSources : next.sources = intake.sources) :
    Tail intake event next := by
  refine tail_of_taken sameStage ?_ fun lined => lined.of_same ?_ sameSources
  · rw [noneTaken, sameQueue, List.append_nil]
  · rw [sameQueue]
    exact List.Subset.refl _

theorem tail_of_close
    (closed : intake.act? .close = some next) :
    Tail intake (.act .close) next := by
  cases effect_of_act? closed with
  | close collecting empty =>
      have undrained : intake.isDrained = false := by rw [isDrained, collecting]
      exact {
        stays := fun drained => absurd (drained.symm.trans undrained) Bool.noConfusion
        begins := fun _ _ => empty
        lined := fun lined => lined.of_same (List.Subset.refl _) rfl }

theorem tail_of_finish
    (finished : intake.act? .finish = some next) :
    Tail intake (.act .finish) next := by
  cases effect_of_act? finished with
  | finish closing _ =>
      exact {
        stays := fun _ => ⟨rfl, (List.append_nil _).symm⟩
        begins := fun undrained => by simp [isDrained, closing] at undrained
        lined := fun lined => lined.of_same (List.Subset.refl _) rfl }

/-- Only the closing of the warehouse drains the queue, and no action takes anything out of a
drained one: a consumer that stands in line has an operation on offer and makes no move. -/
theorem tail_of_act?
    {action : Action}
    (acted : intake.act? action = some next) :
    Tail intake (.act action) next := by
  cases effect_of_act? acted with
  | @consume index _ source _ _ running found took =>
      refine tail_of_running running rfl fun lined =>
        lined.of_source (List.Subset.refl _) rfl fun present => ?_
      exact absurd (Consumer.offered?_of_move? took) (lined index present source found)
  | enqueue running _ _ _ sent _ =>
      refine tail_of_running running rfl fun lined => lined.of_source ?_ rfl ?_
      · intro other present
        rw [Queue.line_of_send? sent] at present
        exact (Queue.mem_line_leave.mp present).1
      · intro present
        rw [Queue.line_of_send? sent] at present
        exact absurd rfl (Queue.mem_line_leave.mp present).2
  | stand running _ found offered _ joined =>
      refine tail_of_running running rfl fun lined =>
        lined.of_stand (Queue.line_of_stand? joined) rfl fun other same => ?_
      rw [Option.some.inj (same.symm.trans found), offered]
      exact Option.some_ne_none _
  | halt running _ _ _ =>
      refine tail_of_running running rfl fun lined => lined.of_source ?_ rfl ?_
      · exact fun other present => (Queue.mem_line_leave.mp present).1
      · exact fun present => absurd rfl (Queue.mem_line_leave.mp present).2
  | look running _ | runDry running _ _ | lapse running _ _ _ | stopFlush running _ _
  | submit running _ _ _ | refuse running _ _ _ _ =>
      exact tail_of_running running rfl fun lined => lined.of_same (List.Subset.refl _) rfl
  | receive running _ popped _ =>
      exact tail_of_running running rfl fun lined =>
        lined.of_same (Queue.line_of_pop? popped ▸ List.Subset.refl _) rfl
  | work _ _ | release _ _ _ _ => exact tail_of_same rfl rfl rfl rfl
  | collect running _ _ =>
      refine tail_of_undrained (by rw [isDrained, running]) rfl fun lined => ?_
      exact lined.of_same (List.Subset.refl _) rfl
  | gather collecting popped =>
      refine tail_of_undrained (by rw [isDrained, collecting]) rfl fun lined => ?_
      exact lined.of_same (Queue.line_of_pop? popped ▸ List.Subset.refl _) rfl
  | close _ _ => exact tail_of_close acted
  | finish _ _ => exact tail_of_finish acted

theorem tail_of_send (intake : Intake) (operations : List Operation) :
    Tail intake (.send operations) (intake.send operations).2 := by
  rcases intake.send_cases operations with ⟨-, sent⟩ | refused
  · have taken : intake.taken (.send operations) =
        operations.take (intake.queue.sendAll operations).1 := by
      rw [taken_send, sent]
    rw [sent]
    refine tail_of_taken rfl ?_ fun lined => lined.of_same ?_ rfl
    · rw [taken]
      exact intake.queue.items_sendAll operations
    · rw [intake.queue.line_sendAll operations]
      exact List.Subset.refl _
  · have noneTaken : intake.taken (.send operations) = [] := by
      rw [taken_send, refused, List.take_zero]
    rw [refused]
    exact tail_of_same noneTaken rfl rfl rfl

/-- Who is admitted as a sender is none of the sources. -/
theorem getElem?_of_admits
    {sender : Nat}
    (admitted : intake.admits sender = true) :
    intake.sources[sender]? = none := by
  simp only [admits, Bool.and_eq_true, decide_eq_true_eq] at admitted
  exact List.getElem?_eq_none admitted.2

/-- Whatever happens, only the closing of the warehouse drains the queue, and nothing is taken
out of a drained one. -/
theorem tail_of_happen? (happened : intake.happen? event = some next) :
    Tail intake event next := by
  cases occurrence_of_happen? happened with
  | act acted => exact tail_of_act? acted
  | start ready =>
      exact tail_of_undrained (by rw [isDrained, ready]) rfl fun lined =>
        lined.of_same (List.Subset.refl _) rfl
  | send operations => exact tail_of_send intake operations
  | offer _ sent =>
      refine tail_of_taken rfl (Queue.items_of_send? sent) fun lined => lined.of_same ?_ rfl
      intro other present
      rw [Queue.line_of_send? sent] at present
      exact (Queue.mem_line_leave.mp present).1
  | line admitted joined =>
      refine tail_of_taken rfl ?_ fun lined =>
        lined.of_stand (Queue.line_of_stand? joined) rfl fun source found => ?_
      · exact (Queue.items_of_stand? joined).trans (List.append_nil _).symm
      · rw [getElem?_of_admits admitted] at found
        cases found
  | withdraw _ =>
      exact tail_of_taken rfl (List.append_nil _).symm fun lined =>
        lined.of_same (fun other present => (Queue.mem_line_leave.mp present).1) rfl
  | @callBroker index _ source _ found _ | @crashReads index source _ found =>
      exact tail_of_taken rfl (List.append_nil _).symm fun lined =>
        lined.of_source (List.Subset.refl _) rfl fun present => lined index present source found
  | startAgain _ | cancel | wait _ | dropSender | touchStore _ | delayStore _ | crashStore _ =>
      exact tail_of_same rfl rfl rfl rfl

/-! ## What stays in the queue -/

/-- A ledger that knows what a drained queue holds, beside an intake whose line is in order. -/
structure IsStranding (ledger : Ledger) (intake : Intake) : Prop where
  undrained : intake.isDrained = false → ledger.late = []
  drained : intake.isDrained = true → intake.queue.items = ledger.late
  lined : intake.IsLinedUp
  deserted : intake.flushCancelled = true ∨ ¬ intake.IsReading → intake.IsDeserted

theorem isStranding_ofSources
    (settings : IntakeSettings)
    (workers : Nat)
    (shared : Bool)
    (sources : List Source) :
    IsStranding .empty (ofSources settings workers shared sources) where
  undrained _ := rfl
  drained drained := by cases drained
  lined _ present := absurd present List.not_mem_nil
  deserted stopped := by
    rcases stopped with cancelled | notReading
    · cases cancelled
    · exact absurd (.inl rfl) notReading

/-- What others send changes nothing but the queue. -/
theorem queue_of_isForeignSend
    (foreign : event.IsForeignSend)
    (happened : intake.happen? event = some next) :
    ∃ queue, next = { intake with queue := queue } := by
  cases occurrence_of_happen? happened with
  | send operations =>
      rw [send]
      split
      · exact ⟨_, rfl⟩
      · exact ⟨intake.queue, rfl⟩
  | offer _ _ => exact ⟨_, rfl⟩
  | _ => exact absurd foreign id

/-- An intake reads until its consumers have ended. -/
theorem deserted_of_happen?
    (deserted : intake.flushCancelled = true ∨ ¬ intake.IsReading → intake.IsDeserted)
    (happened : intake.happen? event = some next)
    (stopped : next.flushCancelled = true ∨ ¬ next.IsReading) :
    next.IsDeserted := by
  by_cases foreign : event.IsForeignSend
  · obtain ⟨queue, rfl⟩ := queue_of_isForeignSend foreign happened
    exact deserted stopped
  · have motion : Motion (fun _ => True) intake event next :=
      motion_of_happen? foreign (fun _ _ _ => trivial) happened
    exact motion.deserted deserted stopped

/-- Every event keeps the ledger in step with what a drained queue holds; an event that drains the
queue found it empty. -/
theorem IsStranding.happen
    {ledger : Ledger}
    (stranding : IsStranding ledger intake)
    (happened : intake.happen? event = some next) :
    IsStranding (ledger ++ intake.entry event) next := by
  have tail := tail_of_happen? happened
  refine ⟨fun undrained => ?_, fun drained => ?_, tail.lined stranding.lined,
    deserted_of_happen? stranding.deserted happened⟩
  · cases before : intake.isDrained with
    | true => exact absurd ((tail.stays before).1.symm.trans undrained) Bool.noConfusion
    | false =>
        rw [Ledger.late_append, stranding.undrained before, entry, before]
        rfl
  · cases before : intake.isDrained with
    | true =>
        rw [(tail.stays before).2, stranding.drained before, Ledger.late_append, entry, before]
        rfl
    | false =>
        rw [tail.begins before drained, Ledger.late_append, stranding.undrained before, entry,
          before]
        rfl

theorem isStranding_of_run?
    {settings : IntakeSettings}
    {workers : Nat}
    {shared : Bool}
    {sources : List Source}
    {events : List Event}
    {ledger : Ledger}
    {last : Intake}
    (ran : (ofSources settings workers shared sources).run? events = some (ledger, last)) :
    IsStranding ledger last :=
  run?_induction IsStranding (fun _ _ _ _ _ stranding happened => stranding.happen happened)
    (isStranding_ofSources settings workers shared sources) ran

/-! ## When a late operation is refused -/

/-- Nothing that can happen next brings the queue an operation after it was drained. -/
def RefusesLate (intake : Intake) : Prop :=
  ∀ event next, intake.happen? event = some next → (intake.entry event).late = []

theorem late_entry (drained : intake.isDrained = true) (event : Event) :
    (intake.entry event).late = intake.taken event := by
  rw [entry, if_pos drained]

theorem ne_finished_of_bne
    {stage : Stage}
    (unfinished : (stage != .finished) = true) :
    stage ≠ .finished := by
  rintro rfl
  exact absurd unfinished (by decide)

/-- A drained queue refuses what is sent if nobody can send or there is no room: whoever is admitted
finds the queue without room. -/
theorem refusesLate_of_shut
    (drained : intake.isDrained = true)
    (shut : intake.stage = .finished ∨ intake.hasSender = false ∨
      intake.queue.hasRoom = false) :
    intake.RefusesLate := by
  have full : intake.hasSender = true → intake.stage ≠ .finished →
      intake.queue.hasRoom = false := by
    intro sender running
    rcases shut with finished | nobody | full
    · exact absurd finished running
    · exact absurd (sender.symm.trans nobody) Bool.noConfusion
    · exact full
  intro event next happened
  cases event with
  | send operations =>
      rw [late_entry drained, taken]
      rcases intake.send_cases operations with ⟨⟨sender, unfinished⟩, sent⟩ | refused
      · have noRoom := full sender (ne_finished_of_bne unfinished)
        rw [sent, Queue.sendAll_of_full noRoom, List.take_zero]
      · rw [refused, List.take_zero]
  | offer sender operation =>
      obtain ⟨admitted, happened⟩ := Option.ite_none_right_eq_some.mp happened
      obtain ⟨queue, sent, -⟩ := Option.map_eq_some_iff.mp happened
      obtain ⟨⟨room, -⟩, -⟩ := Option.ite_none_right_eq_some.mp sent
      simp only [admits, Bool.and_eq_true] at admitted
      exact absurd (room.symm.trans (full admitted.1.1 (ne_finished_of_bne admitted.1.2)))
        Bool.noConfusion
  | _ => exact late_of_happen? id happened

/-- Who stands first in line, or anybody if nobody does, gets an operation into a drained queue
that is open and has room. -/
theorem not_refusesLate_of_open
    (stage : intake.stage = .closing)
    (opened : intake.hasSender = true)
    (room : intake.queue.hasRoom = true)
    (foreign : ∀ sender ∈ intake.queue.line, intake.sources.length ≤ sender) :
    ¬ intake.RefusesLate := by
  intro refuses
  have drained : intake.isDrained = true := by rw [isDrained, stage]
  have unfinished : (intake.stage != .finished) = true := by
    rw [stage]
    rfl
  cases line : intake.queue.line with
  | nil =>
      have late := refuses (.send [.createFuzzer]) _ rfl
      rw [late_entry drained] at late
      simp [taken, send, opened, unfinished, Queue.sendAll, Queue.trySend?, room, line] at late
  | cons sender rest =>
      have inLine := foreign sender (by simp [line])
      have admitted : intake.admits sender = true := by
        simp [admits, opened, unfinished, inLine]
      have sent : intake.queue.send? sender .createFuzzer =
          some ((intake.queue.leave sender).add .createFuzzer) := by
        simp [Queue.send?, room, line]
      have late := refuses (.offer sender .createFuzzer) _
        (by rw [happen?, if_pos admitted, sent, Option.map_some])
      rw [late_entry drained] at late
      cases late

/--
What others send after the queue was drained stays in the queue, whatever else happens, and only
what was accepted before is routed or left over.  The queue refuses such operations exactly if the
intake has finished, nobody else can send any more, or there is no room; in every other state
somebody gets an operation in, the first in line or anybody.
-/
theorem strands_late_operations
    {settings : IntakeSettings}
    {workers : Nat}
    {shared : Bool}
    {sources : List Source}
    {events : List Event}
    {ledger : Ledger}
    {last : Intake}
    (ran : (ofSources settings workers shared sources).run? events = some (ledger, last))
    (drained : last.isDrained = true) :
    last.queue.items = ledger.late ∧
      ((∀ event ∈ events, ¬ event.IsStoreCrash) → ledger.accepted =
        ledger.books.routed.flatMap Batch.operations ++ ledger.books.remainder) ∧
      (last.RefusesLate ↔
        last.stage = .finished ∨ last.hasSender = false ∨ last.queue.hasRoom = false) := by
  have stranding := isStranding_of_run? ran
  refine ⟨stranding.drained drained, fun unharmed => ?_, fun refuses => ?_,
    refusesLate_of_shut drained⟩
  · have accounted := (isAccounted_ofSources settings workers shared sources).run unharmed ran
    have conserved := accounted.conserved
    rwa [waiting_of_isDrained drained, List.append_nil] at conserved
  · by_contra others
    rw [not_or, not_or, Bool.not_eq_false, Bool.not_eq_false] at others
    obtain ⟨unfinished, sender, room⟩ := others
    have stage : last.stage = .closing := by
      rw [isDrained] at drained
      split at drained
      · next closing => exact closing
      · next finished => exact absurd finished unfinished
      · cases drained
    have deserted := stranding.deserted (.inr (by simp [IsReading, stage]))
    exact not_refusesLate_of_open stage sender room
      (fun _ present => stranding.lined.length_le_of_mem_line deserted present) refuses

/-- The queue is found empty for the last time while a batch is being written. -/
def drainedWhileWriting : List Event :=
  [.start, .send [.delete "a"], .act .look, .act .receive, .act .submit,
    .act (.work (.start 0)), .cancel, .act .release, .act .look, .act .stopFlush, .act .collect,
    .act .close]

/-- The queue holds what was sent while a batch was being written, and would take more. -/
theorem strands_late_operations_whileWriting :
    ∃ ledger last, (ofSources oneByOne 1 false []).run?
        (drainedWhileWriting ++ [.send [.createFuzzer]]) = some (ledger, last) ∧
      last.isDrained = true ∧ ledger.late.length = 1 ∧ last.queue.items = ledger.late ∧
      ledger.accepted =
        ledger.books.routed.flatMap Batch.operations ++ ledger.books.remainder ∧
      ¬ last.RefusesLate := by
  have evaluated : ((ofSources oneByOne 1 false []).run?
        (drainedWhileWriting ++ [.send [.createFuzzer]])).map (fun reached =>
          (reached.2.isDrained, reached.1.late.length, reached.2.stage == .finished,
            reached.2.hasSender, reached.2.queue.hasRoom)) =
      some (true, 1, false, true, true) := by decide +kernel
  obtain ⟨⟨ledger, last⟩, ran, facts⟩ := Option.map_eq_some_iff.mp evaluated
  simp only [Prod.mk.injEq] at facts
  obtain ⟨drained, late, unfinished, sender, room⟩ := facts
  have unharmed : ∀ event ∈ drainedWhileWriting ++ [.send [.createFuzzer]],
      ¬ event.IsStoreCrash := by
    simp [drainedWhileWriting, Event.IsStoreCrash]
  obtain ⟨items, conserved, refuses⟩ := strands_late_operations ran drained
  refine ⟨ledger, last, ran, drained, late, items, conserved unharmed, fun refused => ?_⟩
  rcases refuses.mp refused with finished | nobody | full
  · rw [finished] at unfinished
    cases unfinished
  · exact absurd (sender.symm.trans nobody) Bool.noConfusion
  · exact absurd (room.symm.trans full) Bool.noConfusion

/-- The late operation is sent, the batch is written, and the intake finishes. -/
def sentWhileWriting : List Event :=
  [.send [.createFuzzer], .act (.work (.finish 0)), .act (.work .drain), .act .finish]

/-- An operation is taken after the queue was found empty for the last time; when the intake has
finished it is neither written nor given up nor reported. -/
theorem takes_operation_after_drain :
    ∃ before drained after last,
      (ofSources oneByOne 1 false []).run? drainedWhileWriting = some (before, drained) ∧
      drained.isDrained = true ∧ (drained.send [.createFuzzer]).1 = 1 ∧
      ¬ drained.RefusesLate ∧
      drained.run? sentWhileWriting = some (after, last) ∧
      after.accepted.length = 0 ∧ after.late.length = 1 ∧
      last.report? = some ⟨0, 0, 0⟩ ∧
      ((before ++ after).books.committed.flatMap Batch.operations).map Operation.kind =
        [.delete] ∧
      (before ++ after).books.letters.length = 0 ∧
      (before ++ after).books.remainder.length = 0 := by
  have evaluated : (((ofSources oneByOne 1 false []).run? drainedWhileWriting).bind
        fun reached => (reached.2.run? sentWhileWriting).map fun ended =>
          (reached.2.isDrained, ended.2.report?,
            ((reached.1 ++ ended.1).books.committed.flatMap Batch.operations).map Operation.kind,
            [(reached.2.send [.createFuzzer]).1, ended.1.accepted.length, ended.1.late.length,
              (reached.1 ++ ended.1).books.letters.length,
              (reached.1 ++ ended.1).books.remainder.length])) =
      some (true, some ⟨0, 0, 0⟩, [.delete], [1, 0, 1, 0, 0]) := by decide +kernel
  obtain ⟨⟨before, drained⟩, ran, evaluated⟩ := Option.bind_eq_some_iff.mp evaluated
  obtain ⟨⟨after, last⟩, ranOn, facts⟩ := Option.map_eq_some_iff.mp evaluated
  simp only [Prod.mk.injEq, List.cons.injEq, and_true] at facts
  obtain ⟨empty, reported, committed, took, accepted, late, letters, remainder⟩ := facts
  refine ⟨before, drained, after, last, ran, empty, took, fun refuses => ?_, ranOn, accepted,
    late, reported, committed, letters, remainder⟩
  have refused := refuses (.send [.createFuzzer]) _ rfl
  rw [late_entry empty, taken, took] at refused
  cases refused

end Intake
end FuzzIntake
