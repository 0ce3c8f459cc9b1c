import FuzzIntake.Proofs.Broker.Conversation

/-!
# Nothing is acknowledged unless it was handled

The laws of the log of a consumer before any broker and any queue.  Each call that
acknowledges is for one entry and comes directly after that entry was enqueued as the
operation it decodes to, or dropped for the cause it decodes to.  The entries of a
page are handled in the order of the page.  A failed acknowledgement is followed by a
pause and by a read of everything handed out before anything else is handled.
-/

namespace FuzzIntake
namespace Consumer

/-! ## What backs an acknowledgement -/

/--
What a log must say for a consumer to stand where it stands: an operation on offer is
what its entry decodes to, and an entry that waits for its acknowledgement was handled
by the last record.
-/
def IsBackedBy (consumer : Consumer) (log : List Deed) : Prop :=
  match consumer.phase with
  | .enqueuing entry operation _ => Entry.decode entry.fields = .operation operation
  | .acknowledging entry _ => ∃ earlier deed, log = earlier ++ [deed] ∧ deed.Handles entry
  | _ => True

/-- After turning a page, the consumer is backed by the record of having turned it. -/
theorem isBackedBy_turnTo
    (consumer : Consumer)
    (page : List Delivery)
    (log : List Deed) :
    (consumer.turnTo page).IsBackedBy (log ++ turning page) := by
  cases page with
  | nil => trivial
  | cons entry rest =>
      cases decoded : Entry.decode entry.fields with
      | operation operation =>
          rw [turnTo_of_operation consumer rest decoded]
          exact decoded
      | dropped cause =>
          rw [turnTo_of_dropped consumer rest decoded, turning_of_dropped rest decoded]
          exact ⟨log, .dropped entry cause, rfl, rfl, decoded⟩

/-- A step keeps a consumer backed by its log. -/
theorem Step.isBackedBy
    {consumer next : Consumer}
    {log deeds : List Deed}
    (step : Step consumer deeds next)
    (backed : consumer.IsBackedBy log) :
    next.IsBackedBy (log ++ deeds) := by
  cases step with
  | join answer _ => cases answer <;> trivial
  | receive now answer _ =>
      rw [List.append_cons]
      cases answer with
      | ok page => exact isBackedBy_turnTo _ page _
      | error error => trivial
  | @enqueue _ entry operation rest entering enqueued =>
      simp only [enqueued?, entering, Option.some.injEq] at enqueued
      simp only [IsBackedBy, entering] at backed
      rw [← enqueued]
      exact ⟨log, .enqueued entry operation, rfl, rfl, backed⟩
  | acknowledge now answer _ =>
      rw [List.append_cons]
      cases answer with
      | ok done => exact isBackedBy_turnTo _ _ _
      | error error => trivial
  | _ => trivial

/-- A run keeps a consumer backed by its log. -/
theorem Run.isBackedBy
    {first last : Consumer}
    {earlier log : List Deed}
    (run : Run first log last)
    (backed : first.IsBackedBy earlier) :
    last.IsBackedBy (earlier ++ log) := by
  induction run generalizing earlier with
  | done => simpa using backed
  | step step _ inductionHypothesis =>
      rw [← List.append_assoc]
      exact inductionHypothesis (step.isBackedBy backed)

/-! ## The order within a page -/

@[simp] theorem handled_nil : handled [] = [] := rfl

@[simp] theorem handled_append (before after : List Deed) :
    handled (before ++ after) = handled before ++ handled after :=
  List.filterMap_append

/-- Records of dropped entries are not answers to reads. -/
theorem untilRead_turning_append (page : List Delivery) (log : List Deed) :
    untilRead (turning page ++ log) = turning page ++ untilRead log := by
  rw [untilRead, List.takeWhile_append_of_pos]
  · rfl
  · intro deed present
    obtain ⟨entry, cause, rfl⟩ := eq_dropped_of_mem_turning present
    rfl

/--
Up to the next answer to a read, a consumer handles the entries it has in hand, in
order, or gives up on the rest of them.
-/
theorem Run.handled_untilRead
    {first last : Consumer}
    {log : List Deed}
    (run : Run first log last) :
    handled (untilRead log) <+: first.inHand := by
  induction run with
  | done => exact List.nil_prefix
  | @step consumer next last deeds log step later inductionHypothesis =>
      cases step with
      | join answer joining =>
          have nothing : (consumer.joined answer).inHand = [] := by cases answer <;> rfl
          rw [nothing] at inductionHypothesis
          exact inductionHypothesis.trans List.nil_prefix
      | listen deadline reading => exact inductionHypothesis.trans List.nil_prefix
      | receive now answer waiting => exact List.nil_prefix
      | @enqueue _ entry operation rest entering enqueued =>
          simp only [enqueued?, entering, Option.some.injEq] at enqueued
          rw [← enqueued] at inductionHypothesis
          simp only [inHand, entering] at inductionHypothesis ⊢
          exact List.cons_prefix_cons.mpr ⟨rfl, inductionHypothesis⟩
      | @acknowledge entry rest now answer acknowledging =>
          simp only [inHand, acknowledging]
          cases answer with
          | ok done =>
              have kept : handled (turning rest) ++
                  (consumer.acknowledged now rest (.ok done)).inHand = rest :=
                handled_turning_append_inHand _ rest
              have advanced := (List.prefix_append_right_inj (handled (turning rest))).mpr
                inductionHypothesis
              change handled (untilRead (turning rest ++ log)) <+: rest
              rw [untilRead_turning_append, handled_append]
              rwa [kept] at advanced
          | error error => exact inductionHypothesis.trans List.nil_prefix
      | resume now pausing due => exact inductionHypothesis.trans List.nil_prefix
      | stop interruptible => exact inductionHypothesis.trans List.nil_prefix
      | crash waiting => exact inductionHypothesis.trans List.nil_prefix

/-! ## One call for everything handled -/

/-- The ids that calls acknowledged. -/
def acceptedIds (log : List Deed) : List String :=
  log.flatMap fun deed =>
    match deed with
    | .acknowledged _ ids (.ok ()) => ids
    | _ => []

/-- The ids that calls failed to acknowledge. -/
def refusedIds (log : List Deed) : List String :=
  log.flatMap fun deed =>
    match deed with
    | .acknowledged _ ids (.error _) => ids
    | _ => []

/-- The id that a consumer is about to acknowledge. -/
def asking (consumer : Consumer) : List String :=
  match consumer.phase with
  | .acknowledging entry _ => [entry.id]
  | _ => []

/-- A consumer that has ended asks for nothing. -/
theorem asking_of_ended
    {consumer : Consumer}
    (ended : consumer.result? ≠ none) :
    consumer.asking = [] := by
  rw [asking]
  split
  · next entry rest acknowledging => exact absurd (by rw [result?, acknowledging]) ended
  · rfl

theorem asking_of_waiting
    {consumer : Consumer}
    (waiting : consumer.phase = .reading ∨ ∃ deadline, consumer.phase = .listening deadline) :
    consumer.asking = [] := by
  rcases waiting with reading | ⟨deadline, listening⟩
  · rw [asking, reading]
  · rw [asking, listening]

theorem asking_of_isInterruptible
    {consumer : Consumer}
    (interruptible : consumer.isInterruptible = true) :
    consumer.asking = [] := by
  rw [asking]
  split
  · next entry rest acknowledging => simp [isInterruptible, acknowledging] at interruptible
  · rfl

@[simp] theorem acceptedIds_append (before after : List Deed) :
    acceptedIds (before ++ after) = acceptedIds before ++ acceptedIds after :=
  List.flatMap_append

@[simp] theorem refusedIds_append (before after : List Deed) :
    refusedIds (before ++ after) = refusedIds before ++ refusedIds after :=
  List.flatMap_append

/-- Turning a page acknowledges nothing, and the entry dropped is about to be acknowledged. -/
theorem handled_turning (consumer : Consumer) (page : List Delivery) :
    (handled (turning page)).map Delivery.id = (consumer.turnTo page).asking ∧
      acceptedIds (turning page) = [] ∧ refusedIds (turning page) = [] := by
  cases page with
  | nil => exact ⟨rfl, rfl, rfl⟩
  | cons entry rest =>
      cases decoded : Entry.decode entry.fields with
      | operation operation =>
          rw [turnTo_of_operation consumer rest decoded, turning_of_operation rest decoded]
          exact ⟨rfl, rfl, rfl⟩
      | dropped cause =>
          rw [turnTo_of_dropped consumer rest decoded, turning_of_dropped rest decoded]
          exact ⟨rfl, rfl, rfl⟩

/-- A step asks once for every entry that waited for it or is handled, unless it waits on. -/
theorem Step.count_handled
    {consumer next : Consumer}
    {deeds : List Deed}
    (step : Step consumer deeds next)
    (id : String) :
    consumer.asking.count id + ((handled deeds).map Delivery.id).count id =
      (refusedIds deeds).count id + (acceptedIds deeds).count id + next.asking.count id := by
  cases step with
  | join answer joining =>
      simp only [asking, joining]
      cases answer <;> rfl
  | listen deadline reading =>
      simp only [asking, reading]
      rfl
  | receive now answer waiting =>
      rw [asking_of_waiting waiting]
      cases answer with
      | ok page =>
          obtain ⟨turned, accepted, refused⟩ := handled_turning
            { consumer with start := startAfter consumer.start page } page
          rw [show consumer.received now (.ok page) = Consumer.turnTo
            { consumer with start := startAfter consumer.start page } page from rfl, ← turned]
          change 0 + ((handled (turning page)).map Delivery.id).count id =
            (refusedIds (turning page)).count id + (acceptedIds (turning page)).count id + _
          rw [accepted, refused]
          rfl
      | error error => rfl
  | @enqueue _ entry operation rest entering enqueued =>
      simp only [enqueued?, entering, Option.some.injEq] at enqueued
      rw [← enqueued]
      simp only [asking, entering]
      change 0 + [entry.id].count id = 0 + 0 + [entry.id].count id
      omega
  | @acknowledge entry rest now answer acknowledging =>
      simp only [asking, acknowledging]
      cases answer with
      | ok done =>
          obtain ⟨turned, accepted, refused⟩ := handled_turning
            { consumer with tally := { consumer.tally with acked := consumer.tally.acked + 1 } }
            rest
          change [entry.id].count id + ((handled (turning rest)).map Delivery.id).count id =
            (refusedIds (turning rest)).count id +
              ([entry.id] ++ acceptedIds (turning rest)).count id +
              (Consumer.turnTo _ rest).asking.count id
          rw [accepted, refused, turned, List.append_nil, List.count_nil]
          omega
      | error error =>
          change [entry.id].count id + 0 = [entry.id].count id + 0 + 0
          omega
  | resume now pausing due =>
      simp only [asking, pausing]
      rfl
  | stop interruptible =>
      rw [asking_of_isInterruptible interruptible]
      rfl
  | crash waiting =>
      rw [asking_of_waiting waiting]
      rfl

/-- Everything handled was asked for once, unless its turn is next. -/
theorem Run.count_handled
    {first last : Consumer}
    {log : List Deed}
    (run : Run first log last)
    (id : String) :
    first.asking.count id + ((handled log).map Delivery.id).count id =
      (refusedIds log).count id + (acceptedIds log).count id + last.asking.count id := by
  induction run with
  | done consumer =>
      simp only [handled_nil, List.map_nil, List.count_nil, Nat.add_zero]
      exact (Nat.zero_add _).symm
  | step step _ inductionHypothesis =>
      have stepped := step.count_handled id
      simp only [handled_append, refusedIds_append, acceptedIds_append, List.map_append,
        List.count_append]
      omega

/-! ## What follows a failed acknowledgement -/

/--
What may follow an acknowledgement that failed: nothing yet or the end, or else a pause
of the given length, after which comes the end or a read of everything handed out.
-/
def StartsOver (backoff : Span) (failedAt : Instant) : List Deed → Prop
  | [] => True
  | .stopped :: later => later = []
  | .resumed moment :: later =>
      Instant.after failedAt backoff ≤ moment ∧
        match later with
        | [] => True
        | .stopped :: rest => rest = []
        | .crashed :: rest => rest = []
        | .read start _ :: _ => start = ownHistory
        | _ => False
  | _ => False

/-- A consumer that has ended does nothing more. -/
theorem Run.log_of_ended
    {first last : Consumer}
    {log : List Deed}
    {result : ConsumerResult}
    (run : Run first log last)
    (ended : first.phase = .ended result) :
    log = [] := by
  cases run with
  | done => rfl
  | step step _ => cases step <;> simp_all [isInterruptible]

/-- A consumer that waits for new entries records the answer to its read next, or ends. -/
theorem Run.log_of_listening
    {first last : Consumer}
    {log : List Deed}
    {deadline : Instant}
    (run : Run first log last)
    (listening : first.phase = .listening deadline) :
    log = [] ∨ log = [.stopped] ∨ log = [.crashed] ∨
      ∃ answer later, log = .read first.start answer :: later := by
  cases run with
  | done => exact .inl rfl
  | step step later =>
      cases step with
      | receive now answer _ => exact .inr (.inr (.inr ⟨answer, _, rfl⟩))
      | stop _ => exact .inr (.inl (by rw [later.log_of_ended rfl]; rfl))
      | crash _ => exact .inr (.inr (.inl (by rw [later.log_of_ended rfl]; rfl)))
      | _ => simp_all

/-- A consumer about to read records the answer next, or ends. -/
theorem Run.log_of_reading
    {first last : Consumer}
    {log : List Deed}
    (run : Run first log last)
    (reading : first.phase = .reading) :
    log = [] ∨ log = [.stopped] ∨ log = [.crashed] ∨
      ∃ answer later, log = .read first.start answer :: later := by
  cases run with
  | done => exact .inl rfl
  | step step later =>
      cases step with
      | listen deadline _ => exact later.log_of_listening rfl
      | receive now answer _ => exact .inr (.inr (.inr ⟨answer, _, rfl⟩))
      | stop _ => exact .inr (.inl (by rw [later.log_of_ended rfl]; rfl))
      | crash _ => exact .inr (.inr (.inl (by rw [later.log_of_ended rfl]; rfl)))
      | _ => simp_all

/-- A consumer that pauses after a failure starts over. -/
theorem Run.startsOver_of_pause
    {consumer last : Consumer}
    {log : List Deed}
    {failedAt : Instant}
    (run : Run (consumer.pause failedAt) log last) :
    StartsOver consumer.settings.errorBackoff failedAt log := by
  cases run with
  | done => trivial
  | step step later =>
      cases step with
      | @resume resumeAt moment pausing due =>
          obtain rfl : Instant.after failedAt consumer.settings.errorBackoff = resumeAt := by
            simpa [pause] using pausing
          refine ⟨due, ?_⟩
          rcases later.log_of_reading rfl with rfl | rfl | rfl | ⟨answer, rest, rfl⟩
          · trivial
          · rfl
          · rfl
          · rfl
      | stop _ => exact later.log_of_ended rfl
      | _ => simp_all [pause]

/-! ## The laws of the log -/

/--
The log of a consumer before any broker and any queue.  Each call that acknowledges is
for one entry and comes directly after the record of that entry having been enqueued
as what it decodes to, or dropped since it decodes to nothing.  What is handled between
an answer to a read and the next one is a beginning of that answer's page, and nothing
is handled before the first read.  After a failed acknowledgement nothing is handled
before a pause of the set length and a read of everything handed out.
-/
theorem acknowledges_only_handled
    {settings : ConsumerSettings}
    {log : List Deed}
    {last : Consumer}
    (run : Run (Consumer.new settings) log last) :
    (∀ before moment ids answer after,
      log = before ++ .acknowledged moment ids answer :: after →
      ∃ entry earlier deed, ids = [entry.id] ∧ before = earlier ++ [deed] ∧
        deed.Handles entry) ∧
    handled (untilRead log) = [] ∧
    (∀ before start answer after, log = before ++ .read start answer :: after →
      handled (untilRead after) <+: pageOf answer) ∧
    ∀ before moment ids error after,
      log = before ++ .acknowledged moment ids (.error error) :: after →
      StartsOver settings.errorBackoff moment after := by
  refine ⟨?_, ?_, ?_, ?_⟩
  · intro before moment ids answer after cut
    obtain ⟨middle, next, rest, later, earlier, step, -, -⟩ :=
      run.split cut (by simp)
    have backed : middle.IsBackedBy before :=
      earlier.isBackedBy (show (Consumer.new settings).IsBackedBy [] from trivial)
    cases step with
    | @acknowledge entry rest _ _ acknowledging =>
        simp only [IsBackedBy, acknowledging] at backed
        obtain ⟨prior, deed, told, handles⟩ := backed
        exact ⟨entry, prior, deed, rfl, told, handles⟩
  · exact List.prefix_nil.mp run.handled_untilRead
  · intro before start answer after cut
    obtain ⟨middle, next, rest, later, -, step, remains, rfl⟩ := run.split cut (by simp)
    cases step with
    | receive now _ waiting =>
        rw [untilRead_turning_append, handled_append]
        cases answer with
        | ok page =>
            have kept := handled_turning_append_inHand
              { middle with start := startAfter middle.start page } page
            have advanced := (List.prefix_append_right_inj (handled (turning page))).mpr
              remains.handled_untilRead
            rwa [received, kept] at advanced
        | error error => exact remains.handled_untilRead
  · intro before moment ids error after cut
    obtain ⟨middle, next, rest, later, earlier, step, remains, rfl⟩ := run.split cut (by simp)
    cases step with
    | acknowledge now _ acknowledging =>
        rw [← show middle.settings = settings from earlier.settings_eq]
        exact remains.startsOver_of_pause

/-- A consumer enqueues an entry, fails to acknowledge it, and is stopped in its pause. -/
theorem acknowledges_only_handled_before_stop :
    let entry : Delivery := ⟨"7-0", [("op", "create_fuzzer")]⟩
    let before : List Deed :=
      [.joined (.ok .created), .read ownHistory (.ok [entry]), .enqueued entry .createFuzzer]
    (∃ last, Run (Consumer.new .standard)
      (before ++ .acknowledged 0 ["7-0"] (.error .closed) :: [.stopped]) last) ∧
    (∃ (handled : Delivery) (earlier : List Deed) (deed : Deed), ["7-0"] = [handled.id] ∧
      before = earlier ++ [deed] ∧ deed.Handles handled) ∧
    StartsOver ConsumerSettings.standard.errorBackoff 0 [.stopped] := by
  intro entry before
  have join : Step (Consumer.new .standard) _ _ := .join (.ok .created) rfl
  have receive : Step ((Consumer.new .standard).joined (.ok .created)) _ _ :=
    .receive 0 (.ok [entry]) (.inl rfl)
  have run := Run.step join <| .step receive <| .step (.enqueue rfl rfl) <|
    .step (.acknowledge 0 (.error .closed) rfl) <| .step (.stop rfl) (.done _)
  obtain ⟨backed, -, -, starts⟩ := acknowledges_only_handled run
  exact ⟨⟨_, run⟩, backed before 0 ["7-0"] (.error .closed) [.stopped] rfl,
    starts before 0 ["7-0"] .closed [.stopped] rfl⟩

end Consumer
end FuzzIntake
