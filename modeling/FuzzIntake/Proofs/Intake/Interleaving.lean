import FuzzIntake.Proofs.Broker.Progress
import FuzzIntake.Proofs.Intake.Conservation
import FuzzIntake.Proofs.Intake.Motion

/-!
# Every operation once and in order

If nobody else works in the groups of the sources and no acknowledgement fails, a source
acknowledges its entries one after the other, and sends the operation of each just before.
So the operations that go into the warehouse are those of the entries acknowledged, each of
them once, and those of one source in the order in which they were published.
-/

namespace FuzzIntake

/-! ## Interleavings -/

/-- A list that takes its items from the ends of some lists, which had no others. -/
inductive Interleaves {α : Type} : List (List α) → List α → Prop
  /-- Nothing is taken from lists without items. -/
  | nothing (count : Nat) : Interleaves (List.replicate count []) []
  /-- An item is added to the whole and to one of its parts. -/
  | take {parts : List (List α)} {whole part : List α} {index : Nat} (item : α) :
      Interleaves parts whole → parts[index]? = some part →
      Interleaves (parts.set index (part ++ [item])) (whole ++ [item])

namespace Interleaves

variable {α : Type} {parts : List (List α)} {whole part : List α} {index : Nat}

/-- Some items are added to the whole and to one of its parts. -/
theorem append
    (interleaves : Interleaves parts whole)
    (found : parts[index]? = some part)
    (items : List α) :
    Interleaves (parts.set index (part ++ items)) (whole ++ items) := by
  induction items generalizing parts whole part with
  | nil =>
      obtain ⟨inside, rfl⟩ := List.getElem?_eq_some_iff.mp found
      rwa [List.append_nil, List.append_nil, List.set_getElem_self]
  | cons item rest inductionHypothesis =>
      obtain ⟨inside, -⟩ := List.getElem?_eq_some_iff.mp found
      have further := inductionHypothesis (interleaves.take item found)
        (List.getElem?_set_self inside)
      rwa [List.set_set, ← List.append_cons, ← List.append_cons] at further

/-- Every item occurs as often as in all parts together. -/
theorem perm_flatten (interleaves : Interleaves parts whole) : whole.Perm parts.flatten := by
  induction interleaves with
  | nothing count => rw [List.flatten_replicate_nil]
  | @take parts whole part index item _ found inductionHypothesis =>
      obtain ⟨inside, rfl⟩ := List.getElem?_eq_some_iff.mp found
      have split : parts = parts.take index ++ parts[index] :: parts.drop (index + 1) := by
        rw [List.getElem_cons_drop, List.take_append_drop]
      rw [split, List.flatten_append, List.flatten_cons] at inductionHypothesis
      rw [List.set_eq_take_append_cons_drop, if_pos inside, List.flatten_append,
        List.flatten_cons]
      refine (inductionHypothesis.append_right [item]).trans ?_
      simp only [List.append_assoc]
      exact (List.perm_append_comm.append_left _).append_left _

/-- Every part keeps its order. -/
theorem sublist (interleaves : Interleaves parts whole) : ∀ part ∈ parts, part.Sublist whole := by
  induction interleaves with
  | nothing count =>
      intro part present
      rw [(List.mem_replicate.mp present).2]
  | take item _ found inductionHypothesis =>
      intro other present
      rcases List.mem_or_eq_of_mem_set present with old | rfl
      · exact (inductionHypothesis other old).trans (List.sublist_append_left _ _)
      · exact (inductionHypothesis _ (List.mem_of_getElem? found)).append (.refl _)

end Interleaves

/-! ## Sources -/

namespace Source

/-- A source that has not begun to read, at a broker that earlier calls have led to.  Its group
is there and has nothing pending, and no acknowledgement is going to fail. -/
structure IsPrepared (settings : ConsumerSettings) (calls : List LocalBroker.Call)
    (source : Source) : Prop where
  new : source.consumer = Consumer.new settings
  ran : ∃ log, LocalBroker.empty.run? calls = some (log, source.broker.broker)
  known : source.broker.broker.knowsGroup settings.stream settings.group = true
  settled : source.broker.broker.pending settings.stream settings.group = []
  obliging : source.broker.broker.ackFailures = 0

/--
A source that has acknowledged the entries of a page since it was prepared.  These follow on
those acknowledged before, beginning where the group began.
-/
structure HasAdvanced (settings : ConsumerSettings) (first : Source) (page : List Delivery)
    (source : Source) : Prop where
  acked : source.broker.broker.acked settings.stream settings.group =
    first.broker.broker.acked settings.stream settings.group ++ page.map Delivery.id
  consecutive : ∀ calls, first.IsPrepared settings calls → ∃ origin earlier,
    LocalBroker.IsOrigin calls settings.stream settings.group origin ∧
    ((first.broker.broker.acked settings.stream settings.group).map numberOfId).Perm
      (earlier.map Delivery.number) ∧
    earlier ++ page <+: (source.broker.broker.entriesOf settings.stream).drop origin

/-- A source that has kept in step with its group since it was prepared. -/
def Follows (settings : ConsumerSettings) (first : Source) (sent : List Operation)
    (source : Source) : Prop :=
  ∃ begun reached held,
    first.broker.broker.group? settings.stream settings.group = some begun ∧
    source.consumer.IsInStep settings begun.acked begun.cursor reached held sent
      source.broker.broker

variable {settings : ConsumerSettings} {first source later : Source}
  {sent taken : List Operation} {calls : List LocalBroker.Call}

/-- A prepared source is in step with its group. -/
theorem IsPrepared.follows (prepared : source.IsPrepared settings calls) :
    Follows settings source [] source := by
  obtain ⟨log, ran⟩ := prepared.ran
  obtain ⟨held, known⟩ := Option.isSome_iff_exists.mp prepared.known
  have books := LocalBroker.isBookkept_empty.run ran
  refine ⟨held, held.cursor, held, known, ?_⟩
  rw [prepared.new]
  exact Consumer.isInStep_new books.sound prepared.obliging known prepared.settled

/-- A source that is not disturbed stays in step with its group. -/
theorem Follows.step
    (follows : Follows settings first sent source)
    (step : source.Step (·.SparesGroup settings) taken later) :
    Follows settings first (sent ++ taken) later := by
  obtain ⟨begun, reached, held, known, inStep⟩ := follows
  cases step with
  | move moved =>
      rw [List.append_nil]
      obtain ⟨further, after, stillInStep⟩ := inStep.move moved
      exact ⟨begun, further, after, known, stillInStep⟩
  | enqueue offered enqueued =>
      exact ⟨begun, reached, held, known, inStep.enqueue offered enqueued⟩
  | stop interruptible =>
      rw [List.append_nil]
      exact ⟨begun, reached, held, known, inStep.stop interruptible⟩
  | call spares served =>
      rw [List.append_nil]
      exact ⟨begun, reached, held, known, inStep.call spares served⟩
  | crashReads count =>
      rw [List.append_nil]
      exact ⟨begun, reached, held, known, inStep⟩

/-- What a group without pending entries has acknowledged are the first entries behind its
beginning, in some order. -/
theorem IsPrepared.perm_acked
    {held : Group}
    {broker : LocalBroker}
    (prepared : source.IsPrepared settings calls)
    (known : source.broker.broker.group? settings.stream settings.group = some held)
    (sound : broker.IsSound)
    (within : held.cursor ≤ (broker.entriesOf settings.stream).length) :
    ∃ origin, LocalBroker.IsOrigin calls settings.stream settings.group origin ∧
      origin ≤ held.cursor ∧
      held.ackedNumbers.Perm
        ((between (broker.entriesOf settings.stream) origin held.cursor).map
          Delivery.number) := by
  obtain ⟨log, ran⟩ := prepared.ran
  obtain ⟨origin, created, accounted⟩ :=
    (LocalBroker.isBookkept_empty.run ran).account _ _ held known
  obtain ⟨ascending, -, numbers⟩ :=
    @LocalBroker.IsSound.page_law _ sound settings.stream origin _ within
  refine ⟨origin, created, accounted.origin_le, ?_⟩
  rw [List.perm_ext_iff_of_nodup accounted.acked_nodup]
  · intro number
    refine Iff.trans ⟨accounted.inside_of_acked number, fun inside => ?_⟩ (numbers number).symm
    refine (accounted.covers number inside.1 inside.2).resolve_left ?_
    rintro ⟨consumer, pending⟩
    rw [LocalBroker.getElem?_of_pending_eq_nil known prepared.settled] at pending
    cases pending
  · exact (List.pairwise_map.mpr ascending).imp Nat.ne_of_lt

/-- A source whose consumer has ended has sent what it has acknowledged. -/
theorem Follows.hasAdvanced
    (follows : Follows settings first sent source)
    (ended : source.consumer.result? ≠ none) :
    ∃ page, sent = page.filterMap Delivery.operation? ∧
      HasAdvanced settings first page source := by
  obtain ⟨begun, reached, held, known, inStep⟩ := follows
  have within := (inStep.sound.groups _ _ held inStep.known).cursor_le
  have settled := inStep.settled
  refine ⟨between (source.broker.broker.entriesOf settings.stream) begun.cursor reached,
    inStep.sent_of_ended ended, ?_, fun calls prepared => ?_⟩
  · simp only [LocalBroker.acked, known, inStep.known, settled.acked]
  · obtain ⟨origin, created, before, same⟩ := prepared.perm_acked known inStep.sound
      ((settled.begun_le.trans settled.reached_le).trans within)
    refine ⟨origin, between (source.broker.broker.entriesOf settings.stream) origin begun.cursor,
      created, ?_, ?_⟩
    · simp only [LocalBroker.acked, known]
      exact same
    · rw [between_append before settled.begun_le]
      exact List.take_prefix _ _

end Source

namespace Intake

/-! ## Along a run -/

/-- An event by which nobody else sends operations, crashes a store, works in the groups of the
sources or makes acknowledgements fail. -/
structure Event.IsGentle (settings : ConsumerSettings) (event : Event) : Prop where
  harmless : ¬ event.IsStoreCrash
  ownOnly : ¬ event.IsForeignSend
  apart : ∀ index call, event = .callBroker index call → call.SparesGroup settings

variable {settings : ConsumerSettings} {firsts : List Source} {ledger : Ledger}
  {intake next : Intake} {event : Event}

/-- An intake whose sources keep in step with their groups, and whose queue has taken what they
have sent, in some order. -/
structure IsOrderly (settings : ConsumerSettings) (firsts : List Source) (ledger : Ledger)
    (intake : Intake) : Prop where
  sameLength : intake.sources.length = firsts.length
  sent : ∃ parts : List (List Operation), parts.length = firsts.length ∧
    Interleaves parts ledger.accepted ∧
    ∀ (index : Nat) first source part, firsts[index]? = some first →
      intake.sources[index]? = some source → parts[index]? = some part →
      Source.Follows settings first part source
  deserted : intake.flushCancelled = true ∨ ¬ intake.IsReading → intake.IsDeserted

/-- Prepared sources have sent nothing. -/
theorem isOrderly_ofSources
    {settings : IntakeSettings}
    (workers : Nat)
    (shared : Bool)
    (prepared : ∀ source ∈ firsts, ∃ calls, source.IsPrepared settings.consumer calls) :
    IsOrderly settings.consumer firsts .empty (ofSources settings workers shared firsts) where
  sameLength := rfl
  sent := by
    refine ⟨List.replicate firsts.length [], List.length_replicate, .nothing _, ?_⟩
    intro index first source part found same nothing
    obtain rfl := Option.some.inj (found.symm.trans same)
    rw [(List.mem_replicate.mp (List.mem_of_getElem? nothing)).2]
    obtain ⟨calls, ready⟩ := prepared first (List.mem_of_getElem? found)
    exact ready.follows
  deserted stopped := by
    rcases stopped with cancelled | notReading
    · cases cancelled
    · exact absurd (.inl rfl) notReading

/-- A gentle event keeps an intake orderly, with the entry it makes. -/
theorem IsOrderly.happen
    (orderly : IsOrderly settings firsts ledger intake)
    (gentle : event.IsGentle settings)
    (happened : intake.happen? event = some next) :
    IsOrderly settings firsts (ledger ++ intake.entry event) next := by
  have motion : Motion (·.SparesGroup settings) intake event next :=
    motion_of_happen? gentle.ownOnly gentle.apart happened
  obtain ⟨parts, count, interleaves, follows⟩ := orderly.sent
  have deserted := motion.deserted orderly.deserted
  rcases motion.sources with ⟨same, nothing⟩ | ⟨index, source, later, found, replaced, step⟩
  · refine ⟨same ▸ orderly.sameLength, ⟨parts, count, ?_, ?_⟩, deserted⟩
    · rwa [Ledger.accepted_append, nothing, List.append_nil]
    · rwa [same]
  · obtain ⟨inside, -⟩ := List.getElem?_eq_some_iff.mp found
    rw [orderly.sameLength] at inside
    have part : parts[index]? = some parts[index] := List.getElem?_eq_getElem (count ▸ inside)
    refine ⟨?_, ⟨_, ?_, interleaves.append part _, ?_⟩, deserted⟩
    · rw [replaced, List.length_set, orderly.sameLength]
    · rw [List.length_set, count]
    · intro other first there page here present sent
      rw [replaced] at present
      by_cases same : index = other
      · subst same
        rw [List.getElem?_set_self (orderly.sameLength ▸ inside)] at present
        rw [List.getElem?_set_self (count ▸ inside)] at sent
        obtain rfl := Option.some.inj present
        obtain rfl := Option.some.inj sent
        exact (follows index first source _ here found part).step step
      · rw [List.getElem?_set_ne same] at present sent
        exact follows other first there page here present sent

/-- A gentle run keeps an intake orderly. -/
theorem IsOrderly.run
    {events : List Event}
    {later : Ledger}
    {last : Intake}
    (orderly : IsOrderly settings firsts ledger intake)
    (gentle : ∀ event ∈ events, event.IsGentle settings)
    (ran : intake.run? events = some (later, last)) :
    IsOrderly settings firsts (ledger ++ later) last :=
  run?_induction (IsOrderly settings firsts)
    (fun event present _ _ _ orderly happened => orderly.happen (gentle event present) happened)
    orderly ran

/-- Where all consumers have ended, the queue has taken the operations of the entries that the
sources have acknowledged. -/
theorem IsOrderly.exists_pages
    (orderly : IsOrderly settings firsts ledger intake)
    (deserted : intake.IsDeserted) :
    ∃ pages : List (List Delivery), pages.length = firsts.length ∧
      Interleaves (pages.map (·.filterMap Delivery.operation?)) ledger.accepted ∧
      ∀ (index : Nat) first source page, firsts[index]? = some first →
        intake.sources[index]? = some source → pages[index]? = some page →
        Source.HasAdvanced settings first page source := by
  obtain ⟨parts, count, interleaves, follows⟩ := orderly.sent
  have each : ∀ index : Fin firsts.length, ∃ page,
      parts[index]? = some (page.filterMap Delivery.operation?) ∧
      ∀ source, intake.sources[index]? = some source →
        Source.HasAdvanced settings firsts[index] page source := by
    intro index
    have found := List.getElem?_eq_getElem (index.isLt.trans_eq orderly.sameLength.symm)
    have part := List.getElem?_eq_getElem (index.isLt.trans_eq count.symm)
    obtain ⟨page, sent, advanced⟩ := (follows index firsts[index] _ _
      (List.getElem?_eq_getElem index.isLt) found part).hasAdvanced
      (deserted _ (List.mem_of_getElem? found))
    refine ⟨page, part.trans (congrArg some sent), fun source present => ?_⟩
    obtain rfl := Option.some.inj (found.symm.trans present)
    exact advanced
  choose page sent advanced using each
  have same : (List.ofFn page).map (·.filterMap Delivery.operation?) = parts := by
    refine List.ext_getElem? fun index => ?_
    rw [List.getElem?_map, List.getElem?_ofFn]
    split
    · next inside => exact (sent ⟨index, inside⟩).symm
    · next outside => exact (List.getElem?_eq_none (by omega)).symm
  refine ⟨List.ofFn page, List.length_ofFn, same ▸ interleaves, ?_⟩
  intro index first source entries there present taken
  obtain ⟨inside, rfl⟩ := List.getElem?_eq_some_iff.mp there
  rw [List.getElem?_ofFn, dif_pos inside] at taken
  obtain rfl := Option.some.inj taken
  exact advanced ⟨index, inside⟩ source present

/--
Prepared sources, whatever happens that is gentle: once the intake has finished, every source
has acknowledged the next entries of its stream, one after the other.  The batches routed and
then the operations left over are an interleaving of the operations of these entries, so that
each of them occurs once and those of one source keep their order.
-/
theorem delivers_once_in_order
    {settings : IntakeSettings}
    {workers : Nat}
    {shared : Bool}
    {sources : List Source}
    {events : List Event}
    {last : Intake}
    (prepared : ∀ source ∈ sources, ∃ calls, source.IsPrepared settings.consumer calls)
    (gentle : ∀ event ∈ events, event.IsGentle settings.consumer)
    (ran : (ofSources settings workers shared sources).run? events = some (ledger, last))
    (finished : last.stage = .finished) :
    last.sources.length = sources.length ∧
      ∃ pages : List (List Delivery), pages.length = sources.length ∧
        (∀ (index : Nat) first source page, sources[index]? = some first →
          last.sources[index]? = some source → pages[index]? = some page →
          Source.HasAdvanced settings.consumer first page source) ∧
        let operations := pages.map (·.filterMap Delivery.operation?)
        let whole := ledger.books.routed.flatMap Batch.operations ++ ledger.books.remainder
        Interleaves operations whole ∧ whole.Perm operations.flatten ∧
          ∀ part ∈ operations, part.Sublist whole := by
  have orderly : IsOrderly settings.consumer sources ledger last :=
    (isOrderly_ofSources workers shared prepared).run gentle ran
  have accounted : IsAccounted _ ledger last :=
    (isAccounted_ofSources settings workers shared sources).run
      (fun event present => (gentle event present).harmless) ran
  have notReading : ¬ last.IsReading := by simp [IsReading, finished]
  have nothingWaiting : last.waiting = [] := by rw [waiting, finished]
  obtain ⟨pages, count, interleaves, advanced⟩ :=
    orderly.exists_pages (orderly.deserted (.inr notReading))
  rw [accounted.conserved, nothingWaiting, List.append_nil] at interleaves
  exact ⟨orderly.sameLength, pages, count, advanced, interleaves, interleaves.perm_flatten,
    interleaves.sublist⟩

/-- Two sources whose groups were there before anything was published. -/
def twoSources : List Source :=
  ["main", "mirror"].map fun label =>
    ⟨label, ⟨(LocalBroker.empty.setUpGroup "s" "g").2, 0⟩, .new oneByOne.consumer⟩

/-- The second source sends first; the operation of the first one is left over. -/
def turnAbout : List Event :=
  [.start, .act (.consume 0 .join), .act (.consume 1 .join),
    .callBroker 0 (.publish "s" [("op", "create_fuzzer")]),
    .callBroker 1 (.publish "s" [("op", "del"), ("program_base64", "a")]),
    .act (.consume 0 .read), .act (.consume 1 .read), .act (.consume 0 .read),
    .act (.consume 1 .read), .act (.enqueue 1), .act (.enqueue 0),
    .act (.consume 1 .acknowledge), .act .look, .act .receive, .act .submit, .cancel,
    .act (.consume 0 .acknowledge), .act (.halt 0), .act (.halt 1), .act .release, .act .look,
    .act .stopFlush, .act .collect, .act .gather, .act .close, .act (.work (.start 0)),
    .act (.work (.finish 0)), .act (.work .drain), .act (.work .settle), .act .finish]

/-- What two sources send goes into the warehouse once, in the order in which it was sent. -/
theorem delivers_once_in_order_turnAbout :
    ∃ ledger last, (ofSources oneByOne 1 false twoSources).run? turnAbout = some (ledger, last) ∧
      (∀ source ∈ twoSources, ∃ calls, source.IsPrepared oneByOne.consumer calls) ∧
      (∀ event ∈ turnAbout, event.IsGentle oneByOne.consumer) ∧ last.stage = .finished ∧
      (ledger.books.routed.flatMap Batch.operations).map Operation.kind = [.delete] ∧
      ledger.books.remainder.map Operation.kind = [.createFuzzer] ∧
      last.sources.map (·.broker.broker.acked "s" "g") = [["1-0"], ["1-0"]] ∧
      ∃ pages : List (List Delivery), pages.length = 2 ∧
        Interleaves (pages.map (·.filterMap Delivery.operation?))
          (ledger.books.routed.flatMap Batch.operations ++ ledger.books.remainder) := by
  have evaluated : ((ofSources oneByOne 1 false twoSources).run? turnAbout).map (fun reached =>
        (reached.2.report?,
          (reached.1.books.routed.flatMap Batch.operations).map Operation.kind,
          reached.1.books.remainder.map Operation.kind,
          reached.2.sources.map (·.broker.broker.acked "s" "g"))) =
      some (some ⟨1, 0, 0⟩, [.delete], [.createFuzzer], [["1-0"], ["1-0"]]) := by
    decide +kernel
  obtain ⟨⟨ledger, last⟩, ran, counts⟩ := Option.map_eq_some_iff.mp evaluated
  simp only [Prod.mk.injEq] at counts
  obtain ⟨reported, routed, remainder, acked⟩ := counts
  have finished := stage_of_report? reported
  have prepared : ∀ source ∈ twoSources, ∃ calls, source.IsPrepared oneByOne.consumer calls := by
    intro source present
    obtain ⟨label, -, rfl⟩ := List.mem_map.mp present
    exact ⟨[.setUpGroup "s" "g"], rfl, ⟨_, rfl⟩, rfl, rfl, rfl⟩
  have unharmed : ∀ event ∈ turnAbout, ¬ event.IsStoreCrash := by
    simp [turnAbout, Event.IsStoreCrash]
  have ownOnly : ∀ event ∈ turnAbout, ¬ event.IsForeignSend := by
    simp [turnAbout, Event.IsForeignSend]
  have apart : ∀ event ∈ turnAbout, ∀ index call, event = .callBroker index call →
      call.SparesGroup oneByOne.consumer := by
    rintro event present index call rfl
    simp only [turnAbout, List.mem_cons, reduceCtorEq, Event.callBroker.injEq, List.not_mem_nil,
      or_false, false_or] at present
    rcases present with ⟨-, rfl⟩ | ⟨-, rfl⟩
    · exact ⟨rfl, fun count same => by cases same⟩
    · exact ⟨rfl, fun count same => by cases same⟩
  have gentle : ∀ event ∈ turnAbout, event.IsGentle oneByOne.consumer := fun event present =>
    ⟨unharmed event present, ownOnly event present, apart event present⟩
  obtain ⟨-, pages, count, -, interleaves, -⟩ :=
    delivers_once_in_order prepared gentle ran finished
  exact ⟨ledger, last, ran, prepared, gentle, finished, routed, remainder, acked, pages, count,
    interleaves⟩

end Intake
end FuzzIntake
