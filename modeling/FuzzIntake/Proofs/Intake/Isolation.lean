import FuzzIntake.Proofs.Intake.Refusal

/-!
# Additional sources that are refused their groups

Additional sources that are refused their groups are isolated: an intake does with them what
it does without them.  Only the end of the queue and the release of the flush loop have to wait
until the consumers of these sources have ended as well, which each of them can at any moment
while the intake runs.  In virtual time they have done so before time goes on.
-/

namespace FuzzIntake
namespace Intake

open Omission

variable {omitted : List Bool} {labels : List String} {whole next : Intake} {event : Event}

/-! ## Virtual time -/

/-- An intake in which nothing happens by itself. -/
def IsAtRest (intake : Intake) : Prop :=
  ∀ action, intake.act? action = none

/-- Whether time may go on to an instant: nothing happens by itself, and no alarm is passed. -/
def MayWait (intake : Intake) (instant : Instant) : Prop :=
  intake.IsAtRest ∧ ∀ alarm ∈ intake.alarms, intake.now < alarm → instant ≤ alarm

/-- A run in virtual time. -/
def IsInTime (intake : Intake) : List Event → Prop
  | [] => True
  | event :: rest =>
      (∀ instant, event = .wait instant → intake.MayWait instant) ∧
        ∀ next, intake.happen? event = some next → next.IsInTime rest

/-- A run after a run in virtual time. -/
theorem isInTime_append
    {earlier later : List Event}
    {first middle : Intake}
    {ledger : Ledger}
    (inTime : first.IsInTime earlier)
    (ran : first.run? earlier = some (ledger, middle))
    (inTimeLater : middle.IsInTime later) :
    first.IsInTime (earlier ++ later) := by
  induction earlier generalizing first ledger with
  | nil =>
      obtain ⟨-, rfl⟩ := Prod.mk.inj (Option.some.inj ran)
      exact inTimeLater
  | cons event rest inductionHypothesis =>
      obtain ⟨next, happened, remains⟩ := Option.bind_eq_some_iff.mp ran
      obtain ⟨⟨entries, reached⟩, ranOn, same⟩ := Option.map_eq_some_iff.mp remains
      obtain ⟨-, rfl⟩ := Prod.mk.inj same
      refine ⟨inTime.1, fun other happenedToo => ?_⟩
      obtain rfl := Option.some.inj (happened.symm.trans happenedToo)
      exact inductionHypothesis (inTime.2 next happened) ranOn

/-- The sources left out have no alarms. -/
theorem IsIsolated.alarms_without (isolated : IsIsolated omitted labels whole) :
    (whole.without omitted).alarms = whole.alarms := by
  have sameAlarms :
      (kept omitted whole.sources).filterMap (fun source => source.consumer.alarm?) =
        whole.sources.filterMap fun source => source.consumer.alarm? :=
    filterMap_kept fun index source isOmitted found =>
      (isolated.outside index source isOmitted found).alarm?
  rw [alarms, alarms, ← sameAlarms]
  rfl

/-- The sources left out have all been refused their groups, or the intake does not run. -/
def IsAnswered (omitted : List Bool) (intake : Intake) : Prop :=
  intake.isRunning = true → ∀ (index : Nat) (source : Source), omitted[index]? = some true →
    intake.sources[index]? = some source → source.consumer.phase ≠ .joining

/-- Once the sources left out have been refused their groups, it counts whether the other
consumers have ended. -/
theorem IsIsolated.all_hasEnded
    (isolated : IsIsolated omitted labels whole)
    (answered : whole.IsAnswered omitted)
    (running : whole.isRunning = true) :
    (kept omitted whole.sources).all hasEnded = whole.sources.all hasEnded := by
  rw [Bool.eq_iff_iff, List.all_eq_true, List.all_eq_true]
  constructor
  · intro othersEnded
    refine forall_of_kept othersEnded fun index source isOmitted found => ?_
    rcases isolated.outside index source isOmitted found with joining | ⟨error, ended⟩
    · exact absurd joining (answered running index source isOmitted found)
    · rw [hasEnded, Consumer.result?, ended]
      rfl
  · exact fun allEnded source present =>
      allEnded source ((kept_sublist omitted whole.sources).subset present)

/-- Once the sources left out have been refused their groups, what can happen without them can
happen with them. -/
theorem IsIsolated.exists_happen_of_isAnswered
    {small : Intake}
    (isolated : IsIsolated omitted labels whole)
    (answered : whole.IsAnswered omitted)
    (happened : (whole.without omitted).happen? event = some small) :
    ∃ next, whole.happen? (event.renumber (origin omitted)) = some next ∧
      next.without omitted = small := by
  have matching := happen?_without isolated.isLineKept
    (fun _ running _ => isolated.all_hasEnded answered running)
    (Event.isKept_renumber_origin omitted event)
  rw [Event.renumber_place_origin, happened] at matching
  exact Option.map_eq_some_iff.mp matching.symm

/-- At rest, the sources left out have been refused their groups. -/
theorem isAnswered_of_isAtRest (resting : whole.IsAtRest) : whole.IsAnswered omitted := by
  intro running index source _ found joining
  have stuck := resting (.consume index .join)
  rw [act?, consume?, if_pos running, found, Option.bind_some, Consumer.move?, joining] at stuck
  cases stuck

theorem IsIsolated.isAtRest_without
    (isolated : IsIsolated omitted labels whole)
    (resting : whole.IsAtRest) :
    (whole.without omitted).IsAtRest := by
  intro action
  by_contra possible
  obtain ⟨small, acted⟩ := Option.ne_none_iff_exists'.mp possible
  have happened : (whole.without omitted).happen? (.act action) = some small := acted
  obtain ⟨next, happenedHere, -⟩ :=
    isolated.exists_happen_of_isAnswered (isAnswered_of_isAtRest resting) happened
  cases (resting (action.renumber (origin omitted))).symm.trans happenedHere

theorem IsIsolated.isAtRest_of_without
    (isolated : IsIsolated omitted labels whole)
    (answered : whole.IsAnswered omitted)
    (resting : (whole.without omitted).IsAtRest) :
    whole.IsAtRest := by
  intro action
  by_contra possible
  obtain ⟨next, acted⟩ := Option.ne_none_iff_exists'.mp possible
  have happened : whole.happen? (.act action) = some next := acted
  by_cases isKept : (Event.act action).IsKept omitted
  · have happenedAlone := isolated.happen?_of_isKept isKept happened
    cases (resting (action.renumber (place omitted))).symm.trans happenedAlone
  · simp only [Event.IsKept, Keeps, not_forall, not_not] at isKept
    obtain ⟨index, about, isOmitted⟩ := isKept
    obtain ⟨-, running, source, found, joining⟩ := isolated.eq_join about isOmitted acted
    exact answered running index source isOmitted found joining

theorem IsIsolated.mayWait_without
    {instant : Instant}
    (isolated : IsIsolated omitted labels whole)
    (mayWait : whole.MayWait instant) :
    (whole.without omitted).MayWait instant :=
  ⟨isolated.isAtRest_without mayWait.1, isolated.alarms_without ▸ mayWait.2⟩

theorem IsIsolated.mayWait_of_without
    {instant : Instant}
    (isolated : IsIsolated omitted labels whole)
    (answered : whole.IsAnswered omitted)
    (mayWait : (whole.without omitted).MayWait instant) :
    whole.MayWait instant :=
  ⟨isolated.isAtRest_of_without answered mayWait.1, isolated.alarms_without ▸ mayWait.2⟩

/-! ## Runs without the sources left out -/

/-- A run that lets no source left out into its group. -/
def ShutsOut (omitted : List Bool) (intake : Intake) : List Event → Prop
  | [] => True
  | event :: rest =>
      intake.KeepsOut omitted event ∧
        ∀ next, intake.happen? event = some next → next.ShutsOut omitted rest

/-- Without the sources left out, a run is the run of the other events, with the same ledger,
and in virtual time if the run was. -/
theorem IsIsolated.run
    {events : List Event}
    {ledger : Ledger}
    {last : Intake}
    (isolated : IsIsolated omitted labels whole)
    (shutsOut : whole.ShutsOut omitted events)
    (ran : whole.run? events = some (ledger, last)) :
    IsIsolated omitted labels last ∧
      (whole.without omitted).run? (events.filterMap (Event.erase? omitted)) =
        some (ledger, last.without omitted) ∧
      (whole.IsInTime events →
        (whole.without omitted).IsInTime (events.filterMap (Event.erase? omitted))) := by
  induction events generalizing whole ledger with
  | nil =>
      obtain ⟨rfl, rfl⟩ := Prod.mk.inj (Option.some.inj ran)
      exact ⟨isolated, rfl, id⟩
  | cons event rest inductionHypothesis =>
      obtain ⟨next, happened, remains⟩ := Option.bind_eq_some_iff.mp ran
      obtain ⟨⟨later, reached⟩, ranOn, same⟩ := Option.map_eq_some_iff.mp remains
      obtain ⟨rfl, rfl⟩ := Prod.mk.inj same
      obtain ⟨keepsOut, shutsOutNext⟩ := shutsOut
      obtain ⟨isolatedLast, ranWithout, inTimeWithout⟩ :=
        inductionHypothesis (isolated.happen keepsOut happened) (shutsOutNext next happened) ranOn
      refine ⟨isolatedLast, ?_⟩
      by_cases isKept : event.IsKept omitted
      · have happenedAlone := isolated.happen?_of_isKept isKept happened
        rw [List.filterMap_cons, Event.erase?, if_pos isKept]
        refine ⟨?_, fun inTime => ⟨fun instant waits => ?_, fun other happenedToo => ?_⟩⟩
        · simp only [run?]
          rw [happenedAlone, Option.bind_some, ranWithout, entry_without isKept]
          rfl
        · exact isolated.mayWait_without (inTime.1 instant (Event.eq_wait_of_renumber waits))
        · obtain rfl := Option.some.inj (happenedAlone.symm.trans happenedToo)
          exact inTimeWithout (inTime.2 next happened)
      · obtain ⟨unchanged, noEntry⟩ := isolated.without_of_not_isKept keepsOut isKept happened
        rw [List.filterMap_cons, Event.erase?, if_neg isKept, ← unchanged, ranWithout, noEntry,
          Ledger.empty_append]
        exact ⟨rfl, fun inTime => inTimeWithout (inTime.2 next happened)⟩

/-- Sources whose brokers fail every request for a group are let into none. -/
theorem IsIsolated.shutsOut_of_barred
    (isolated : IsIsolated omitted labels whole)
    (barred : ∀ (index : Nat) (source : Source), omitted[index]? = some true →
      whole.sources[index]? = some source → source.IsBarred)
    (events : List Event) :
    whole.ShutsOut omitted events := by
  induction events generalizing whole with
  | nil => exact trivial
  | cons event rest inductionHypothesis =>
      have keepsOut : whole.KeepsOut omitted event := fun index source _ isOmitted found =>
        (barred index source isOmitted found).refuses
      refine ⟨keepsOut, fun next happened => ?_⟩
      refine inductionHypothesis (isolated.happen keepsOut happened) ?_
      intro index source isOmitted found
      by_cases about : event.party? = some index
      · obtain ⟨before, later, present, -, stillBarred, rfl, -⟩ :=
          isolated.eq_setSource keepsOut about isOmitted happened
        rw [getElem?_setSource present, if_pos rfl] at found
        exact Option.some.inj found ▸ stillBarred (barred index before isOmitted present)
      · rw [getElem?_sources_of_happen? about happened] at found
        exact barred index source isOmitted found

/-! ## Runs with the additional sources -/

/-- An intake of which every source left out that has not asked for its group would be refused
it now. -/
def IsShut (omitted : List Bool) (intake : Intake) : Prop :=
  ∀ (index : Nat) (source : Source), omitted[index]? = some true →
    intake.sources[index]? = some source → source.consumer.phase = .joining → source.Refuses

/-- An event about another source lets none of those left out into its group. -/
theorem keepsOut_of_isKept (isKept : event.IsKept omitted) : whole.KeepsOut omitted event := by
  rintro index source rfl isOmitted _
  exact absurd isOmitted (isKept index rfl)

theorem IsShut.happen
    (shut : whole.IsShut omitted)
    (isKept : event.IsKept omitted)
    (happened : whole.happen? event = some next) :
    next.IsShut omitted := by
  intro index source isOmitted found
  have others : event.party? ≠ some index := fun about => isKept index about isOmitted
  rw [getElem?_sources_of_happen? others happened] at found
  exact shut index source isOmitted found

/-- What the sources left out can do to an intake that is the same without them. -/
structure Aside (omitted : List Bool) (labels : List String) (whole next : Intake) : Prop where
  ran : ∃ events, whole.run? events = some (.empty, next) ∧
    events.filterMap (Event.erase? omitted) = []
  same : next.without omitted = whole.without omitted
  isolated : IsIsolated omitted labels next
  shut : next.IsShut omitted

/-- A source left out is refused its group, and nothing else happens. -/
theorem Aside.join
    {index : Nat}
    {source : Source}
    (aside : Aside omitted labels whole next)
    (running : whole.isRunning = true)
    (isOmitted : omitted[index]? = some true)
    (found : next.sources[index]? = some source)
    (joining : source.consumer.phase = .joining) :
    ∃ later, later.consumer.phase ≠ .joining ∧
      Aside omitted labels whole (next.setSource index later) := by
  obtain ⟨events, ran, erased⟩ := aside.ran
  have stillRunning : next.isRunning = true :=
    (congrArg Intake.isRunning aside.same).trans running
  have refuses := aside.shut index source isOmitted found joining
  obtain ⟨later, error, ended, -, happened⟩ := join_of_refuses stillRunning found joining refuses
  have notJoining : later.consumer.phase ≠ .joining := by
    rw [ended]
    exact ConsumerPhase.noConfusion
  have keepsOut : next.KeepsOut omitted (.act (.consume index .join)) := by
    intro other before same _ present
    cases same
    exact Option.some.inj (found.symm.trans present) ▸ refuses
  have notKept : ¬ (Event.act (.consume index .join)).IsKept omitted :=
    fun isKept => isKept index rfl isOmitted
  have refused : next.happen? (.act (.consume index .join)) =
    some (next.setSource index later) := happened
  obtain ⟨unchanged, noEntry⟩ := aside.isolated.without_of_not_isKept keepsOut notKept refused
  refine ⟨later, notJoining, ⟨events ++ [.act (.consume index .join)], ?_, ?_⟩,
    unchanged.trans aside.same, aside.isolated.happen keepsOut refused, ?_⟩
  · have ranOn := run?_singleton refused
    rw [noEntry] at ranOn
    exact run?_append ran ranOn
  · rw [List.filterMap_append, erased, List.filterMap_cons, Event.erase?, if_neg notKept]
    rfl
  · intro other before isOmittedToo present stillJoining
    rw [getElem?_setSource found] at present
    split at present
    · exact absurd stillJoining (Option.some.inj present ▸ notJoining)
    · exact aside.shut other before isOmittedToo present stillJoining

/-- While the intake runs, the first of the sources left out can all be refused their groups. -/
theorem IsIsolated.exists_aside
    (isolated : IsIsolated omitted labels whole)
    (shut : whole.IsShut omitted)
    (running : whole.isRunning = true)
    (count : Nat) :
    ∃ next, Aside omitted labels whole next ∧
      ∀ (index : Nat) (source : Source), index < count → omitted[index]? = some true →
        next.sources[index]? = some source → source.consumer.phase ≠ .joining := by
  induction count with
  | zero =>
      exact ⟨whole, ⟨⟨[], rfl, rfl⟩, rfl, isolated, shut⟩,
        fun _ _ before => absurd before (Nat.not_lt_zero _)⟩
  | succ count inductionHypothesis =>
      obtain ⟨next, aside, answered⟩ := inductionHypothesis
      by_cases waits : ∃ source, omitted[count]? = some true ∧
          next.sources[count]? = some source ∧ source.consumer.phase = .joining
      · obtain ⟨source, isOmitted, found, joining⟩ := waits
        obtain ⟨later, notJoining, asideLater⟩ := aside.join running isOmitted found joining
        refine ⟨_, asideLater, fun index before bound isOmittedToo present => ?_⟩
        rw [getElem?_setSource found] at present
        split at present
        · exact Option.some.inj present ▸ notJoining
        · exact answered index before (by omega) isOmittedToo present
      · refine ⟨next, aside, fun index source bound isOmitted found joining => ?_⟩
        by_cases same : count = index
        · subst same
          exact waits ⟨source, isOmitted, found, joining⟩
        · exact answered index source (by omega) isOmitted found joining

/-- The sources left out can all be refused their groups before anything else happens. -/
theorem IsIsolated.exists_answered
    (isolated : IsIsolated omitted labels whole)
    (shut : whole.IsShut omitted) :
    ∃ next, Aside omitted labels whole next ∧ next.IsAnswered omitted := by
  by_cases running : whole.isRunning = true
  · obtain ⟨next, aside, answered⟩ := isolated.exists_aside shut running omitted.length
    refine ⟨next, aside, fun _ index source isOmitted => ?_⟩
    exact answered index source (List.getElem?_eq_some_iff.mp isOmitted).1 isOmitted
  · exact ⟨whole, ⟨⟨[], rfl, rfl⟩, rfl, isolated, shut⟩, fun runs => absurd runs running⟩

/-- Nothing that the sources left out do takes time. -/
theorem isInTime_of_erased
    {events : List Event}
    (erased : events.filterMap (Event.erase? omitted) = []) :
    whole.IsInTime events := by
  induction events generalizing whole with
  | nil => exact trivial
  | cons event rest inductionHypothesis =>
      rw [List.filterMap_eq_nil_iff] at erased
      refine ⟨?_, fun next _ => inductionHypothesis ?_⟩
      · rintro instant rfl
        have notKept := erased (.wait instant) List.mem_cons_self
        simp [Event.erase?, Event.IsKept, Event.party?] at notKept
      · exact List.filterMap_eq_nil_iff.mpr fun other present =>
          erased other (List.mem_cons_of_mem event present)

/-- What can happen without the sources left out can happen with them, after they have been
refused their groups. -/
theorem IsIsolated.exists_happen
    {small : Intake}
    (isolated : IsIsolated omitted labels whole)
    (shut : whole.IsShut omitted)
    (happened : (whole.without omitted).happen? event = some small) :
    ∃ events next, whole.run? events = some ((whole.without omitted).entry event, next) ∧
      events.filterMap (Event.erase? omitted) = [event] ∧ next.without omitted = small ∧
      IsIsolated omitted labels next ∧ next.IsShut omitted ∧
      ((∀ instant, event = .wait instant → (whole.without omitted).MayWait instant) →
        whole.IsInTime events) := by
  obtain ⟨ready, aside, answered⟩ := isolated.exists_answered shut
  obtain ⟨events, ran, erased⟩ := aside.ran
  have isKept := Event.isKept_renumber_origin omitted event
  rw [← aside.same] at happened
  obtain ⟨next, happenedHere, rfl⟩ :=
    aside.isolated.exists_happen_of_isAnswered answered happened
  have sameEntry : (ready.without omitted).entry _ = ready.entry _ := entry_without isKept
  refine ⟨events ++ [event.renumber (origin omitted)], next, ?_, ?_, rfl,
    aside.isolated.happen (keepsOut_of_isKept isKept) happenedHere,
    aside.shut.happen isKept happenedHere, fun inTime => ?_⟩
  · have ranOn := run?_append ran (run?_singleton happenedHere)
    rwa [← sameEntry, Event.renumber_place_origin, aside.same, Ledger.empty_append] at ranOn
  · rw [List.filterMap_append, erased, List.filterMap_cons, Event.erase?_renumber_origin]
    rfl
  · refine isInTime_append (isInTime_of_erased erased) ran ⟨?_, fun _ _ => trivial⟩
    intro instant waits
    have mayWait := inTime instant (Event.eq_wait_of_renumber waits)
    rw [← aside.same] at mayWait
    exact aside.isolated.mayWait_of_without answered mayWait

/-- Every run without the sources left out is what a run with them comes to, and in virtual
time if that is. -/
theorem IsIsolated.exists_run
    {events : List Event}
    {ledger : Ledger}
    {small : Intake}
    (isolated : IsIsolated omitted labels whole)
    (shut : whole.IsShut omitted)
    (ran : (whole.without omitted).run? events = some (ledger, small)) :
    ∃ further last, whole.run? further = some (ledger, last) ∧
      further.filterMap (Event.erase? omitted) = events ∧ last.without omitted = small ∧
      IsIsolated omitted labels last ∧
      ((whole.without omitted).IsInTime events → whole.IsInTime further) := by
  induction events generalizing whole ledger with
  | nil =>
      obtain ⟨rfl, rfl⟩ := Prod.mk.inj (Option.some.inj ran)
      exact ⟨[], whole, rfl, rfl, rfl, isolated, id⟩
  | cons event rest inductionHypothesis =>
      obtain ⟨middle, happened, remains⟩ := Option.bind_eq_some_iff.mp ran
      obtain ⟨⟨later, reached⟩, ranOn, same⟩ := Option.map_eq_some_iff.mp remains
      obtain ⟨rfl, rfl⟩ := Prod.mk.inj same
      obtain ⟨first, next, ranFirst, erasedFirst, rfl, isolatedNext, shutNext, inTimeFirst⟩ :=
        isolated.exists_happen shut happened
      obtain ⟨further, last, ranLater, erased, ends, isolatedLast, inTimeLater⟩ :=
        inductionHypothesis isolatedNext shutNext ranOn
      refine ⟨first ++ further, last, run?_append ranFirst ranLater, ?_, ends, isolatedLast,
        fun inTime => ?_⟩
      · rw [List.filterMap_append, erasedFirst, erased]
        rfl
      · exact isInTime_append (inTimeFirst inTime.1) ranFirst
          (inTimeLater (inTime.2 _ happened))

/-! ## Intakes with additional sources -/

/-- The consumers with the outcomes they have had so far, in the order of the sources. -/
def outcomes (intake : Intake) : List (String × Option ConsumerResult) :=
  intake.sources.map fun source => (source.label, source.consumer.result?)

/-- What an intake with additional sources that were refused their groups has in common with
the intake without them, and how it reports on all of its sources. -/
structure IsUnaffected (added : List Bool) (labels : List String) (whole alone : Intake) :
    Prop where
  stage : alone.stage = whole.stage
  warehouse : alone.warehouse = whole.warehouse
  report : alone.report? = whole.report?
  outcomes : alone.outcomes = kept added whole.outcomes
  listed : whole.outcomes.map Prod.fst = labels
  complete : whole.stage = .finished → ∀ outcome ∈ whole.outcomes, outcome.2 ≠ none
  failed : whole.stage = .finished → ∀ (index : Nat) (outcome : String × Option ConsumerResult),
    added[index]? = some true → whole.outcomes[index]? = some outcome →
    ∃ error, outcome.2 = some (.failed error)

theorem IsIsolated.isUnaffected (isolated : IsIsolated omitted labels whole) :
    IsUnaffected omitted labels whole (whole.without omitted) := by
  have ended : whole.stage = .finished → whole.IsDeserted := by
    intro finished
    refine isolated.deserted (.inr ?_)
    rintro (ready | running)
    · rw [finished] at ready
      cases ready
    · rw [finished] at running
      cases running
  exact {
    stage := rfl
    warehouse := rfl
    report := rfl
    outcomes := (kept_map _ omitted whole.sources).symm
    listed := by
      rw [← isolated.labelled, Intake.outcomes, List.map_map]
      rfl
    complete := by
      intro finished outcome present
      obtain ⟨source, isSource, rfl⟩ := List.mem_map.mp present
      exact ended finished source isSource
    failed := by
      intro finished index outcome isOmitted found
      rw [Intake.outcomes, List.getElem?_map] at found
      obtain ⟨source, isSource, rfl⟩ := Option.map_eq_some_iff.mp found
      have ends := ended finished source (List.mem_of_getElem? isSource)
      rcases isolated.outside index source isOmitted isSource with joining | ⟨error, failed⟩
      · rw [Consumer.result?, joining] at ends
        exact absurd rfl ends
      · refine ⟨error, ?_⟩
        rw [Consumer.result?, failed] }

variable
  (settings : IntakeSettings)
  (workers : Nat)
  (shared : Bool)
  {added : List Bool}
  {sources : List Source}

/-- An intake that has not started, some of whose sources have not asked for their groups. -/
theorem isIsolated_ofSources
    (aligned : added.length = sources.length)
    (joining : ∀ (index : Nat) (source : Source), added[index]? = some true →
      sources[index]? = some source → source.consumer.phase = .joining) :
    IsIsolated added (sources.map Source.label) (ofSources settings workers shared sources) where
  labelled := rfl
  aligned := by rw [aligned, List.length_map]
  outside index source isAdded found := .inl (joining index source isAdded found)
  lined := (isStranding_ofSources settings workers shared sources).lined
  deserted := (isStranding_ofSources settings workers shared sources).deserted

/-- Additional sources that are refused their groups, wherever they stand among the others,
are isolated.  Every run of the intake with them is, without the events that are about them, a
run of the intake without them; it keeps the same ledger, leaves the same warehouse with its
stores, journals, dead letters and tally, and gives the same report and the same outcomes of
all other consumers.  However the intake without them can go on, it can go on with them, as
long as those that still have to ask for their groups are refused.  Both are so in virtual
time as well. -/
theorem isolates_refused_sources
    {events : List Event}
    {ledger : Ledger}
    {last : Intake}
    (aligned : added.length = sources.length)
    (joining : ∀ (index : Nat) (source : Source), added[index]? = some true →
      sources[index]? = some source → source.consumer.phase = .joining)
    (shutsOut : (ofSources settings workers shared sources).ShutsOut added events)
    (ran : (ofSources settings workers shared sources).run? events = some (ledger, last)) :
    ∃ alone,
      (ofSources settings workers shared (kept added sources)).run?
        (events.filterMap (Event.erase? added)) = some (ledger, alone) ∧
      ((ofSources settings workers shared sources).IsInTime events →
        (ofSources settings workers shared (kept added sources)).IsInTime
          (events.filterMap (Event.erase? added))) ∧
      IsUnaffected added (sources.map Source.label) last alone ∧
      (last.IsShut added → ∀ more later aloneAtLast,
        alone.run? more = some (later, aloneAtLast) →
        ∃ further atLast,
          last.run? further = some (later, atLast) ∧
          further.filterMap (Event.erase? added) = more ∧
          (alone.IsInTime more → last.IsInTime further) ∧
          IsUnaffected added (sources.map Source.label) atLast aloneAtLast) := by
  have start := isIsolated_ofSources settings workers shared aligned joining
  obtain ⟨isolated, ranAlone, inTime⟩ := start.run shutsOut ran
  refine ⟨last.without added, ranAlone, inTime, isolated.isUnaffected, ?_⟩
  intro shut more later aloneAtLast ranOn
  obtain ⟨further, atLast, ranFurther, erased, rfl, isolatedAtLast, inTimeToo⟩ :=
    isolated.exists_run shut ranOn
  exact ⟨further, atLast, ranFurther, erased, inTimeToo, isolatedAtLast.isUnaffected⟩

/-- A source whose broker refuses every group stands before another one. -/
def besideLocked : List Source :=
  [⟨"locked", ⟨{ LocalBroker.empty with setupError := some "NOPERM" }, 0⟩,
      .new oneByOne.consumer⟩,
    ⟨"main", .empty, .new oneByOne.consumer⟩]

/-- One source is refused its group when an operation of the other one has been written. -/
def lockedOut : List Event :=
  [.start, .act (.consume 1 .join), .callBroker 1 (.publish "s" [("op", "create_fuzzer")]),
    .act (.consume 1 .read), .act (.consume 1 .read), .act (.enqueue 1),
    .act (.consume 1 .acknowledge), .act .look, .act .receive, .act .submit,
    .act (.work (.start 0)), .act (.work (.finish 0)), .act (.consume 0 .join), .cancel,
    .act (.halt 1), .act .release, .act .look, .act .stopFlush, .act .collect, .act .close,
    .act (.work .drain), .act .finish]

/-- The source that is refused is reported as failed, and nothing else tells of it. -/
theorem isolates_refused_sources_lockedOut :
    ∃ ledger last alone,
      (ofSources oneByOne 1 false besideLocked).run? lockedOut = some (ledger, last) ∧
      [true, false].length = besideLocked.length ∧
      (∀ source ∈ besideLocked, source.consumer.phase = .joining) ∧
      (ofSources oneByOne 1 false besideLocked).ShutsOut [true, false] lockedOut ∧
      last.stage = .finished ∧
      last.outcomes =
        [("locked", some (.failed (.groupSetup "NOPERM"))),
          ("main", some (.stopped ⟨1, 1, 0, 1, 0⟩))] ∧
      (ofSources oneByOne 1 false (kept [true, false] besideLocked)).run?
        (lockedOut.filterMap (Event.erase? [true, false])) = some (ledger, alone) ∧
      alone.stage = .finished ∧ alone.report? = some ⟨0, 0, 0⟩ ∧
      alone.outcomes = [("main", some (.stopped ⟨1, 1, 0, 1, 0⟩))] ∧
      ledger.books.committed.length = 1 := by
  have evaluated : ((ofSources oneByOne 1 false besideLocked).run? lockedOut).map
        (fun reached =>
          (reached.2.report?, reached.2.outcomes, reached.1.books.committed.length)) =
      some (some ⟨0, 0, 0⟩,
        [("locked", some (.failed (.groupSetup "NOPERM"))),
          ("main", some (.stopped ⟨1, 1, 0, 1, 0⟩))], 1) := by
    decide +kernel
  obtain ⟨⟨ledger, last⟩, ran, facts⟩ := Option.map_eq_some_iff.mp evaluated
  simp only [Prod.mk.injEq] at facts
  obtain ⟨reported, outcomes, committed⟩ := facts
  have finished := stage_of_report? reported
  have fresh : ∀ source ∈ besideLocked, source.consumer.phase = .joining := by
    simp [besideLocked, Consumer.new]
  have joining : ∀ (index : Nat) (source : Source), [true, false][index]? = some true →
      besideLocked[index]? = some source → source.consumer.phase = .joining :=
    fun _ source _ found => fresh source (List.mem_of_getElem? found)
  have barred : ∀ (index : Nat) (source : Source), [true, false][index]? = some true →
      besideLocked[index]? = some source → source.IsBarred := by
    intro index source isAdded found
    obtain rfl : index = 0 := by grind
    obtain rfl := Option.some.inj found
    exact Option.some_ne_none _
  have shutsOut :=
    (isIsolated_ofSources oneByOne 1 false rfl joining).shutsOut_of_barred barred lockedOut
  obtain ⟨alone, ranAlone, -, unaffected, -⟩ :=
    isolates_refused_sources oneByOne 1 false rfl joining shutsOut ran
  refine ⟨ledger, last, alone, ran, rfl, fresh, shutsOut, finished, outcomes, ranAlone,
    unaffected.stage.trans finished, unaffected.report.trans reported, ?_, committed⟩
  rw [unaffected.outcomes, outcomes]
  rfl

end Intake
end FuzzIntake
