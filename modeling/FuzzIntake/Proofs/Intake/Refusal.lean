import FuzzIntake.Proofs.Intake.LateSends
import FuzzIntake.Proofs.Intake.Omission

/-!
# Sources that are refused their groups

A consumer that is refused its group ends with the refusal.  Until then it sends nothing to
the queue, and it does not stand in line.  So whatever happens to an intake with such sources
is nothing, or can happen to the intake without them and leads to the same.
-/

namespace FuzzIntake

namespace Source

/-- A source whose consumer would be refused its group now. -/
def Refuses (source : Source) : Prop :=
  ∃ error, (source.broker.broker.setUpGroup source.consumer.settings.stream
    source.consumer.settings.group).1 = .error error

/-- A source whose broker fails every request for a group. -/
def IsBarred (source : Source) : Prop :=
  source.broker.broker.setupError ≠ none

/-- A source whose consumer has not asked for its group yet, or was refused it. -/
def IsOutside (source : Source) : Prop :=
  source.consumer.phase = .joining ∨ ∃ error, source.consumer.phase = .ended (.failed error)

variable {source : Source} {now : Instant} {cancelled : Bool}

/-- Outside its group a consumer can do nothing but ask for it. -/
theorem IsOutside.eq_join
    {move : Consumer.Move}
    {consumer : Consumer}
    {broker : SwitchedBroker}
    (outside : source.IsOutside)
    (moved : source.consumer.move? now cancelled source.broker move = some (consumer, broker)) :
    move = .join ∧ source.consumer.phase = .joining := by
  rcases outside with joining | ⟨error, ended⟩
  · refine ⟨?_, joining⟩
    cases move with
    | join => rfl
    | _ => simp [Consumer.move?, joining] at moved
  · cases move <;> simp [Consumer.move?, ended] at moved

theorem IsOutside.offered? (outside : source.IsOutside) : source.consumer.offered? = none := by
  rw [Consumer.offered?]
  rcases outside with phase | ⟨error, phase⟩
  · rw [phase]
  · rw [phase]

theorem IsOutside.alarm? (outside : source.IsOutside) : source.consumer.alarm? = none := by
  rw [Consumer.alarm?]
  rcases outside with phase | ⟨error, phase⟩
  · rw [phase]
  · rw [phase]

theorem IsOutside.isInterruptible (outside : source.IsOutside) :
    source.consumer.isInterruptible = false := by
  rw [Consumer.isInterruptible]
  rcases outside with phase | ⟨error, phase⟩
  · rw [phase]
  · rw [phase]

theorem IsBarred.refuses (barred : source.IsBarred) : source.Refuses := by
  obtain ⟨detail, failing⟩ := Option.ne_none_iff_exists'.mp barred
  refine ⟨.groupSetup detail, ?_⟩
  rw [LocalBroker.setUpGroup, failing]

/-- A consumer that is refused its group ends. -/
theorem Refuses.exists_join
    (refuses : source.Refuses)
    (joining : source.consumer.phase = .joining)
    (now : Instant)
    (cancelled : Bool) :
    ∃ error consumer broker,
      source.consumer.move? now cancelled source.broker .join = some (consumer, broker) ∧
        consumer.phase = .ended (.failed error) ∧
        (source.IsBarred → broker.broker.setupError ≠ none) := by
  obtain ⟨error, refused⟩ := refuses
  have served : source.broker.broker.serve? (.setUpGroup source.consumer.settings.stream
    source.consumer.settings.group) = some _ := rfl
  refine ⟨error, _, _, by rw [Consumer.move?, joining], ?_, fun barred => ?_⟩
  · simp only [refused, Consumer.joined]
  · exact (LocalBroker.failsNoMore_of_serve? served).setUp barred

end Source

namespace Intake

open Omission

variable {omitted : List Bool} {labels : List String} {whole next : Intake} {event : Event}

/-! ## What an event leaves alone -/

/-- An event replaces no source but the one it is about, and that keeps its label. -/
def Replaces (intake : Intake) (event : Event) (next : Intake) : Prop :=
  next.sources = intake.sources ∨
    ∃ index source later, event.party? = some index ∧ intake.sources[index]? = some source ∧
      later.label = source.label ∧ next.sources = intake.sources.set index later

theorem replaces_of_set
    {index : Nat}
    {source later : Source}
    (about : event.party? = some index)
    (found : whole.sources[index]? = some source)
    (replaced : next.sources = whole.sources.set index later)
    (sameLabel : later.label = source.label) :
    whole.Replaces event next :=
  .inr ⟨index, source, later, about, found, sameLabel, replaced⟩

theorem replaces_of_act?
    {action : Action}
    (acted : whole.act? action = some next) :
    whole.Replaces (.act action) next := by
  cases effect_of_act? acted with
  | consume _ found _ | enqueue _ _ found _ _ _ | halt _ _ found _ =>
      exact replaces_of_set rfl found rfl rfl
  | stand _ _ _ _ _ _ | look _ _ | receive _ _ _ _ | runDry _ _ _ | lapse _ _ _ _
  | stopFlush _ _ _ | submit _ _ _ _ | refuse _ _ _ _ _ | work _ _ | release _ _ _ _
  | collect _ _ _ | gather _ _ | close _ _ | finish _ _ => exact .inl rfl

theorem replaces_of_happen?
    (happened : whole.happen? event = some next) :
    whole.Replaces event next := by
  cases occurrence_of_happen? happened with
  | act acted => exact replaces_of_act? acted
  | send operations =>
      rw [send]
      split
      · exact .inl rfl
      · exact .inl rfl
  | callBroker found _ | crashReads _ found => exact replaces_of_set rfl found rfl rfl
  | start _ | startAgain _ | cancel | wait _ | offer _ _ | line _ _ | withdraw _ | dropSender
  | touchStore _ | delayStore _ | crashStore _ => exact .inl rfl

theorem getElem?_setSource
    {index : Nat}
    {source : Source}
    (found : whole.sources[index]? = some source)
    (other : Nat)
    (later : Source) :
    (whole.setSource index later).sources[other]? =
      if index = other then some later else whole.sources[other]? := by
  have inside := (List.getElem?_eq_some_iff.mp found).1
  simp only [setSource, List.getElem?_set, inside, if_true]

theorem getElem?_sources_of_happen?
    {index : Nat}
    (others : event.party? ≠ some index)
    (happened : whole.happen? event = some next) :
    next.sources[index]? = whole.sources[index]? := by
  rcases replaces_of_happen? happened with same | ⟨other, source, later, about, -, -, replaced⟩
  · rw [same]
  · have apart : other ≠ index := by
      rintro rfl
      exact others about
    rw [replaced, List.getElem?_set_ne apart]

/-! ## Events of the sources left out -/

/-- An intake of which all sources left out are outside their groups. -/
structure IsIsolated (omitted : List Bool) (labels : List String) (intake : Intake) : Prop where
  labelled : intake.sources.map Source.label = labels
  aligned : omitted.length = labels.length
  outside : ∀ (index : Nat) (source : Source), omitted[index]? = some true →
    intake.sources[index]? = some source → source.IsOutside
  lined : intake.IsLinedUp
  deserted : intake.flushCancelled = true ∨ ¬ intake.IsReading → intake.IsDeserted

/-- An event that lets no source left out into its group. -/
def KeepsOut (omitted : List Bool) (intake : Intake) (event : Event) : Prop :=
  ∀ (index : Nat) (source : Source), event = .act (.consume index .join) →
    omitted[index]? = some true → intake.sources[index]? = some source → source.Refuses

theorem IsIsolated.exists_source
    {index : Nat}
    (isolated : IsIsolated omitted labels whole)
    (isOmitted : omitted[index]? = some true) :
    ∃ source, whole.sources[index]? = some source ∧ source.IsOutside := by
  have inside : index < whole.sources.length := by
    have bound := (List.getElem?_eq_some_iff.mp isOmitted).1
    rwa [isolated.aligned, ← isolated.labelled, List.length_map] at bound
  have found := List.getElem?_eq_getElem inside
  exact ⟨_, found, isolated.outside index _ isOmitted found⟩

theorem IsIsolated.isLineKept (isolated : IsIsolated omitted labels whole) :
    whole.IsLineKept omitted := by
  intro sender present isOmitted
  obtain ⟨source, found, outside⟩ := isolated.exists_source isOmitted
  exact isolated.lined sender present source found outside.offered?

/-- Where the queue takes nothing and the warehouse is asked nothing, nothing is entered. -/
theorem entry_of_nothing
    (noneTaken : whole.taken event = [])
    (noOrder : whole.order? event = none) :
    whole.entry event = .empty := by
  rw [entry, noneTaken, bookings, noOrder]
  split
  · rfl
  · rfl

/-- All that the consumer of a source left out can do is ask for its group. -/
theorem IsIsolated.eq_join
    {index : Nat}
    {action : Action}
    (isolated : IsIsolated omitted labels whole)
    (about : (Event.act action).party? = some index)
    (isOmitted : omitted[index]? = some true)
    (acted : whole.act? action = some next) :
    action = .consume index .join ∧ whole.isRunning = true ∧
      ∃ source, whole.sources[index]? = some source ∧ source.consumer.phase = .joining := by
  obtain ⟨source, found, outside⟩ := isolated.exists_source isOmitted
  cases action with
  | consume other move =>
      obtain rfl := Option.some.inj about
      obtain ⟨running, consumed⟩ := Option.ite_none_right_eq_some.mp acted
      rw [found, Option.bind_some] at consumed
      obtain ⟨⟨consumer, broker⟩, moved, -⟩ := Option.map_eq_some_iff.mp consumed
      obtain ⟨rfl, joining⟩ := outside.eq_join moved
      exact ⟨rfl, running, source, found, joining⟩
  | enqueue other =>
      obtain rfl := Option.some.inj about
      obtain ⟨-, enqueued⟩ := Option.ite_none_right_eq_some.mp acted
      rw [found, Option.bind_some, outside.offered?] at enqueued
      cases enqueued
  | stand other =>
      obtain rfl := Option.some.inj about
      obtain ⟨-, stood⟩ := Option.ite_none_right_eq_some.mp acted
      rw [found, Option.bind_some, outside.offered?] at stood
      cases stood
  | halt other =>
      obtain rfl := Option.some.inj about
      obtain ⟨-, halted⟩ := Option.ite_none_right_eq_some.mp acted
      rw [found, Option.bind_some, outside.isInterruptible] at halted
      cases halted
  | _ => cases about

/-- A consumer that asks for its group and is refused it ends. -/
theorem join_of_refuses
    {index : Nat}
    {source : Source}
    (running : whole.isRunning = true)
    (found : whole.sources[index]? = some source)
    (joining : source.consumer.phase = .joining)
    (refuses : source.Refuses) :
    ∃ later error, later.consumer.phase = .ended (.failed error) ∧
      (source.IsBarred → later.IsBarred) ∧
      whole.act? (.consume index .join) = some (whole.setSource index later) := by
  obtain ⟨error, consumer, broker, joined, ended, barred⟩ :=
    refuses.exists_join joining whole.now whole.cancelled
  refine ⟨{ source with consumer := consumer, broker := broker }, error, ended, barred, ?_⟩
  rw [act?, consume?, if_pos running, found, Option.bind_some, joined]
  rfl

/-- An event about a source left out changes this source, which stays outside, and nothing
else. -/
theorem IsIsolated.eq_setSource
    {index : Nat}
    (isolated : IsIsolated omitted labels whole)
    (keepsOut : whole.KeepsOut omitted event)
    (about : event.party? = some index)
    (isOmitted : omitted[index]? = some true)
    (happened : whole.happen? event = some next) :
    ∃ source later, whole.sources[index]? = some source ∧ later.IsOutside ∧
      (source.IsBarred → later.IsBarred) ∧ next = whole.setSource index later ∧
      whole.entry event = .empty := by
  obtain ⟨source, found, outside⟩ := isolated.exists_source isOmitted
  cases event with
  | act action =>
      obtain ⟨rfl, running, asking, present, joining⟩ :=
        isolated.eq_join about isOmitted happened
      obtain ⟨later, error, ended, barred, refused⟩ := join_of_refuses running present joining
        (keepsOut index asking rfl isOmitted present)
      refine ⟨asking, later, present, .inr ⟨error, ended⟩, barred, ?_, entry_of_nothing rfl rfl⟩
      exact Option.some.inj (happened.symm.trans refused)
  | offer sender operation | line sender | withdraw sender =>
      obtain rfl := Option.some.inj about
      obtain ⟨admitted, -⟩ := Option.ite_none_right_eq_some.mp happened
      exact absurd (found.symm.trans (getElem?_of_admits admitted)) (Option.some_ne_none _)
  | callBroker other call =>
      obtain rfl := Option.some.inj about
      rw [happen?, found, Option.bind_some] at happened
      obtain ⟨broker, served, rfl⟩ := Option.map_eq_some_iff.mp happened
      exact ⟨source, { source with broker := { source.broker with broker := broker } }, found,
        outside, fun barred => (LocalBroker.failsNoMore_of_serve? served).setUp barred, rfl,
        entry_of_nothing rfl rfl⟩
  | crashReads other count =>
      obtain rfl := Option.some.inj about
      rw [happen?, found, Option.map_some] at happened
      obtain rfl := Option.some.inj happened
      exact ⟨source, { source with broker := { source.broker with crashes := count } }, found,
        outside, id, rfl, entry_of_nothing rfl rfl⟩
  | _ => cases about

theorem IsIsolated.happen
    (isolated : IsIsolated omitted labels whole)
    (keepsOut : whole.KeepsOut omitted event)
    (happened : whole.happen? event = some next) :
    IsIsolated omitted labels next where
  labelled := by
    rcases replaces_of_happen? happened with same | ⟨index, source, later, -, found, same, replaced⟩
    · rw [same, isolated.labelled]
    · obtain ⟨inside, rfl⟩ := List.getElem?_eq_some_iff.mp found
      rw [replaced, List.map_set, same, ← List.map_set, List.set_getElem_self,
        isolated.labelled]
  aligned := isolated.aligned
  outside index source isOmitted found := by
    by_cases about : event.party? = some index
    · obtain ⟨before, later, present, outside, -, rfl, -⟩ :=
        isolated.eq_setSource keepsOut about isOmitted happened
      rw [getElem?_setSource present, if_pos rfl] at found
      exact Option.some.inj found ▸ outside
    · rw [getElem?_sources_of_happen? about happened] at found
      exact isolated.outside index source isOmitted found
  lined := (tail_of_happen? happened).lined isolated.lined
  deserted := deserted_of_happen? isolated.deserted happened

/-- Without the sources left out, an event about one of them does nothing. -/
theorem IsIsolated.without_of_not_isKept
    (isolated : IsIsolated omitted labels whole)
    (keepsOut : whole.KeepsOut omitted event)
    (notKept : ¬ event.IsKept omitted)
    (happened : whole.happen? event = some next) :
    next.without omitted = whole.without omitted ∧ whole.entry event = .empty := by
  simp only [Event.IsKept, Keeps, not_forall, not_not] at notKept
  obtain ⟨index, about, isOmitted⟩ := notKept
  obtain ⟨-, later, -, -, -, rfl, noEntry⟩ :=
    isolated.eq_setSource keepsOut about isOmitted happened
  refine ⟨?_, noEntry⟩
  simp only [setSource, without, kept_set_of_omitted isOmitted]

/-- If a decision is due for which all consumers must have ended, they have. -/
theorem all_hasEnded_of_isClosing
    (closing : event.IsClosing)
    (goesOn : whole.flushCancelled = false)
    (happened : whole.happen? event = some next) :
    whole.sources.all hasEnded = true := by
  cases event with
  | act action =>
      cases action with
      | stopFlush =>
          obtain ⟨⟨-, stops⟩, -⟩ := Option.ite_none_right_eq_some.mp happened
          simp only [goesOn, Bool.false_or, Bool.and_eq_true, isUnfed] at stops
          exact stops.1.2
      | release =>
          obtain ⟨⟨-, -, -, allEnded⟩, -⟩ := Option.ite_none_right_eq_some.mp happened
          exact allEnded
      | _ => exact absurd closing id
  | _ => exact absurd closing id

/-- Without the sources left out, an event about others does what it does with them. -/
theorem IsIsolated.happen?_of_isKept
    (isolated : IsIsolated omitted labels whole)
    (isKept : event.IsKept omitted)
    (happened : whole.happen? event = some next) :
    (whole.without omitted).happen? (event.renumber (place omitted)) =
      some (next.without omitted) := by
  rw [happen?_without isolated.isLineKept ?_ isKept, happened, Option.map_some]
  intro closing _ goesOn
  have allEnded := all_hasEnded_of_isClosing closing goesOn happened
  rw [allEnded, List.all_eq_true]
  intro source present
  exact List.all_eq_true.mp allEnded source ((kept_sublist omitted whole.sources).subset present)

end Intake
end FuzzIntake
