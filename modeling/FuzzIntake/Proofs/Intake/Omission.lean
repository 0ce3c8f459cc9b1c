import FuzzIntake.Proofs.Intake.Run

/-!
# Leaving sources out

Some sources of an intake are left out, and those that are kept move up.  Whoever sends to
the queue does so under a number, the consumers under the places of their sources, so the
senders in line are renumbered with the sources.
-/

namespace FuzzIntake

/-! ## Lists of which some items are left out -/

namespace Omission

/-- Whether the item of this place is not left out. -/
def Keeps (omitted : List Bool) (index : Nat) : Prop :=
  omitted[index]? ≠ some true

/-- The items that are not left out. -/
def kept {α : Type} : List Bool → List α → List α
  | [], items => items
  | _ :: _, [] => []
  | true :: omitted, _ :: items => kept omitted items
  | false :: omitted, item :: items => item :: kept omitted items

/-- Where an item comes to stand among those that are kept. -/
def place : List Bool → Nat → Nat
  | [], index => index
  | _ :: _, 0 => 0
  | true :: omitted, index + 1 => place omitted index
  | false :: omitted, index + 1 => place omitted index + 1

/-- Where an item stood that has a place among those that are kept. -/
def origin : List Bool → Nat → Nat
  | [], index => index
  | true :: omitted, index => origin omitted index + 1
  | false :: _, 0 => 0
  | false :: omitted, index + 1 => origin omitted index + 1

variable {α β : Type} {omitted : List Bool} {index other : Nat}

/-- The first of more items is left out. -/
theorem not_keeps_zero : ¬ Keeps (true :: omitted) 0 :=
  fun keeps => keeps rfl

/-- Every place among those that are kept is the place of one that is kept. -/
theorem keeps_origin (omitted : List Bool) (index : Nat) :
    Keeps omitted (origin omitted index) := by
  induction omitted generalizing index with
  | nil => simp [Keeps]
  | cons first rest inductionHypothesis =>
      cases first with
      | true => exact inductionHypothesis index
      | false =>
          cases index with
          | zero => simp [Keeps, origin]
          | succ index => exact inductionHypothesis index

@[simp] theorem place_origin (omitted : List Bool) (index : Nat) :
    place omitted (origin omitted index) = index := by
  induction omitted generalizing index with
  | nil => rfl
  | cons first rest inductionHypothesis =>
      cases first with
      | true => exact inductionHypothesis index
      | false =>
          cases index with
          | zero => rfl
          | succ index => exact congrArg (· + 1) (inductionHypothesis index)

/-- Those that are kept come to stand at different places. -/
theorem place_inj
    (keeps : Keeps omitted index)
    (keepsOther : Keeps omitted other)
    (same : place omitted index = place omitted other) :
    index = other := by
  induction omitted generalizing index other with
  | nil => exact same
  | cons first rest inductionHypothesis =>
      cases first with
      | true =>
          cases index with
          | zero => exact absurd keeps not_keeps_zero
          | succ index =>
              cases other with
              | zero => exact absurd keepsOther not_keeps_zero
              | succ other =>
                  exact congrArg (· + 1) (inductionHypothesis keeps keepsOther same)
      | false =>
          cases index with
          | zero =>
              cases other with
              | zero => rfl
              | succ other => simp [place] at same
          | succ index =>
              cases other with
              | zero => simp [place] at same
              | succ other =>
                  exact congrArg (· + 1)
                    (inductionHypothesis keeps keepsOther (Nat.succ.inj same))

/-- An item that is kept is found at its new place. -/
theorem getElem?_kept
    (keeps : Keeps omitted index)
    (items : List α) :
    (kept omitted items)[place omitted index]? = items[index]? := by
  induction omitted generalizing index items with
  | nil => rfl
  | cons first rest inductionHypothesis =>
      cases items with
      | nil => rfl
      | cons item items =>
          cases index with
          | zero =>
              cases first with
              | true => exact absurd keeps not_keeps_zero
              | false => rfl
          | succ index =>
              cases first with
              | true | false => exact inductionHypothesis keeps items

/-- To replace an item that is kept is to replace it at its new place. -/
theorem kept_set
    (keeps : Keeps omitted index)
    (items : List α)
    (item : α) :
    kept omitted (items.set index item) = (kept omitted items).set (place omitted index) item := by
  induction omitted generalizing index items with
  | nil => rfl
  | cons first rest inductionHypothesis =>
      cases items with
      | nil => rfl
      | cons before items =>
          cases index with
          | zero =>
              cases first with
              | true => exact absurd keeps not_keeps_zero
              | false => rfl
          | succ index =>
              cases first with
              | true => exact inductionHypothesis keeps items
              | false => exact congrArg (before :: ·) (inductionHypothesis keeps items)

/-- It does not matter what an item is that is left out. -/
theorem kept_set_of_omitted
    (isOmitted : omitted[index]? = some true)
    (items : List α)
    (item : α) :
    kept omitted (items.set index item) = kept omitted items := by
  induction omitted generalizing index items with
  | nil => cases isOmitted
  | cons first rest inductionHypothesis =>
      cases items with
      | nil => rfl
      | cons before items =>
          cases index with
          | zero =>
              obtain rfl := Option.some.inj isOmitted
              rfl
          | succ index =>
              cases first with
              | true => exact inductionHypothesis isOmitted items
              | false => exact congrArg (before :: ·) (inductionHypothesis isOmitted items)

@[simp] theorem kept_map (change : α → β) (omitted : List Bool) (items : List α) :
    kept omitted (items.map change) = (kept omitted items).map change := by
  induction omitted generalizing items with
  | nil => rfl
  | cons first rest inductionHypothesis =>
      cases items with
      | nil => rfl
      | cons item items =>
          cases first with
          | true => exact inductionHypothesis items
          | false => exact congrArg (change item :: ·) (inductionHypothesis items)

/-- Nothing is lost if nothing comes of the items that are left out. -/
theorem filterMap_kept
    {change : α → Option β}
    {items : List α}
    (nothing : ∀ (index : Nat) (item : α), omitted[index]? = some true →
      items[index]? = some item → change item = none) :
    (kept omitted items).filterMap change = items.filterMap change := by
  induction omitted generalizing items with
  | nil => rfl
  | cons first rest inductionHypothesis =>
      cases items with
      | nil => rfl
      | cons item items =>
          have remaining := inductionHypothesis fun index => nothing (index + 1)
          cases first with
          | true => rw [List.filterMap_cons, nothing 0 item rfl rfl, ← remaining, kept]
          | false => rw [kept, List.filterMap_cons, List.filterMap_cons, remaining]

/-- The items that are kept are some of the items, in their order. -/
theorem kept_sublist (omitted : List Bool) (items : List α) :
    (kept omitted items).Sublist items := by
  induction omitted generalizing items with
  | nil => exact .refl items
  | cons first rest inductionHypothesis =>
      cases items with
      | nil => exact .refl []
      | cons item items =>
          cases first with
          | true => exact (inductionHypothesis items).cons item
          | false => exact (inductionHypothesis items).cons_cons item

/-- What holds of all items that are kept and of all that are left out holds of all. -/
theorem forall_of_kept
    {holds : α → Prop}
    {items : List α}
    (ofKept : ∀ item ∈ kept omitted items, holds item)
    (ofOmitted : ∀ (index : Nat) (item : α), omitted[index]? = some true →
      items[index]? = some item → holds item) :
    ∀ item ∈ items, holds item := by
  intro item present
  obtain ⟨index, found⟩ := List.mem_iff_getElem?.mp present
  by_cases isOmitted : omitted[index]? = some true
  · exact ofOmitted index item isOmitted found
  · exact ofKept item (List.mem_of_getElem? ((getElem?_kept isOmitted items).trans found))

end Omission

/-! ## Senders under other numbers -/

namespace Queue

/-- The queue with other numbers for the senders in line. -/
def renumber (number : Nat → Nat) (queue : Queue) : Queue :=
  { queue with line := queue.line.map number }

variable {number : Nat → Nat} {queue : Queue} {sender : Nat}

theorem pop?_renumber :
    (queue.renumber number).pop? =
      queue.pop?.map fun (operation, queue) => (operation, queue.renumber number) := by
  obtain ⟨capacity, items, line⟩ := queue
  cases items with
  | nil => rfl
  | cons operation rest => rfl

theorem trySend?_renumber (operation : Operation) :
    (queue.renumber number).trySend? operation =
      (queue.trySend? operation).map (renumber number) := by
  rw [trySend?, trySend?, apply_ite (Option.map (renumber number))]
  simp only [renumber, List.map_eq_nil_iff]
  rfl

theorem sendAll_renumber (operations : List Operation) :
    (queue.renumber number).sendAll operations =
      ((queue.sendAll operations).1, (queue.sendAll operations).2.renumber number) := by
  induction operations generalizing queue with
  | nil => rfl
  | cons operation rest inductionHypothesis =>
      rw [sendAll, sendAll, trySend?_renumber]
      cases queue.trySend? operation with
      | none => rfl
      | some next => simp only [Option.map_some, inductionHypothesis]

variable (faithful : ∀ other ∈ queue.line, number other = number sender → other = sender)
include faithful

/-- A sender whose number nobody else in line has leaves the line alone. -/
theorem leave_renumber :
    (queue.renumber number).leave (number sender) = (queue.leave sender).renumber number := by
  have alone : ∀ other ∈ queue.line, (number other != number sender) = (other != sender) := by
    intro other present
    rw [Bool.eq_iff_iff, bne_iff_ne, bne_iff_ne]
    exact not_congr ⟨faithful other present, congrArg number⟩
  simp only [leave, renumber, List.filter_map]
  congr 2
  exact List.filter_congr alone

theorem stand?_renumber :
    (queue.renumber number).stand? (number sender) =
      (queue.stand? sender).map (renumber number) := by
  have alone : number sender ∈ queue.line.map number ↔ sender ∈ queue.line := by
    constructor
    · intro present
      obtain ⟨other, listed, same⟩ := List.mem_map.mp present
      exact faithful other listed same ▸ listed
    · exact List.mem_map_of_mem
  rw [stand?, stand?, apply_ite (Option.map (renumber number))]
  simp only [renumber, alone, Option.map_none, Option.map_some, List.map_append, List.map_cons,
    List.map_nil]

theorem send?_renumber (operation : Operation) :
    (queue.renumber number).send? (number sender) operation =
      (queue.send? sender operation).map (renumber number) := by
  have first : (queue.line.map number).head? = some (number sender) ↔
      queue.line.head? = some sender := by
    rw [List.head?_map]
    cases ahead : queue.line.head? with
    | none => simp
    | some other =>
        rw [Option.map_some, Option.some_inj, Option.some_inj]
        exact ⟨faithful other (List.mem_of_head? ahead), congrArg number⟩
  rw [send?, send?, apply_ite (Option.map (renumber number)), leave_renumber faithful]
  simp only [renumber, first, List.map_eq_nil_iff]
  rfl

end Queue

/-! ## Events without those of the sources left out -/

namespace Intake

/-- The action of another source. -/
def Action.renumber (number : Nat → Nat) : Action → Action
  | .consume source move => .consume (number source) move
  | .enqueue source => .enqueue (number source)
  | .stand source => .stand (number source)
  | .halt source => .halt (number source)
  | action => action

namespace Event

/-- The event with another source or sender. -/
def renumber (number : Nat → Nat) : Event → Event
  | .act action => .act (action.renumber number)
  | .offer sender operation => .offer (number sender) operation
  | .line sender => .line (number sender)
  | .withdraw sender => .withdraw (number sender)
  | .callBroker source call => .callBroker (number source) call
  | .crashReads source count => .crashReads (number source) count
  | event => event

/-- The source or sender that an event is about. -/
def party? : Event → Option Nat
  | .act (.consume source _) => some source
  | .act (.enqueue source) => some source
  | .act (.stand source) => some source
  | .act (.halt source) => some source
  | .offer sender _ => some sender
  | .line sender => some sender
  | .withdraw sender => some sender
  | .callBroker source _ => some source
  | .crashReads source _ => some source
  | _ => none

/-- Whether an event is not about a source that is left out. -/
def IsKept (omitted : List Bool) (event : Event) : Prop :=
  ∀ party ∈ event.party?, Omission.Keeps omitted party

instance (omitted : List Bool) (event : Event) : Decidable (event.IsKept omitted) :=
  inferInstanceAs (Decidable (∀ party ∈ event.party?, omitted[party]? ≠ some true))

/-- The event where some sources are left out, unless it is about one of them. -/
def erase? (omitted : List Bool) (event : Event) : Option Event :=
  if event.IsKept omitted then some (event.renumber (Omission.place omitted)) else none

variable {omitted : List Bool} {event : Event}

@[simp] theorem party?_renumber (number : Nat → Nat) (event : Event) :
    (event.renumber number).party? = event.party?.map number := by
  cases event with
  | act action => cases action <;> rfl
  | _ => rfl

/-- Every event where sources are left out comes from one where they are not. -/
@[simp] theorem renumber_place_origin (omitted : List Bool) (event : Event) :
    (event.renumber (Omission.origin omitted)).renumber (Omission.place omitted) = event := by
  cases event with
  | act action => cases action <;> simp [renumber, Action.renumber]
  | _ => simp [renumber]

theorem isKept_renumber_origin (omitted : List Bool) (event : Event) :
    (event.renumber (Omission.origin omitted)).IsKept omitted := by
  intro party present
  rw [party?_renumber] at present
  obtain ⟨index, -, rfl⟩ := Option.map_eq_some_iff.mp present
  exact Omission.keeps_origin omitted index

theorem erase?_renumber_origin (omitted : List Bool) (event : Event) :
    (event.renumber (Omission.origin omitted)).erase? omitted = some event := by
  rw [erase?, if_pos (isKept_renumber_origin omitted event), renumber_place_origin]

/-- Time goes on for all alike. -/
theorem eq_wait_of_renumber
    {number : Nat → Nat}
    {instant : Instant}
    (waits : event.renumber number = .wait instant) :
    event = .wait instant := by
  cases event with
  | wait other => exact waits
  | _ => cases waits

end Event

open Omission

variable {omitted : List Bool} {whole : Intake} {event : Event} {index : Nat}

/-! ## An intake without some of its sources -/

/-- An intake without some of its sources. -/
def without (omitted : List Bool) (intake : Intake) : Intake :=
  { intake with
    sources := kept omitted intake.sources
    queue := intake.queue.renumber (place omitted) }

/-- Nobody under the number of a source left out stands in line. -/
def IsLineKept (omitted : List Bool) (intake : Intake) : Prop :=
  ∀ sender ∈ intake.queue.line, Keeps omitted sender

theorem IsLineKept.faithful
    (lineKept : whole.IsLineKept omitted)
    (keeps : Keeps omitted index) :
    ∀ other ∈ whole.queue.line, place omitted other = place omitted index → other = index :=
  fun other present => place_inj (lineKept other present) keeps

theorem getElem?_sources_without (keeps : Keeps omitted index) :
    (whole.without omitted).sources[place omitted index]? = whole.sources[index]? :=
  getElem?_kept keeps whole.sources

theorem setSource_without (keeps : Keeps omitted index) (source : Source) :
    (whole.without omitted).setSource (place omitted index) source =
      (whole.setSource index source).without omitted := by
  simp only [setSource, without, kept_set keeps]

theorem signal?_without (omitted : List Bool) (intake : Intake) (signal : FlushSignal) :
    (intake.without omitted).signal? signal = (intake.signal? signal).map (without omitted) := by
  rw [signal?, signal?, Option.map_map]
  rfl

theorem consume?_without (keeps : Keeps omitted index) (move : Consumer.Move) :
    (whole.without omitted).consume? (place omitted index) move =
      (whole.consume? index move).map (without omitted) := by
  rw [consume?, consume?, apply_ite (Option.map (without omitted)),
    getElem?_sources_without keeps]
  simp only [setSource_without keeps, Option.map_bind, Function.comp_def, Option.map_map]
  rfl

theorem enqueue?_without (lineKept : whole.IsLineKept omitted) (keeps : Keeps omitted index) :
    (whole.without omitted).enqueue? (place omitted index) =
      (whole.enqueue? index).map (without omitted) := by
  rw [enqueue?, enqueue?, apply_ite (Option.map (without omitted)),
    getElem?_sources_without keeps]
  simp only [setSource_without keeps, Option.map_bind, Function.comp_def, Option.map_map]
  simp only [without, Queue.send?_renumber (lineKept.faithful keeps), Option.bind_map,
    Function.comp_def]
  rfl

theorem stand?_without (lineKept : whole.IsLineKept omitted) (keeps : Keeps omitted index) :
    (whole.without omitted).stand? (place omitted index) =
      (whole.stand? index).map (without omitted) := by
  rw [stand?, stand?, apply_ite (Option.map (without omitted)),
    getElem?_sources_without keeps]
  simp only [without, Queue.send?_renumber (lineKept.faithful keeps),
    Queue.stand?_renumber (lineKept.faithful keeps), Option.map_bind, Function.comp_def,
    Option.map_map]
  congr 1
  congr 1
  funext source
  congr 1
  funext operation
  cases whole.queue.send? index operation with
  | none =>
      simp only [Option.map_none, Option.map_map]
      rfl
  | some queue => rfl

theorem halt?_without (lineKept : whole.IsLineKept omitted) (keeps : Keeps omitted index) :
    (whole.without omitted).halt? (place omitted index) =
      (whole.halt? index).map (without omitted) := by
  rw [halt?, halt?, apply_ite (Option.map (without omitted)),
    getElem?_sources_without keeps]
  simp only [setSource_without keeps, Option.map_bind, Function.comp_def,
    apply_ite (Option.map (without omitted))]
  simp only [without, Queue.leave_renumber (lineKept.faithful keeps)]
  rfl

theorem receive?_without :
    (whole.without omitted).receive? = whole.receive?.map (without omitted) := by
  rw [receive?, receive?, without, Queue.pop?_renumber]
  simp only [Option.map_bind, Option.bind_map, Function.comp_def]
  congr 1
  funext taken
  exact signal?_without omitted { whole with queue := taken.2 } (.receive taken.1)

theorem submit?_without :
    (whole.without omitted).submit? = whole.submit?.map (without omitted) := by
  cases phase : whole.flush.phase with
  | submitting batch =>
      have phaseAlone : (whole.without omitted).flush.phase = .submitting batch := phase
      simp only [submit?, phase, phaseAlone, Option.map_bind, Function.comp_def]
      congr 1
      funext warehouse
      exact signal?_without omitted { whole with warehouse := warehouse } .accept
  | polling | waiting _ | filling | stopped _ => simp [submit?, without, phase]

theorem refuse?_without :
    (whole.without omitted).refuse? = whole.refuse?.map (without omitted) := by
  cases phase : whole.flush.phase with
  | submitting batch =>
      have phaseAlone : (whole.without omitted).flush.phase = .submitting batch := phase
      simp only [refuse?, phase, phaseAlone, signal?_without,
        apply_ite (Option.map (without omitted))]
      rfl
  | polling | waiting _ | filling | stopped _ => simp [refuse?, without, phase]

/-- The decisions for which it counts whether all consumers have ended. -/
def Event.IsClosing : Event → Prop
  | .act .stopFlush => True
  | .act .release => True
  | _ => False

/-- An action is the same without some sources, unless it is one of theirs or has to wait
for them. -/
theorem act?_without
    {action : Action}
    (lineKept : whole.IsLineKept omitted)
    (agree : (Event.act action).IsClosing → whole.isRunning = true →
      whole.flushCancelled = false →
      (kept omitted whole.sources).all hasEnded = whole.sources.all hasEnded)
    (isKept : (Event.act action).IsKept omitted) :
    (whole.without omitted).act? (action.renumber (place omitted)) =
      (whole.act? action).map (without omitted) := by
  cases action with
  | consume index move => exact consume?_without (isKept index rfl) move
  | enqueue index => exact enqueue?_without lineKept (isKept index rfl)
  | stand index => exact stand?_without lineKept (isKept index rfl)
  | halt index => exact halt?_without lineKept (isKept index rfl)
  | look | runDry | lapse =>
      rw [act?, apply_ite (Option.map (without omitted)), ← signal?_without]
      rfl
  | receive =>
      rw [act?, apply_ite (Option.map (without omitted)), ← receive?_without]
      rfl
  | submit =>
      rw [act?, apply_ite (Option.map (without omitted)), ← submit?_without]
      rfl
  | refuse =>
      rw [act?, apply_ite (Option.map (without omitted)), ← refuse?_without]
      rfl
  | stopFlush =>
      rw [act?, apply_ite (Option.map (without omitted)), ← signal?_without]
      have guard : whole.isRunning = true → (whole.flushCancelled ||
          (!whole.hasSender && (kept omitted whole.sources).all hasEnded) &&
            whole.queue.items.isEmpty) =
          (whole.flushCancelled || whole.isUnfed && whole.queue.items.isEmpty) := by
        intro running
        cases cancelled : whole.flushCancelled with
        | true => rfl
        | false => rw [agree trivial running cancelled, isUnfed]
      exact if_congr (and_congr_right fun running => (guard running).congr_left) rfl rfl
  | release =>
      rw [act?, apply_ite (Option.map (without omitted))]
      refine if_congr (and_congr_right fun running => and_congr_right fun _ =>
        and_congr_right fun goesOn => ?_) rfl rfl
      rw [Bool.not_eq_true'] at goesOn
      exact Bool.eq_iff_iff.mp (agree trivial running goesOn)
  | work action =>
      rw [act?, apply_ite (Option.map (without omitted)), Option.map_map]
      rfl
  | collect =>
      rw [act?, apply_ite (Option.map (without omitted)), Option.map_map]
      rfl
  | gather =>
      change (whole.without omitted).act? .gather = _
      cases stage : whole.stage with
      | collecting leftover =>
          simp only [act?, stage, without, Queue.pop?_renumber, Option.map_map]
          rfl
      | ready | running | closing | finished => simp [act?, without, stage]
  | close =>
      change (whole.without omitted).act? .close = _
      cases stage : whole.stage with
      | collecting leftover =>
          have stageAlone : (whole.without omitted).stage = .collecting leftover := stage
          simp only [act?, stage, stageAlone, apply_ite (Option.map (without omitted))]
          rfl
      | ready | running | closing | finished => simp [act?, without, stage]
  | finish =>
      change (whole.without omitted).act? .finish = _
      cases stage : whole.stage with
      | closing =>
          cases closing : whole.warehouse.closing <;> simp [act?, without, stage, closing]
      | ready | running | collecting _ | finished => simp [act?, without, stage]

/-- Whether somebody can send under a number does not depend on the sources left out. -/
theorem admits_without (keeps : Keeps omitted index) :
    (whole.without omitted).admits (place omitted index) = whole.admits index := by
  have sameRange : (kept omitted whole.sources).length ≤ place omitted index ↔
      whole.sources.length ≤ index := by
    rw [← List.getElem?_eq_none_iff, getElem?_kept keeps, List.getElem?_eq_none_iff]
  rw [admits, admits]
  simp only [← sameRange]
  rfl

/-- An event is the same without some sources, unless it is about one of them or has to
wait for them. -/
theorem happen?_without
    (lineKept : whole.IsLineKept omitted)
    (agree : event.IsClosing → whole.isRunning = true → whole.flushCancelled = false →
      (kept omitted whole.sources).all hasEnded = whole.sources.all hasEnded)
    (isKept : event.IsKept omitted) :
    (whole.without omitted).happen? (event.renumber (place omitted)) =
      (whole.happen? event).map (without omitted) := by
  cases event with
  | act action => exact act?_without lineKept agree isKept
  | start =>
      change some (whole.without omitted).start = some (whole.start.without omitted)
      cases stage : whole.stage <;> simp [start, without, stage]
  | cancel | dropSender => rfl
  | wait instant =>
      rw [happen?, apply_ite (Option.map (without omitted))]
      rfl
  | send operations =>
      change some ((whole.without omitted).send operations).2 = _
      rw [send, happen?, send, Option.map_some, apply_ite Prod.snd, apply_ite Prod.snd,
        apply_ite (without omitted)]
      simp only [without, Queue.sendAll_renumber]
  | offer sender operation =>
      have faithful := lineKept.faithful (isKept sender rfl)
      change (if (whole.without omitted).admits (place omitted sender) then _ else _) = _
      rw [happen?, apply_ite (Option.map (without omitted)), admits_without (isKept sender rfl)]
      simp only [without, Queue.send?_renumber faithful, Option.map_map]
      rfl
  | line sender =>
      have faithful := lineKept.faithful (isKept sender rfl)
      change (if (whole.without omitted).admits (place omitted sender) then _ else _) = _
      rw [happen?, apply_ite (Option.map (without omitted)), admits_without (isKept sender rfl)]
      simp only [without, Queue.stand?_renumber faithful, Option.map_map]
      rfl
  | withdraw sender =>
      have faithful := lineKept.faithful (isKept sender rfl)
      change (if (whole.without omitted).admits (place omitted sender) then _ else _) = _
      rw [happen?, apply_ite (Option.map (without omitted)), admits_without (isKept sender rfl)]
      simp only [without, Queue.leave_renumber faithful]
      rfl
  | callBroker index call =>
      change (whole.without omitted).sources[place omitted index]?.bind _ = _
      rw [happen?, getElem?_sources_without (isKept index rfl), Option.map_bind]
      simp only [withBroker, setSource_without (isKept index rfl), Function.comp_def,
        Option.map_map]
  | crashReads index count =>
      change (whole.without omitted).sources[place omitted index]?.map _ = _
      rw [happen?, getElem?_sources_without (isKept index rfl), Option.map_map]
      simp only [withBroker, setSource_without (isKept index rfl), Function.comp_def]
  | touchStore worker change | delayStore worker delay | crashStore worker count =>
      rw [happen?, Option.map_map]
      rfl

/-- An event makes the same entry without some sources, unless it is about one of them. -/
theorem entry_without (isKept : event.IsKept omitted) :
    (whole.without omitted).entry (event.renumber (place omitted)) = whole.entry event := by
  have sameOrder : (whole.without omitted).order? (event.renumber (place omitted)) =
      whole.order? event := by
    cases event with
    | act action => cases action <;> rfl
    | _ => rfl
  have sameTaken : (whole.without omitted).taken (event.renumber (place omitted)) =
      whole.taken event := by
    cases event with
    | act action =>
        cases action with
        | enqueue index =>
            change ((whole.without omitted).sources[place omitted index]?.bind _).toList = _
            rw [getElem?_sources_without (isKept index rfl)]
            rfl
        | _ => rfl
    | send operations =>
        change operations.take ((whole.without omitted).send operations).1 = _
        rw [taken, send, send, apply_ite Prod.fst, apply_ite Prod.fst]
        simp only [without, Queue.sendAll_renumber]
    | _ => rfl
  simp only [entry, bookings, sameOrder, sameTaken]
  rfl

end Intake
end FuzzIntake
