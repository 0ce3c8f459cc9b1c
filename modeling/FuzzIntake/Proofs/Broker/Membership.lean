import FuzzIntake.Proofs.Broker.Standing

/-!
# Runs of calls and what they make of a group

Calls at a broker in memory are told by a log: each call with the entries it was answered
with, beside their reader.  However many consumers and groups take part, a group hands out
the entries behind its beginning in order and each of them once, and everything it hands
out again is pending for the consumer that was handed it first.  Calls about one group
leave the others alone.
-/

namespace FuzzIntake
namespace LocalBroker

/-- The stream and the group that a call is about. -/
def Call.target? : Call → Option (String × String)
  | .setUpGroup stream group => some (stream, group)
  | .read stream group _ _ _ => some (stream, group)
  | .readNow stream group _ _ _ => some (stream, group)
  | .acknowledge stream group _ => some (stream, group)
  | _ => none

/-- Whether a call asks for entries never handed out. -/
def Call.asksFresh : Call → Bool
  | .read _ _ _ start _ => start == freshEntries
  | .readNow _ _ _ start _ => start == freshEntries
  | _ => false

/-- The entries of the response to a reader, beside the reader. -/
def pageTo (consumer : String)
    (response : Option (Except BrokerError (List Delivery) × LocalBroker)) :
    List (String × Delivery) :=
  ((response.bind fun (answer, _) => answer.toOption).getD []).map (consumer, ·)

/-- The entries that a call is answered with, beside their reader. -/
def answered (broker : LocalBroker) : Call → List (String × Delivery)
  | .read name group consumer start count =>
      pageTo consumer (broker.read? name group consumer start count)
  | .readNow name group consumer start count =>
      pageTo consumer (broker.readNow? name group consumer start count)
  | _ => []

/-- Calls with the entries they were answered with, oldest first. -/
abbrev Log : Type :=
  List (Call × List (String × Delivery))

/-- Calls one after the other, if each of them has an answer. -/
def run? (broker : LocalBroker) : List Call → Option (Log × LocalBroker)
  | [] => some ([], broker)
  | call :: rest =>
      (broker.serve? call).bind fun next =>
        (next.run? rest).map fun (log, last) => ((call, broker.answered call) :: log, last)

/-- The entries in the answers to some of the calls of a log. -/
def pagesOf (wanted : Call → Bool) (log : Log) : List (String × Delivery) :=
  log.flatMap fun (call, page) => if wanted call then page else []

/-- The entries that the reads of a group were answered with. -/
def delivered (name group : String) : Log → List (String × Delivery) :=
  pagesOf fun call => call.target? = some (name, group)

/-- The entries that a group handed out as new ones. -/
def handed (name group : String) : Log → List (String × Delivery) :=
  pagesOf fun call => call.target? = some (name, group) && call.asksFresh

/-- In the course of calls, a group was created behind `origin` entries of its stream. -/
def IsOrigin (calls : List Call) (name group : String) (origin : Nat) : Prop :=
  ∃ before after log broker, calls = before ++ .setUpGroup name group :: after ∧
    LocalBroker.empty.run? before = some (log, broker) ∧
    broker.group? name group = none ∧ (broker.entriesOf name).length = origin

/-- The places that a call needs in a stream are words of 64 bits. -/
def HasRoomFor (broker : LocalBroker) : Call → Prop
  | .publish name _ => (broker.entriesOf name).length + 1 < UInt64.size
  | .read name group _ start count | .readNow name group _ start count =>
      start = freshEntries → ∀ held, broker.group? name group = some held →
        held.cursor + max count 1 < UInt64.size
  | _ => True

/-! ## What is read off a log -/

@[simp] theorem pagesOf_append (wanted : Call → Bool) (before after : Log) :
    pagesOf wanted (before ++ after) = pagesOf wanted before ++ pagesOf wanted after :=
  List.flatMap_append

@[simp] theorem pagesOf_singleton
    (wanted : Call → Bool)
    (call : Call)
    (page : List (String × Delivery)) :
    pagesOf wanted [(call, page)] = if wanted call then page else [] :=
  List.flatMap_singleton _ _

@[simp] theorem delivered_append (name group : String) (before after : Log) :
    delivered name group (before ++ after) =
      delivered name group before ++ delivered name group after :=
  pagesOf_append _ before after

@[simp] theorem handed_append (name group : String) (before after : Log) :
    handed name group (before ++ after) =
      handed name group before ++ handed name group after :=
  pagesOf_append _ before after

/-- New entries are among those delivered. -/
theorem handed_subset_delivered (name group : String) (log : Log) :
    handed name group log ⊆ delivered name group log := by
  intro pair present
  unfold handed pagesOf at present
  unfold delivered pagesOf
  rw [List.mem_flatMap] at present ⊢
  obtain ⟨⟨call, page⟩, logged, onPage⟩ := present
  refine ⟨(call, page), logged, ?_⟩
  simp only [Bool.and_eq_true, decide_eq_true_eq] at onPage ⊢
  split at onPage
  · next wanted => rwa [if_pos wanted.1]
  · exact absurd onPage List.not_mem_nil

/-- A run begins with its first call. -/
theorem run?_cons
    {broker last : LocalBroker}
    {call : Call}
    {rest : List Call}
    {log : Log}
    (ran : broker.run? (call :: rest) = some (log, last)) :
    ∃ next later, broker.serve? call = some next ∧ next.run? rest = some (later, last) ∧
      log = (call, broker.answered call) :: later := by
  obtain ⟨next, served, remains⟩ := Option.bind_eq_some_iff.mp ran
  obtain ⟨⟨later, _⟩, ranOn, same⟩ := Option.map_eq_some_iff.mp remains
  obtain ⟨rfl, rfl⟩ := Prod.mk.inj same
  exact ⟨next, later, served, ranOn, rfl⟩

/-- One run after another is a run of all their calls. -/
theorem run?_append
    {broker middle last : LocalBroker}
    {before after : List Call}
    {log rest : Log}
    (earlier : broker.run? before = some (log, middle))
    (later : middle.run? after = some (rest, last)) :
    broker.run? (before ++ after) = some (log ++ rest, last) := by
  induction before generalizing broker log with
  | nil =>
      obtain ⟨rfl, rfl⟩ := Prod.mk.inj (Option.some.inj earlier)
      exact later
  | cons call calls inductionHypothesis =>
      obtain ⟨next, log, served, ran, rfl⟩ := run?_cons earlier
      rw [List.cons_append, run?, served, Option.bind_some, inductionHypothesis ran]
      rfl

/-- Runs from a broker that calls lead to end at one that calls lead to. -/
theorem Reachable.run
    {broker last : LocalBroker}
    {calls : List Call}
    {log : Log}
    (reachable : broker.Reachable)
    (ran : broker.run? calls = some (log, last)) :
    last.Reachable := by
  induction calls generalizing broker log with
  | nil =>
      cases ran
      exact reachable
  | cons call rest inductionHypothesis =>
      obtain ⟨next, later, served, remains, -⟩ := run?_cons ran
      exact inductionHypothesis (.serve call reachable served) remains

/-! ## One call -/

variable {broker next : LocalBroker} {call : Call} {name group : String} {held : Group}

/-- A call in the name of a member is about the member's group. -/
theorem Call.target?_of_readsFor
    {consumer : String}
    (reads : call.ReadsFor name group consumer) :
    call.target? = some (name, group) := by
  cases call with
  | read => exact congrArg some (Prod.ext reads.1 reads.2.1)
  | readNow => exact congrArg some (Prod.ext reads.1 reads.2.1)
  | _ => exact absurd reads id

/-- A call about one group leaves every other group alone. -/
theorem Change.group?_eq
    (change : Change broker call next)
    (foreign : call.target? ≠ some (name, group)) :
    next.group? name group = broker.group? name group := by
  have apart : ∀ stream member, call.target? = some (stream, member) →
      ¬ (stream = name ∧ member = group) := by
    rintro stream member about ⟨rfl, rfl⟩
    exact foreign about
  cases change with
  | nothing same => exact group?_congr same name group
  | publish stream fields bounded => exact broker.group?_publish stream name group fields
  | create unknown => rw [group?_regroup, if_neg (apart _ _ rfl)]
  | hand reads known behind within =>
      rw [group?_regroup, if_neg (apart _ _ (Call.target?_of_readsFor reads))]
  | acknowledge ids known => rw [group?_regroup, if_neg (apart _ _ rfl)]

/-- Only a publication changes the entries of a stream, and adds one to them. -/
theorem Change.entriesOf_eq
    (change : Change broker call next)
    (name : String) :
    next.entriesOf name = broker.entriesOf name ∨
      ∃ fields, call = .publish name fields ∧
        next.entriesOf name = broker.entriesOf name ++
          [⟨idOfNumber ((broker.entriesOf name).length + 1), fields⟩] := by
  cases change with
  | nothing same => exact .inl (entriesOf_congr same name)
  | publish stream fields bounded =>
      rw [entriesOf_publish]
      split
      · next same =>
          subst same
          exact .inr ⟨fields, rfl, rfl⟩
      · exact .inl rfl
  | create unknown => exact .inl (entriesOf_regroup ..)
  | hand reads known behind within => exact .inl (entriesOf_regroup ..)
  | acknowledge ids known => exact .inl (entriesOf_regroup ..)

/-- A group that is there after a call and was not before begins at the end of its stream. -/
theorem Change.eq_startingAt
    (change : Change broker call next)
    (unknown : broker.group? name group = none)
    (known : next.group? name group = some held) :
    call = .setUpGroup name group ∧ held = .startingAt (broker.entriesOf name).length := by
  have target : call.target? = some (name, group) := by
    by_contra foreign
    rw [change.group?_eq foreign, unknown] at known
    exact nomatch known
  cases change with
  | nothing same =>
      rw [group?_congr same, unknown] at known
      exact nomatch known
  | publish stream fields bounded => exact nomatch target
  | create =>
      obtain ⟨rfl, rfl⟩ := Prod.mk.inj (Option.some.inj target)
      rw [group?_regroup, if_pos ⟨rfl, rfl⟩] at known
      exact ⟨rfl, (Option.some.inj known).symm⟩
  | hand reads there =>
      rw [Call.target?_of_readsFor reads] at target
      obtain ⟨rfl, rfl⟩ := Prod.mk.inj (Option.some.inj target)
      exact nomatch unknown.symm.trans there
  | acknowledge ids there =>
      obtain ⟨rfl, rfl⟩ := Prod.mk.inj (Option.some.inj target)
      exact nomatch unknown.symm.trans there

/-- A group that is there is not set up again. -/
theorem setUpGroup_of_known
    (broker : LocalBroker)
    (known : broker.group? name group = some held) :
    (broker.setUpGroup name group).2 = broker := by
  have present : group ∈ (broker.streamOrEmpty name).groups := by
    rw [Std.ExtTreeMap.mem_iff_isSome_getElem?, ← group?_eq, known, Option.isSome_some]
  unfold setUpGroup
  split
  · rfl
  · simp only [present, if_true]

/-- A call about a group sets it up, reads from it or acknowledges in it. -/
theorem cases_of_target?
    (served : broker.serve? call = some next)
    (target : call.target? = some (name, group)) :
    call = .setUpGroup name group ∨ (∃ ids, call = .acknowledge name group ids) ∨
      ∃ consumer start count answer,
        broker.Reading name group consumer start count answer next ∧
        broker.answered call = (answer.toOption.getD []).map (consumer, ·) ∧
        call.asksFresh = (start == freshEntries) := by
  cases call with
  | setUpGroup stream member =>
      obtain ⟨rfl, rfl⟩ := Prod.mk.inj (Option.some.inj target)
      exact .inl rfl
  | acknowledge stream member ids =>
      obtain ⟨rfl, rfl⟩ := Prod.mk.inj (Option.some.inj target)
      exact .inr (.inl ⟨ids, rfl⟩)
  | read stream member consumer start count =>
      obtain ⟨rfl, rfl⟩ := Prod.mk.inj (Option.some.inj target)
      obtain ⟨⟨answer, _⟩, response, rfl⟩ := Option.map_eq_some_iff.mp served
      refine .inr (.inr ⟨consumer, start, count, answer, reading_of_read? response, ?_, rfl⟩)
      rw [answered, response]
      rfl
  | readNow stream member consumer start count =>
      obtain ⟨rfl, rfl⟩ := Prod.mk.inj (Option.some.inj target)
      obtain ⟨⟨answer, _⟩, response, rfl⟩ := Option.map_eq_some_iff.mp served
      refine .inr (.inr ⟨consumer, start, count, answer, reading_of_readNow? response, ?_, rfl⟩)
      rw [answered, response]
      rfl
  | _ => exact nomatch target

/-- A read of a group that is there is a turn of that group. -/
theorem Reading.turn
    {consumer start : String}
    {count : Nat}
    {answer : Except BrokerError (List Delivery)}
    (reading : Reading broker name group consumer start count answer next)
    (known : broker.group? name group = some held) :
    ∃ after, next.group? name group = some after ∧
      held.Turn (broker.entriesOf name)
        (if start = freshEntries then (answer.toOption.getD []).map (consumer, ·) else [])
        after := by
  cases reading with
  | refused error same =>
      refine ⟨held, (group?_congr same name group).trans known, ?_⟩
      rw [show Except.toOption (.error error : Except BrokerError (List Delivery)) = none from
        rfl, Option.getD_none, List.map_nil, ite_self]
      exact .stay
  | history notFresh there =>
      rw [if_neg notFresh]
      exact ⟨held, known, .stay⟩
  | nothing fresh same =>
      rw [if_pos fresh]
      exact ⟨held, (group?_congr same name group).trans known, .stay⟩
  | @handed other pageEnd fresh there behind within =>
      obtain rfl : held = other := Option.some.inj (known.symm.trans there)
      rw [if_pos fresh]
      refine ⟨_, ?_, .hand consumer behind within⟩
      rw [group?_regroup, if_pos ⟨rfl, rfl⟩]

/-- A call is a turn of every group that is there. -/
theorem turn_of_serve?
    (served : broker.serve? call = some next)
    (known : broker.group? name group = some held) :
    ∃ after, next.group? name group = some after ∧
      held.Turn (broker.entriesOf name)
        (handed name group [(call, broker.answered call)]) after := by
  have change := change_of_serve? served
  unfold handed
  rw [pagesOf_singleton]
  by_cases target : call.target? = some (name, group)
  · simp only [target, decide_true, Bool.true_and]
    rcases cases_of_target? served target with
      rfl | ⟨ids, rfl⟩ | ⟨consumer, start, count, answer, reading, answers, fresh⟩
    · obtain rfl := Option.some.inj served
      rw [broker.setUpGroup_of_known known]
      exact ⟨held, known, .stay⟩
    · obtain rfl := Option.some.inj served
      rcases broker.acknowledge_cases name group ids with
        ⟨error, after, failed, same⟩ | ⟨other, there, succeeded⟩
      · rw [failed]
        exact ⟨held, (group?_congr same name group).trans known, .stay⟩
      · obtain rfl : held = other := Option.some.inj (known.symm.trans there)
        rw [succeeded]
        refine ⟨_, ?_, .acknowledge ids⟩
        rw [group?_regroup, if_pos ⟨rfl, rfl⟩]
    · rw [answers, fresh]
      simp only [beq_iff_eq]
      exact reading.turn known
  · simp only [target, decide_false, Bool.false_and, Bool.false_eq_true, if_false]
    exact ⟨held, (change.group?_eq target).trans known, .stay⟩

/-- An entry in the answer to a call is handed out now or is owed by its reader. -/
theorem mem_handed_or_owes
    {consumer : String}
    {entry : Delivery}
    (sound : broker.IsSound)
    (served : broker.serve? call = some next)
    (present : (consumer, entry) ∈ delivered name group [(call, broker.answered call)]) :
    ((consumer, entry) ∈ handed name group [(call, broker.answered call)] ∧
        ∃ held, broker.group? name group = some held) ∨
      broker.Owes name group consumer entry.number ∧ entry ∈ broker.entriesOf name := by
  unfold delivered at present
  unfold handed
  rw [pagesOf_singleton] at present ⊢
  by_cases target : call.target? = some (name, group)
  · simp only [target, decide_true, if_true] at present
    simp only [target, decide_true, Bool.true_and]
    rcases cases_of_target? served target with
      rfl | ⟨ids, rfl⟩ | ⟨reader, start, count, answer, reading, answers, fresh⟩
    · exact absurd present List.not_mem_nil
    · exact absurd present List.not_mem_nil
    · rw [answers] at present ⊢
      cases reading with
      | refused error same => exact absurd present List.not_mem_nil
      | nothing isFresh same => exact absurd present List.not_mem_nil
      | handed isFresh known behind within =>
          rw [fresh, isFresh]
          exact .inl ⟨present, _, known⟩
      | @history held notFresh known =>
          obtain ⟨entry, onPage, same⟩ := List.mem_map.mp present
          obtain ⟨rfl, rfl⟩ := Prod.mk.inj same
          exact .inr ⟨((sound.history_law known _ start count).2.1 _ onPage).1,
            mem_entriesOf_of_mem_history onPage⟩
  · simp only [target, decide_false, Bool.false_eq_true, if_false] at present
    exact absurd present List.not_mem_nil

/-- A group that is not there hands out nothing. -/
theorem delivered_of_unknown
    (sound : broker.IsSound)
    (served : broker.serve? call = some next)
    (unknown : broker.group? name group = none) :
    delivered name group [(call, broker.answered call)] = [] := by
  rw [List.eq_nil_iff_forall_not_mem]
  rintro ⟨consumer, entry⟩ present
  rcases mem_handed_or_owes sound served present with ⟨-, held, known⟩ | ⟨owes, -⟩
  · exact nomatch unknown.symm.trans known
  · obtain ⟨held, known, -⟩ := owes
    exact nomatch unknown.symm.trans known

/-- A read of new entries has an answer if its full page ends at a word of 64 bits. -/
theorem isSome_readNow?
    {start : String}
    {count : Nat}
    (consumer : String)
    (room : start = freshEntries → ∀ held, broker.group? name group = some held →
      held.cursor + max count 1 < UInt64.size) :
    (broker.readNow? name group consumer start count).isSome := by
  unfold readNow?
  cases found : broker.streams[name]? with
  | none => rfl
  | some stream =>
      cases member : stream.groups[group]? with
      | none =>
          simp only [member]
          rfl
      | some held =>
          simp only [member]
          split
          · next fresh =>
              have known : broker.group? name group = some held := by
                rw [group?, found, Option.bind_some, member]
              simp only [Stream.takeNew?, Group.fullPageEnd?, room fresh held known, if_true,
                Option.map_some, Option.isSome_some]
          · rfl

/-- A call has an answer if there is room for it. -/
theorem isSome_serve?_of_hasRoomFor
    (room : broker.HasRoomFor call) :
    (broker.serve? call).isSome := by
  cases call with
  | publish name fields =>
      have inside : (broker.streamOrEmpty name).entries.length + 1 < UInt64.size := room
      rw [serve?, if_pos inside]
      rfl
  | read name group consumer start count =>
      rw [serve?, Option.isSome_map, read?]
      split
      · rfl
      · exact isSome_readNow? consumer room
  | readNow name group consumer start count =>
      rw [serve?, Option.isSome_map]
      exact isSome_readNow? consumer room
  | _ => rfl

/-! ## The account of a group along a run -/

/-- A call does not upset the account of a group that is there. -/
theorem isAccounted_of_serve?
    {origin : Nat}
    {turned : List (String × Delivery)}
    (served : broker.serve? call = some next)
    (sound : broker.IsSound)
    (known : broker.group? name group = some held)
    (accounted : held.IsAccounted (broker.entriesOf name) origin turned) :
    ∃ after, next.group? name group = some after ∧
      after.IsAccounted (next.entriesOf name) origin
        (turned ++ handed name group [(call, broker.answered call)]) ∧
      held.cursor ≤ after.cursor ∧ held.acked <+: after.acked := by
  obtain ⟨after, there, turn⟩ := turn_of_serve? served known
  have kept := accounted.turn sound turn
  refine ⟨after, there, ?_, turn.advances⟩
  obtain ⟨published, same⟩ := (change_of_serve? served).extends.entries name
  rw [← same]
  exact kept.publish (turn.within (sound.groups name group held known).cursor_le) published

/-- A run does not upset the account of a group that is there. -/
theorem isAccounted_of_run?
    {last : LocalBroker}
    {calls : List Call}
    {log : Log}
    {origin : Nat}
    {turned : List (String × Delivery)}
    (ran : broker.run? calls = some (log, last))
    (sound : broker.IsSound)
    (known : broker.group? name group = some held)
    (accounted : held.IsAccounted (broker.entriesOf name) origin turned) :
    last.IsSound ∧ ∃ after, last.group? name group = some after ∧
      after.IsAccounted (last.entriesOf name) origin (turned ++ handed name group log) ∧
      held.cursor ≤ after.cursor ∧ held.acked <+: after.acked := by
  induction calls generalizing broker held turned log with
  | nil =>
      obtain ⟨rfl, rfl⟩ := Prod.mk.inj (Option.some.inj ran)
      refine ⟨sound, held, known, ?_, Nat.le_refl _, List.prefix_refl _⟩
      rwa [show handed name group [] = [] from rfl, List.append_nil]
  | cons call rest inductionHypothesis =>
      obtain ⟨next, later, served, remains, rfl⟩ := run?_cons ran
      obtain ⟨middle, there, kept, forward, acked⟩ :=
        isAccounted_of_serve? served sound known accounted
      obtain ⟨soundLast, after, atEnd, atLast, further, allAcked⟩ := inductionHypothesis remains
        ((change_of_serve? served).isSound sound) there kept
      refine ⟨soundLast, after, atEnd, ?_, forward.trans further, acked.trans allAcked⟩
      rwa [List.append_assoc, ← handed_append] at atLast

/-! ## The books of a whole broker -/

/-- A broker that calls have led to, with the account of every group. -/
structure IsBookkept (calls : List Call) (log : Log) (broker : LocalBroker) : Prop where
  ran : LocalBroker.empty.run? calls = some (log, broker)
  sound : broker.IsSound
  unread : ∀ name group, broker.group? name group = none → delivered name group log = []
  account : ∀ name group held, broker.group? name group = some held →
    ∃ origin, IsOrigin calls name group origin ∧
      held.IsAccounted (broker.entriesOf name) origin (handed name group log)
  redelivered : ∀ name group, delivered name group log ⊆ handed name group log

/-- A broker without streams has no group to account for. -/
theorem isBookkept_empty : IsBookkept [] [] LocalBroker.empty where
  ran := rfl
  sound := isSound_empty
  unread _ _ _ := rfl
  account name group held known := by simp [group?, empty] at known
  redelivered _ _ := List.Subset.refl _

namespace IsBookkept

variable {calls : List Call} {log : Log}

/-- What a reader owes was handed to that reader once. -/
theorem mem_handed_of_owes
    {consumer : String}
    {entry : Delivery}
    (books : IsBookkept calls log broker)
    (owes : broker.Owes name group consumer entry.number)
    (genuine : entry ∈ broker.entriesOf name) :
    (consumer, entry) ∈ handed name group log := by
  obtain ⟨held, known, pending⟩ := owes
  obtain ⟨origin, -, accounted⟩ := books.account name group held known
  obtain ⟨⟨reader, other⟩, before, same⟩ :=
    List.mem_map.mp (accounted.handed_of_pending _ consumer pending)
  obtain ⟨rfl, sameNumber⟩ := Prod.mk.inj same
  have inStream : other ∈ broker.entriesOf name := by
    have listed := List.mem_map_of_mem (f := Prod.snd) before
    rw [accounted.handed_eq] at listed
    exact List.mem_of_mem_drop (List.mem_of_mem_take listed)
  obtain rfl := books.sound.eq_of_number_eq inStream genuine sameNumber
  exact before

/-- A call does not upset the account of a group that was there. -/
theorem account_of_known
    {after : Group}
    (books : IsBookkept calls log broker)
    (served : broker.serve? call = some next)
    (known : broker.group? name group = some held)
    (there : next.group? name group = some after) :
    ∃ origin, IsOrigin (calls ++ [call]) name group origin ∧
      after.IsAccounted (next.entriesOf name) origin
        (handed name group (log ++ [(call, broker.answered call)])) := by
  obtain ⟨origin, ⟨before, later, earlierLog, earlier, rfl, created⟩, accounted⟩ :=
    books.account name group held known
  obtain ⟨other, same, kept, -⟩ := isAccounted_of_serve? served books.sound known accounted
  obtain rfl : after = other := Option.some.inj (there.symm.trans same)
  refine ⟨origin, ⟨before, later ++ [call], earlierLog, earlier, ?_, created⟩,
    handed_append .. ▸ kept⟩
  rw [List.append_assoc, List.cons_append]

/-- A group that a call creates begins with an account of nothing. -/
theorem account_of_created
    {after : Group}
    (books : IsBookkept calls log broker)
    (served : broker.serve? call = some next)
    (unknown : broker.group? name group = none)
    (there : next.group? name group = some after) :
    ∃ origin, IsOrigin (calls ++ [call]) name group origin ∧
      after.IsAccounted (next.entriesOf name) origin
        (handed name group (log ++ [(call, broker.answered call)])) := by
  have change := change_of_serve? served
  obtain ⟨rfl, rfl⟩ := change.eq_startingAt unknown there
  have nothing : handed name group
      (log ++ [(.setUpGroup name group, broker.answered (.setUpGroup name group))]) = [] := by
    apply List.subset_nil.mp
    refine List.Subset.trans (handed_subset_delivered name group _) ?_
    rw [delivered_append, books.unread name group unknown,
      delivered_of_unknown books.sound served unknown]
    exact List.Subset.refl _
  have entries : next.entriesOf name = broker.entriesOf name := by
    refine (change.entriesOf_eq name).resolve_right ?_
    rintro ⟨fields, publishes, -⟩
    exact nomatch publishes
  refine ⟨(broker.entriesOf name).length, ⟨calls, [], log, broker, rfl, books.ran, unknown,
    rfl⟩, ?_⟩
  rw [nothing, entries]
  exact .startingAt _

/-- A call keeps the books. -/
theorem serve
    (books : IsBookkept calls log broker)
    (served : broker.serve? call = some next) :
    IsBookkept (calls ++ [call]) (log ++ [(call, broker.answered call)]) next where
  ran := by
    refine run?_append books.ran ?_
    rw [run?, served]
    rfl
  sound := (change_of_serve? served).isSound books.sound
  unread name group unknown := by
    have before : broker.group? name group = none := by
      cases known : broker.group? name group with
      | none => rfl
      | some held =>
          obtain ⟨after, there, -⟩ := turn_of_serve? served known
          exact nomatch unknown.symm.trans there
    rw [delivered_append, books.unread name group before,
      delivered_of_unknown books.sound served before]
    rfl
  account name group after there := by
    cases known : broker.group? name group with
    | some held => exact books.account_of_known served known there
    | none => exact books.account_of_created served known there
  redelivered name group := by
    rw [delivered_append, handed_append]
    rintro ⟨consumer, entry⟩ present
    rcases List.mem_append.mp present with earlier | now
    · exact List.mem_append_left _ (books.redelivered name group earlier)
    · rcases mem_handed_or_owes books.sound served now with ⟨fresh, -⟩ | ⟨owes, genuine⟩
      · exact List.mem_append_right _ fresh
      · exact List.mem_append_left _ (books.mem_handed_of_owes owes genuine)

/-- A run keeps the books. -/
theorem run
    {last : LocalBroker}
    {more : List Call}
    {moreLog : Log}
    (books : IsBookkept calls log broker)
    (ran : broker.run? more = some (moreLog, last)) :
    IsBookkept (calls ++ more) (log ++ moreLog) last := by
  induction more generalizing broker calls log moreLog with
  | nil =>
      obtain ⟨rfl, rfl⟩ := Prod.mk.inj (Option.some.inj ran)
      rwa [List.append_nil, List.append_nil]
  | cons call rest inductionHypothesis =>
      obtain ⟨next, later, served, remains, rfl⟩ := run?_cons ran
      have kept := inductionHypothesis (books.serve served) remains
      rwa [List.append_assoc, List.append_assoc] at kept

end IsBookkept

/--
Calls of all kinds lead from an empty broker to any other.  Entries have the ids of their
places.  What a group hands out as new are the entries between its beginning and its cursor,
in order and each once; every other read repeats some of that to the same reader.  Entries
from before the beginning stand nowhere, and each later one waits, is pending for the reader
it was handed to or is acknowledged, in exactly one way, from which further calls take it
only forward; no entry is acknowledged twice.  A group that is there is not set up again,
calls about one group leave all others as they are, and a call whose places are words of
64 bits has an answer.
-/
theorem run_keeps_account
    {calls more : List Call}
    {log moreLog : Log}
    {broker later : LocalBroker}
    (ran : LocalBroker.empty.run? calls = some (log, broker))
    (further : broker.run? more = some (moreLog, later)) :
    (∀ name index entry, (broker.entriesOf name)[index]? = some entry →
      entry.id = idOfNumber (index + 1)) ∧
    (∀ name group held, broker.group? name group = some held →
      ∃ origin, IsOrigin calls name group origin ∧
        (handed name group log).map Prod.snd =
          ((broker.entriesOf name).drop origin).take (held.cursor - origin) ∧
        ((handed name group log).map fun (_, entry) => entry.number).Pairwise (· < ·) ∧
        delivered name group log ⊆ handed name group log ∧
        (∀ consumer entry, (consumer, entry) ∈ delivered name group log →
          origin < entry.number) ∧
        (∀ number ≤ origin, ∀ standing, ¬ held.Stands number standing) ∧
        (∀ number > origin, ∃! standing, held.Stands number standing) ∧
        (∀ number consumer, held.Stands number (.pending consumer) →
          (consumer, number) ∈
            (handed name group log).map fun (reader, entry) => (reader, entry.number)) ∧
        held.ackedNumbers.Nodup ∧
        ∃ laterHeld, later.group? name group = some laterHeld ∧
          ∀ number standing laterStanding, held.Stands number standing →
            laterHeld.Stands number laterStanding →
            standing = laterStanding ∨ standing.rank < laterStanding.rank) ∧
    (∀ name group, broker.group? name group = none → delivered name group log = []) ∧
    (∀ name group, broker.knowsGroup name group = true →
      (broker.setUpGroup name group).2 = broker) ∧
    (∀ call next, broker.serve? call = some next →
      (∀ name group, call.target? ≠ some (name, group) →
        next.group? name group = broker.group? name group) ∧
      ∀ name, next.entriesOf name = broker.entriesOf name ∨
        ∃ fields, call = .publish name fields ∧
          next.entriesOf name = broker.entriesOf name ++
            [⟨idOfNumber ((broker.entriesOf name).length + 1), fields⟩]) ∧
    ∀ call, broker.HasRoomFor call → ∃ next, broker.serve? call = some next := by
  have books : IsBookkept calls log broker := by
    have kept := isBookkept_empty.run ran
    rwa [List.nil_append, List.nil_append] at kept
  refine ⟨books.sound.numbered, ?_, books.unread, ?_, ?_, ?_⟩
  · intro name group held known
    obtain ⟨origin, created, accounted⟩ := books.account name group held known
    obtain ⟨soundLater, laterHeld, there, laterAccounted, forward, acked⟩ :=
      isAccounted_of_run? further books.sound known accounted
    have within := (books.sound.groups name group held known).cursor_le
    have ascending := accounted.ascending_handed books.sound within
    refine ⟨origin, created, accounted.handed_eq, ascending, books.redelivered name group, ?_,
      fun number before => accounted.not_stands before,
      fun number behind => accounted.existsUnique_stands behind,
      accounted.handed_of_pending, accounted.acked_nodup, laterHeld, there, ?_⟩
    · intro consumer entry present
      have listed := List.mem_map_of_mem (f := Delivery.number) (List.mem_map_of_mem
        (f := Prod.snd) (books.redelivered name group present))
      rw [accounted.handed_eq,
        (books.sound.page_law name within).2.2 entry.number] at listed
      exact listed.1
    · intro number standing laterStanding stands laterStands
      by_cases moved : standing = laterStanding
      · exact .inl moved
      · refine .inr (accounted.rank_lt_of_ne laterAccounted ?_ forward acked stands laterStands
          moved)
        exact laterAccounted.ascending_handed soundLater
          (soundLater.groups name group laterHeld there).cursor_le
  · intro name group known
    obtain ⟨held, there⟩ := Option.isSome_iff_exists.mp known
    exact broker.setUpGroup_of_known there
  · intro call next served
    have change := change_of_serve? served
    exact ⟨fun name group foreign => change.group?_eq foreign, change.entriesOf_eq⟩
  · intro call room
    exact Option.isSome_iff_exists.mp (isSome_serve?_of_hasRoomFor room)

/-- One entry is acknowledged by ids that are not its own, and another one is handed out. -/
theorem run_keeps_account_of_twoReaders :
    ∃ log broker moreLog later,
      LocalBroker.empty.run?
          [.publish "s" [], .setUpGroup "s" "g", .publish "s" [], .publish "s" [],
            .read "s" "g" "a" freshEntries 1, .acknowledge "s" "g" ["2-x", "2-0", "zzz"]] =
        some (log, broker) ∧
      broker.run? [.readNow "s" "g" "b" freshEntries 5, .read "s" "g" "b" ownHistory 1] =
        some (moreLog, later) ∧
      handed "s" "g" log = [("a", ⟨"2-0", []⟩)] ∧
      broker.acked "s" "g" = ["2-x"] ∧
      delivered "s" "g" moreLog = [("b", ⟨"3-0", []⟩), ("b", ⟨"3-0", []⟩)] ∧
      ((handed "s" "g" log).map fun (_, entry) => entry.number).Pairwise (· < ·) ∧
      ∃ held, broker.group? "s" "g" = some held ∧ held.ackedNumbers.Nodup := by
  obtain ⟨log, broker, moreLog, later, ran, further, ⟨held, known⟩, facts⟩ :
      ∃ log broker moreLog later,
        LocalBroker.empty.run?
            [.publish "s" [], .setUpGroup "s" "g", .publish "s" [], .publish "s" [],
              .read "s" "g" "a" freshEntries 1, .acknowledge "s" "g" ["2-x", "2-0", "zzz"]] =
          some (log, broker) ∧
        broker.run? [.readNow "s" "g" "b" freshEntries 5, .read "s" "g" "b" ownHistory 1] =
          some (moreLog, later) ∧
        (∃ held, broker.group? "s" "g" = some held) ∧
        handed "s" "g" log = [("a", ⟨"2-0", []⟩)] ∧
        broker.acked "s" "g" = ["2-x"] ∧
        delivered "s" "g" moreLog = [("b", ⟨"3-0", []⟩), ("b", ⟨"3-0", []⟩)] :=
    ⟨_, _, _, _, rfl, rfl, ⟨_, rfl⟩, rfl, rfl, rfl⟩
  obtain ⟨origin, -, -, ascending, -, -, -, -, -, distinct, -⟩ :=
    (run_keeps_account ran further).2.1 "s" "g" held known
  exact ⟨log, broker, moreLog, later, ran, further, facts.1, facts.2.1, facts.2.2, ascending,
    held, known, distinct⟩

end LocalBroker
end FuzzIntake
