import FuzzIntake.Proofs.Broker.Paging
import Mathlib.Data.List.Nodup

/-!
# Where an entry stands in a group

An entry that was published after a group began waits for a reader, is pending for the one
reader it was handed to, or is acknowledged.  A group keeps account of this: what it has
handed out are the entries between its beginning and its cursor, each of them once, and each
of them is pending or acknowledged but not both.  `Turn` says what a call can make of a
group, and no turn upsets the account.
-/

namespace FuzzIntake

/-- Where an entry stands in a group. -/
inductive Standing
  /-- Nobody was handed the entry. -/
  | waiting
  /-- The entry was handed to a consumer and not acknowledged. -/
  | pending (consumer : String)
  | acked
deriving DecidableEq

/-- How far an entry has come. -/
def Standing.rank : Standing → Nat
  | .waiting => 0
  | .pending _ => 1
  | .acked => 2

namespace Group

/-- The numbers of the entries acknowledged, in order. -/
def ackedNumbers (group : Group) : List Nat :=
  group.acked.map numberOfId

/-- An entry stands at a place in a group. -/
def Stands (group : Group) (number : Nat) : Standing → Prop
  | .waiting => group.cursor < number
  | .pending consumer => group.pending[number]? = some consumer
  | .acked => number ∈ group.ackedNumbers

/-- Behind `count`, everything before the cursor is pending or acknowledged. -/
def Covers (group : Group) (count : Nat) : Prop :=
  ∀ number, count < number → number ≤ group.cursor →
    (∃ consumer, group.pending[number]? = some consumer) ∨ number ∈ group.ackedNumbers

/--
What a call can make of a group whose stream has the given entries, with the entries that it
hands out and their readers.
-/
inductive Turn (entries : List Delivery) (group : Group) :
    List (String × Delivery) → Group → Prop
  /-- The group stays as it is. -/
  | stay : Turn entries group [] group
  /-- A consumer is handed the entries from the cursor to a later place. -/
  | hand (consumer : String) {pageEnd : Nat} :
      group.cursor < pageEnd → pageEnd ≤ entries.length →
      Turn entries group
        (((entries.drop group.cursor).take (pageEnd - group.cursor)).map (consumer, ·))
        (group.hand consumer entries pageEnd)
  /-- Ids are acknowledged. -/
  | acknowledge (ids : List String) : Turn entries group [] (ids.foldl Group.acknowledge group)

/--
The account of a group that began behind `origin` entries and has handed out what is listed.
-/
structure IsAccounted (group : Group) (entries : List Delivery) (origin : Nat)
    (handed : List (String × Delivery)) : Prop where
  origin_le : origin ≤ group.cursor
  handed_eq : handed.map Prod.snd = (entries.drop origin).take (group.cursor - origin)
  covers : group.Covers origin
  inside_of_pending : ∀ number consumer, group.pending[number]? = some consumer →
    origin < number ∧ number ≤ group.cursor
  handed_of_pending : ∀ number consumer, group.pending[number]? = some consumer →
    (consumer, number) ∈ handed.map fun (reader, entry) => (reader, entry.number)
  unacked_of_pending : ∀ number consumer, group.pending[number]? = some consumer →
    number ∉ group.ackedNumbers
  acked_nodup : group.ackedNumbers.Nodup
  inside_of_acked : ∀ number ∈ group.ackedNumbers, origin < number ∧ number ≤ group.cursor

/-! ## Acknowledging one id -/

/-- An id that is pending is the last one acknowledged, and any other id changes nothing. -/
theorem acknowledge_cases (group : Group) (id : String) :
    (numberOfId id ∉ group.pending ∧ group.acknowledge id = group) ∨
    (numberOfId id ∈ group.pending ∧
      (group.acknowledge id).acked = group.acked ++ [id] ∧
      (group.acknowledge id).ackedNumbers = group.ackedNumbers ++ [numberOfId id]) := by
  unfold acknowledge
  split
  · next pending =>
      refine .inr ⟨pending, rfl, ?_⟩
      unfold ackedNumbers
      rw [List.map_append, List.map_singleton]
  · next absent => exact .inl ⟨absent, rfl⟩

/-- What was acknowledged stays so. -/
theorem acked_prefix_foldl_acknowledge (group : Group) (ids : List String) :
    group.acked <+: (ids.foldl acknowledge group).acked := by
  apply List.foldlRecOn ids acknowledge (motive := fun later => group.acked <+: later.acked)
  · exact List.prefix_refl _
  · intro later kept id _
    rcases later.acknowledge_cases id with ⟨-, same⟩ | ⟨-, appended, -⟩
    · rwa [same]
    · rw [appended]
      exact kept.trans (List.prefix_append _ _)

/-- What is acknowledged after some ids was so before, or is one of them. -/
theorem mem_foldl_acknowledge
    {group : Group}
    {id : String}
    (ids : List String)
    (present : id ∈ (ids.foldl acknowledge group).acked) :
    id ∈ group.acked ∨ id ∈ ids := by
  induction ids generalizing group with
  | nil => exact .inl present
  | cons first rest inductionHypothesis =>
      rw [List.mem_cons]
      rcases inductionHypothesis present with now | later
      · rcases group.acknowledge_cases first with ⟨-, same⟩ | ⟨-, appended, -⟩
        · rw [same] at now
          exact .inl now
        · rw [appended, List.mem_append, List.mem_singleton] at now
          exact now.imp_right .inl
      · exact .inr (.inr later)

/-- An id acknowledged leaves everything covered. -/
theorem Covers.acknowledge
    {group : Group}
    {count : Nat}
    (covers : group.Covers count)
    (id : String) :
    (group.acknowledge id).Covers count := by
  intro number behind before
  rw [cursor_acknowledge] at before
  have covered := covers number behind before
  rcases group.acknowledge_cases id with ⟨-, same⟩ | ⟨-, -, appended⟩
  · rwa [same]
  · rw [appended, List.mem_append, List.mem_singleton, pending_acknowledge]
    by_cases this : numberOfId id = number
    · exact .inr (.inr this.symm)
    · rw [if_neg this]
      exact covered.imp_right .inl

end Group

/-! ## Turns keep the account -/

namespace Group

variable {group after : Group} {entries : List Delivery} {origin count : Nat}
  {handed turned : List (String × Delivery)}

/-- A turn moves the cursor only forward and takes nothing back that was acknowledged. -/
theorem Turn.advances (turn : group.Turn entries turned after) :
    group.cursor ≤ after.cursor ∧ group.acked <+: after.acked := by
  cases turn with
  | stay => exact ⟨Nat.le_refl _, List.prefix_refl _⟩
  | hand consumer behind within => exact ⟨Nat.le_of_lt behind, List.prefix_refl _⟩
  | acknowledge ids =>
      exact ⟨Nat.le_of_eq (group.foldl_acknowledge ids).1.symm,
        group.acked_prefix_foldl_acknowledge ids⟩

/-- A turn leaves the cursor within the stream. -/
theorem Turn.within
    (turn : group.Turn entries turned after)
    (within : group.cursor ≤ entries.length) :
    after.cursor ≤ entries.length := by
  cases turn with
  | stay => exact within
  | hand consumer behind inside => exact inside
  | acknowledge ids =>
      rw [(group.foldl_acknowledge ids).1]
      exact within

/-- A turn in a sound broker leaves everything covered. -/
theorem Turn.covers
    {broker : LocalBroker}
    {name : String}
    (turn : group.Turn (broker.entriesOf name) turned after)
    (sound : broker.IsSound)
    (covers : group.Covers count) :
    after.Covers count := by
  cases turn with
  | stay => exact covers
  | @hand consumer pageEnd behind within =>
      intro number further before
      change number ≤ pageEnd at before
      change (∃ owner, (group.own consumer _).pending[number]? = some owner) ∨
        number ∈ group.ackedNumbers
      rw [pending_own]
      split
      · exact .inl ⟨consumer, rfl⟩
      · next notHanded =>
          rw [(sound.page_law name within).2.2] at notHanded
          exact covers number further (by omega)
  | acknowledge ids =>
      exact List.foldlRecOn ids Group.acknowledge
        (motive := fun later => Group.Covers later count) covers
        fun _ covered id _ => covered.acknowledge id

namespace IsAccounted

/-- A group begins with an account of nothing. -/
theorem startingAt (entries : List Delivery) :
    (Group.startingAt entries.length).IsAccounted entries entries.length [] where
  origin_le := Nat.le_refl _
  handed_eq := by simp [Group.startingAt]
  covers number behind before := absurd before (Nat.not_le_of_lt behind)
  inside_of_pending number consumer pending := by simp [Group.startingAt] at pending
  handed_of_pending number consumer pending := by simp [Group.startingAt] at pending
  unacked_of_pending number consumer pending := by simp [Group.startingAt] at pending
  acked_nodup := List.nodup_nil
  inside_of_acked number acked := absurd acked List.not_mem_nil

/-- Entries published later do not upset the account. -/
theorem publish
    (accounted : group.IsAccounted entries origin handed)
    (within : group.cursor ≤ entries.length)
    (published : List Delivery) :
    group.IsAccounted (entries ++ published) origin handed where
  origin_le := accounted.origin_le
  handed_eq := by
    have begun := accounted.origin_le
    rw [accounted.handed_eq, List.drop_append_of_le_length (by omega),
      List.take_append_of_le_length (by rw [List.length_drop]; omega)]
  covers := accounted.covers
  inside_of_pending := accounted.inside_of_pending
  handed_of_pending := accounted.handed_of_pending
  unacked_of_pending := accounted.unacked_of_pending
  acked_nodup := accounted.acked_nodup
  inside_of_acked := accounted.inside_of_acked

/-- Acknowledging an id does not upset the account. -/
theorem acknowledge
    (accounted : group.IsAccounted entries origin handed)
    (id : String) :
    (group.acknowledge id).IsAccounted entries origin handed := by
  rcases group.acknowledge_cases id with ⟨-, same⟩ | ⟨present, -, appended⟩
  · rwa [same]
  · obtain ⟨owner, pending⟩ := Option.isSome_iff_exists.mp
      (Std.ExtTreeMap.mem_iff_isSome_getElem?.mp present)
    have stillPending : ∀ number consumer,
        (group.acknowledge id).pending[number]? = some consumer →
          numberOfId id ≠ number ∧ group.pending[number]? = some consumer := by
      intro number consumer held
      rw [pending_acknowledge] at held
      split at held
      · exact nomatch held
      · next different => exact ⟨different, held⟩
    refine ⟨?_, ?_, accounted.covers.acknowledge id, ?_, ?_, ?_, ?_, ?_⟩
    · rw [cursor_acknowledge]
      exact accounted.origin_le
    · rw [cursor_acknowledge]
      exact accounted.handed_eq
    · intro number consumer held
      rw [cursor_acknowledge]
      exact accounted.inside_of_pending number consumer (stillPending number consumer held).2
    · intro number consumer held
      exact accounted.handed_of_pending number consumer (stillPending number consumer held).2
    · intro number consumer held
      obtain ⟨different, before⟩ := stillPending number consumer held
      rw [appended, List.mem_append, List.mem_singleton, not_or]
      exact ⟨accounted.unacked_of_pending number consumer before, different.symm⟩
    · rw [appended, List.nodup_append_comm]
      exact List.nodup_cons.mpr ⟨accounted.unacked_of_pending _ owner pending,
        accounted.acked_nodup⟩
    · intro number acked
      rw [cursor_acknowledge]
      rw [appended, List.mem_append, List.mem_singleton] at acked
      rcases acked with earlier | rfl
      · exact accounted.inside_of_acked number earlier
      · exact accounted.inside_of_pending _ owner pending

variable {broker : LocalBroker} {name : String}

/-- Handing out the entries up to a later place does not upset the account. -/
theorem hand
    {pageEnd : Nat}
    (accounted : group.IsAccounted (broker.entriesOf name) origin handed)
    (sound : broker.IsSound)
    (consumer : String)
    (behind : group.cursor < pageEnd)
    (within : pageEnd ≤ (broker.entriesOf name).length) :
    (group.hand consumer (broker.entriesOf name) pageEnd).IsAccounted (broker.entriesOf name)
      origin (handed ++ (((broker.entriesOf name).drop group.cursor).take
        (pageEnd - group.cursor)).map (consumer, ·)) := by
  have begun := accounted.origin_le
  have onPage : ∀ number,
      number ∈ (((broker.entriesOf name).drop group.cursor).take
        (pageEnd - group.cursor)).map Delivery.number ↔
          group.cursor < number ∧ number ≤ pageEnd :=
    (sound.page_law name within).2.2
  refine ⟨?_, ?_, ?_, ?_, ?_, ?_, accounted.acked_nodup, ?_⟩
  · exact begun.trans (Nat.le_of_lt behind)
  · change _ = ((broker.entriesOf name).drop origin).take (pageEnd - origin)
    rw [List.map_append, accounted.handed_eq, List.map_map,
      show pageEnd - origin = (group.cursor - origin) + (pageEnd - group.cursor) by omega,
      List.take_add, List.drop_drop,
      show origin + (group.cursor - origin) = group.cursor by omega]
    congr 1
    exact List.map_id _
  · exact (Turn.hand consumer behind within).covers sound accounted.covers
  · intro number reader pending
    change origin < number ∧ number ≤ pageEnd
    change (group.own consumer _).pending[number]? = some reader at pending
    rw [pending_own] at pending
    split at pending
    · next handedNow =>
        have placed := (onPage number).mp handedNow
        omega
    · have placed := accounted.inside_of_pending number reader pending
      omega
  · intro number reader pending
    change (group.own consumer _).pending[number]? = some reader at pending
    rw [pending_own] at pending
    rw [List.map_append, List.mem_append]
    split at pending
    · next handedNow =>
        obtain rfl := Option.some.inj pending
        obtain ⟨entry, present, rfl⟩ := List.mem_map.mp handedNow
        right
        rw [List.map_map]
        exact List.mem_map.mpr ⟨entry, present, rfl⟩
    · exact .inl (accounted.handed_of_pending number reader pending)
  · intro number reader pending acked
    change (group.own consumer _).pending[number]? = some reader at pending
    change number ∈ group.ackedNumbers at acked
    rw [pending_own] at pending
    split at pending
    · next handedNow =>
        have placed := (onPage number).mp handedNow
        have settled := accounted.inside_of_acked number acked
        omega
    · exact accounted.unacked_of_pending number reader pending acked
  · intro number acked
    have settled := accounted.inside_of_acked number acked
    exact ⟨settled.1, settled.2.trans (Nat.le_of_lt behind)⟩

/-- No turn upsets the account. -/
theorem turn
    (accounted : group.IsAccounted (broker.entriesOf name) origin handed)
    (sound : broker.IsSound)
    (turn : group.Turn (broker.entriesOf name) turned after) :
    after.IsAccounted (broker.entriesOf name) origin (handed ++ turned) := by
  cases turn with
  | stay => rwa [List.append_nil]
  | hand consumer behind within => exact accounted.hand sound consumer behind within
  | acknowledge ids =>
      rw [List.append_nil]
      exact List.foldlRecOn ids Group.acknowledge
        (motive := fun later => Group.IsAccounted later _ origin handed) accounted
        fun _ kept id _ => kept.acknowledge id

/-! ## What the account says of an entry -/

/-- An entry published before the group began stands nowhere in it. -/
theorem not_stands
    {number : Nat}
    (accounted : group.IsAccounted entries origin handed)
    (before : number ≤ origin)
    (standing : Standing) :
    ¬ group.Stands number standing := by
  have begun := accounted.origin_le
  intro stands
  cases standing with
  | waiting =>
      change group.cursor < number at stands
      omega
  | pending consumer =>
      have inside := accounted.inside_of_pending number consumer stands
      omega
  | acked =>
      have inside := accounted.inside_of_acked number stands
      omega

/-- An entry published later stands in exactly one place. -/
theorem existsUnique_stands
    {number : Nat}
    (accounted : group.IsAccounted entries origin handed)
    (behind : origin < number) :
    ∃! standing, group.Stands number standing := by
  have waits : group.cursor < number → ¬ (∃ consumer, group.pending[number]? = some consumer) ∧
      number ∉ group.ackedNumbers := by
    intro waiting
    refine ⟨fun ⟨consumer, pending⟩ => ?_, fun acked => ?_⟩
    · have inside := accounted.inside_of_pending number consumer pending
      omega
    · have inside := accounted.inside_of_acked number acked
      omega
  rcases Nat.lt_or_ge group.cursor number with waiting | before
  · refine ⟨.waiting, waiting, fun other stands => ?_⟩
    cases other with
    | waiting => rfl
    | pending consumer => exact absurd ⟨consumer, stands⟩ (waits waiting).1
    | acked => exact absurd stands (waits waiting).2
  · rcases accounted.covers number behind before with ⟨consumer, pending⟩ | acked
    · refine ⟨.pending consumer, pending, fun other stands => ?_⟩
      cases other with
      | waiting => exact absurd stands (Nat.not_lt_of_le before)
      | pending other =>
          exact congrArg Standing.pending (Option.some.inj (stands.symm.trans pending))
      | acked => exact absurd stands (accounted.unacked_of_pending number consumer pending)
    · refine ⟨.acked, acked, fun other stands => ?_⟩
      cases other with
      | waiting => exact absurd stands (Nat.not_lt_of_le before)
      | pending other => exact absurd acked (accounted.unacked_of_pending number other stands)
      | acked => rfl

/-- What was handed out are entries in ascending order, so none was handed out twice. -/
theorem ascending_handed
    (accounted : group.IsAccounted (broker.entriesOf name) origin handed)
    (sound : broker.IsSound)
    (within : group.cursor ≤ (broker.entriesOf name).length) :
    (handed.map fun (_, entry) => entry.number).Pairwise (· < ·) := by
  have numbers : (handed.map Prod.snd).map Delivery.number =
      List.range' (origin + 1) (group.cursor - origin) := by
    rw [accounted.handed_eq]
    exact sound.numbers_page name within
  rw [List.map_map] at numbers
  change handed.map (fun pair => pair.2.number) = _ at numbers
  rw [numbers]
  exact List.pairwise_lt_range'

/-- An entry moves only forward.  It does not go from one reader to another, who would have been
handed it once more. -/
theorem rank_lt_of_ne
    {later : Group}
    {laterEntries : List Delivery}
    {number : Nat}
    {standing laterStanding : Standing}
    (accounted : group.IsAccounted entries origin handed)
    (laterAccounted : later.IsAccounted laterEntries origin (handed ++ turned))
    (ascending : ((handed ++ turned).map fun (_, entry) => entry.number).Pairwise (· < ·))
    (further : group.cursor ≤ later.cursor)
    (kept : group.acked <+: later.acked)
    (stands : group.Stands number standing)
    (laterStands : later.Stands number laterStanding)
    (moved : standing ≠ laterStanding) :
    standing.rank < laterStanding.rank := by
  have stillAcked : number ∈ group.ackedNumbers → number ∈ later.ackedNumbers := fun acked =>
    (kept.map numberOfId).subset acked
  have handedBefore : standing ≠ .waiting → number ≤ group.cursor := by
    intro isHanded
    cases standing with
    | waiting => exact absurd rfl isHanded
    | pending consumer => exact (accounted.inside_of_pending number consumer stands).2
    | acked => exact (accounted.inside_of_acked number stands).2
  cases laterStanding with
  | waiting =>
      change later.cursor < number at laterStands
      have before := handedBefore moved
      omega
  | acked =>
      cases standing with
      | waiting => decide
      | pending consumer => exact Nat.lt_succ_self 1
      | acked => exact absurd rfl moved
  | pending reader =>
      cases standing with
      | waiting => exact Nat.zero_lt_one
      | acked =>
          exact absurd (stillAcked stands)
            (laterAccounted.unacked_of_pending number reader laterStands)
      | pending consumer =>
          obtain ⟨⟨_, entry⟩, present, same⟩ :=
            List.mem_map.mp (accounted.handed_of_pending number consumer stands)
          obtain ⟨⟨_, other⟩, otherPresent, otherSame⟩ :=
            List.mem_map.mp (laterAccounted.handed_of_pending number reader laterStands)
          obtain ⟨rfl, rfl⟩ := Prod.mk.inj same
          obtain ⟨rfl, sameNumber⟩ := Prod.mk.inj otherSame
          have once := List.inj_on_of_nodup_map (ascending.imp Nat.ne_of_lt)
            (List.mem_append_left turned present) otherPresent sameNumber.symm
          exact absurd (congrArg (fun pair => Standing.pending pair.1) once) moved

end IsAccounted
end Group

/-! ## Calls are turns -/

namespace LocalBroker

variable {broker next : LocalBroker} {call : Call} {name group : String} {held : Group}

/-- What is acknowledged later was acknowledged before, or the call acknowledges it: a group in the
place of another one has acknowledged what it has, and the others what they had. -/
theorem Change.mem_acked
    {id : String}
    (change : Change broker call next)
    (present : id ∈ next.acked name group) :
    id ∈ broker.acked name group ∨ ∃ ids, call = .acknowledge name group ids ∧ id ∈ ids := by
  have regrouped : ∀ stream member later,
      id ∈ (broker.regroup stream member later).acked name group →
      (stream = name ∧ member = group ∧ id ∈ later.acked) ∨ id ∈ broker.acked name group := by
    intro stream member later listed
    unfold acked at listed
    rw [group?_regroup] at listed
    split_ifs at listed with same
    · exact .inl ⟨same.1, same.2, listed⟩
    · exact .inr listed
  have known_acked : ∀ held, broker.group? name group = some held →
      broker.acked name group = held.acked := by
    intro held known
    rw [acked, known]
  cases change with
  | nothing same =>
      rw [acked, group?_congr same] at present
      exact .inl present
  | publish stream fields bounded =>
      rw [acked, group?_publish] at present
      exact .inl present
  | create unknown =>
      rcases regrouped _ _ _ present with ⟨-, -, listed⟩ | earlier
      · exact absurd listed List.not_mem_nil
      · exact .inl earlier
  | hand reads known behind within =>
      rcases regrouped _ _ _ present with ⟨rfl, rfl, listed⟩ | earlier
      · rw [known_acked _ known]
        exact .inl listed
      · exact .inl earlier
  | acknowledge ids known =>
      rcases regrouped _ _ _ present with ⟨rfl, rfl, listed⟩ | earlier
      · rw [known_acked _ known]
        exact (Group.mem_foldl_acknowledge _ listed).imp_right fun asked => ⟨ids, rfl, asked⟩
      · exact .inl earlier

/-- A change is a turn of every group that is there. -/
theorem Change.turn
    (change : Change broker call next)
    (known : broker.group? name group = some held) :
    ∃ turned after, next.group? name group = some after ∧
      held.Turn (broker.entriesOf name) turned after := by
  have regrouped : ∀ stream member later,
      (stream = name → member = group →
        ∃ turned, held.Turn (broker.entriesOf name) turned later) →
      ∃ turned after, (broker.regroup stream member later).group? name group = some after ∧
        held.Turn (broker.entriesOf name) turned after := by
    intro stream member later isTurn
    rw [group?_regroup]
    split_ifs with same
    · obtain ⟨turned, turn⟩ := isTurn same.1 same.2
      exact ⟨turned, later, rfl, turn⟩
    · exact ⟨[], held, known, .stay⟩
  cases change with
  | nothing same => exact ⟨[], held, (group?_congr same name group).trans known, .stay⟩
  | publish stream fields bounded =>
      exact ⟨[], held, (broker.group?_publish stream name group fields).trans known, .stay⟩
  | create unknown =>
      refine regrouped _ _ _ ?_
      rintro rfl rfl
      exact nomatch unknown.symm.trans known
  | hand reads there behind within =>
      refine regrouped _ _ _ ?_
      rintro rfl rfl
      obtain rfl := Option.some.inj (known.symm.trans there)
      exact ⟨_, .hand _ behind within⟩
  | acknowledge ids there =>
      refine regrouped _ _ _ ?_
      rintro rfl rfl
      obtain rfl := Option.some.inj (known.symm.trans there)
      exact ⟨[], .acknowledge ids⟩

end LocalBroker
end FuzzIntake
