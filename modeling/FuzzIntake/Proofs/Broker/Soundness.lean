import FuzzIntake.Proofs.Broker.Calls

/-!
# What a call at a broker can change

`Reading` lists what a read can answer and leave behind, and `Change` what any call can
leave behind.  Read off them: calls keep a broker sound, add to streams only at their
end and move cursors only forward, and only a read in a member's own name makes that
member owe anything.
-/

namespace FuzzIntake
namespace LocalBroker

/-- What a read can answer, and the broker it can leave behind. -/
inductive Reading (broker : LocalBroker) (name group consumer start : String) (count : Nat) :
    Except BrokerError (List Delivery) → LocalBroker → Prop
  /-- The read fails. -/
  | refused {next : LocalBroker} (error : BrokerError) :
      next.streams = broker.streams →
      Reading broker name group consumer start count (.error error) next
  /-- The entries the member owes behind the start. -/
  | history {held : Group} :
      start ≠ freshEntries → broker.group? name group = some held →
      Reading broker name group consumer start count
        (.ok ((broker.streamOrEmpty name).history held consumer start count)) broker
  /-- There are no new entries. -/
  | nothing {next : LocalBroker} :
      start = freshEntries → next.streams = broker.streams →
      Reading broker name group consumer start count (.ok []) next
  /-- The entries from the cursor to a later place, which the member owes from now on. -/
  | handed {held : Group} {pageEnd : Nat} :
      start = freshEntries → broker.group? name group = some held →
      held.cursor < pageEnd → pageEnd ≤ (broker.entriesOf name).length →
      Reading broker name group consumer start count
        (.ok (((broker.entriesOf name).drop held.cursor).take (pageEnd - held.cursor)))
        (broker.regroup name group (held.hand consumer (broker.entriesOf name) pageEnd))

/-- The broker that a call can leave behind. -/
inductive Change (broker : LocalBroker) : Call → LocalBroker → Prop
  /-- No stream changes. -/
  | nothing {call : Call} {next : LocalBroker} :
      next.streams = broker.streams → Change broker call next
  /-- A stream is given an entry. -/
  | publish (name : String) (fields : Fields) :
      (broker.entriesOf name).length + 1 < UInt64.size →
      Change broker (.publish name fields) (broker.publish name fields).2
  /-- A group is created at the end of its stream. -/
  | create {name group : String} :
      broker.group? name group = none →
      Change broker (.setUpGroup name group)
        (broker.regroup name group (.startingAt (broker.entriesOf name).length))
  /-- A member is handed entries that nobody was handed before. -/
  | hand {call : Call} {name group consumer : String} {held : Group} {pageEnd : Nat} :
      call.ReadsFor name group consumer → broker.group? name group = some held →
      held.cursor < pageEnd → pageEnd ≤ (broker.entriesOf name).length →
      Change broker call
        (broker.regroup name group (held.hand consumer (broker.entriesOf name) pageEnd))
  /-- Entries are acknowledged. -/
  | acknowledge {name group : String} {held : Group} (ids : List String) :
      broker.group? name group = some held →
      Change broker (.acknowledge name group ids)
        (broker.regroup name group (ids.foldl Group.acknowledge held))

/-! ## Every call changes a broker like this -/

/-- A group is put in its place within the stream that is there. -/
theorem regroup_of_stream
    {broker : LocalBroker}
    {name : String}
    {stream : Stream}
    (found : broker.streams[name]? = some stream)
    (group : String)
    (held : Group) :
    broker.regroup name group held =
      { broker with
        streams := broker.streams.insert name
          { stream with groups := stream.groups.insert group held } } := by
  simp only [regroup, streamOrEmpty, found, Option.getD_some]

/-- A stream put in its own place changes nothing. -/
theorem streams_insert_self
    {broker : LocalBroker}
    {name : String}
    {stream : Stream}
    (found : broker.streams[name]? = some stream) :
    broker.streams.insert name stream = broker.streams := by
  ext1 other
  simp only [Std.ExtTreeMap.getElem?_insert, Std.compare_eq_iff_eq]
  split
  · next same => rw [← same, found]
  · rfl

/-- A read without waiting answers and changes as listed. -/
theorem reading_of_readNow?
    {broker next : LocalBroker}
    {name group consumer start : String}
    {count : Nat}
    {answer : Except BrokerError (List Delivery)}
    (served : broker.readNow? name group consumer start count = some (answer, next)) :
    Reading broker name group consumer start count answer next := by
  rw [readNow?] at served
  cases found : broker.streams[name]? with
  | none =>
      simp only [found, Option.some.injEq, Prod.mk.injEq] at served
      obtain ⟨rfl, rfl⟩ := served
      exact .refused _ rfl
  | some stream =>
      cases member : stream.groups[group]? with
      | none =>
          simp only [found, member, Option.some.injEq, Prod.mk.injEq] at served
          obtain ⟨rfl, rfl⟩ := served
          exact .refused _ rfl
      | some held =>
          have present : broker.streamOrEmpty name = stream := by
            rw [streamOrEmpty, found, Option.getD_some]
          have known : broker.group? name group = some held := by
            rw [group?_eq, present, member]
          have entries : broker.entriesOf name = stream.entries := by
            rw [entriesOf, present]
          simp only [found, member] at served
          by_cases fresh : start = freshEntries
          · simp only [fresh, if_true, Stream.takeNew?, Option.map_map,
              Option.map_eq_some_iff] at served
            obtain ⟨fullPageEnd, -, answered⟩ := served
            simp only [Function.comp_apply] at answered
            split at answered
            · next behind =>
                simp only [Prod.mk.injEq] at answered
                obtain ⟨rfl, rfl⟩ := answered
                have handed : Reading broker name group consumer start count _ _ :=
                  .handed fresh known behind (entries ▸ Nat.min_le_left _ _)
                rw [regroup_of_stream found, entries] at handed
                exact handed
            · simp only [Prod.mk.injEq] at answered
              obtain ⟨rfl, rfl⟩ := answered
              exact .nothing fresh (streams_insert_self found)
          · simp only [fresh, if_false, Option.some.injEq, Prod.mk.injEq] at served
            obtain ⟨rfl, rfl⟩ := served
            rw [← present]
            exact .history fresh known

/-- A read that may fail by injection answers and changes as listed. -/
theorem reading_of_read?
    {broker next : LocalBroker}
    {name group consumer start : String}
    {count : Nat}
    {answer : Except BrokerError (List Delivery)}
    (served : broker.read? name group consumer start count = some (answer, next)) :
    Reading broker name group consumer start count answer next := by
  rw [read?] at served
  split at served
  · simp only [Option.some.injEq, Prod.mk.injEq] at served
    obtain ⟨rfl, rfl⟩ := served
    exact .refused _ rfl
  · exact reading_of_readNow? served

/-- A read changes the broker as a call in the name of its member. -/
theorem Reading.change
    {broker next : LocalBroker}
    {name group consumer start : String}
    {count : Nat}
    {answer : Except BrokerError (List Delivery)}
    {call : Call}
    (reading : Reading broker name group consumer start count answer next)
    (reads : call.ReadsFor name group consumer) :
    Change broker call next := by
  cases reading with
  | refused error same => exact .nothing same
  | history _ _ => exact .nothing rfl
  | nothing _ same => exact .nothing same
  | handed _ known behind within => exact .hand reads known behind within

/-- A request for a group creates it at most. -/
theorem change_of_setUpGroup (broker : LocalBroker) (name group : String) :
    Change broker (.setUpGroup name group) (broker.setUpGroup name group).2 := by
  rw [setUpGroup]
  split
  · exact .nothing rfl
  · simp only
    split
    · exact .nothing rfl
    · next unknown =>
        refine .create ?_
        rw [group?_eq]
        exact Std.ExtTreeMap.getElem?_eq_none unknown

/-- An acknowledgement that succeeds changes the group that is there. -/
theorem acknowledge_cases (broker : LocalBroker) (name group : String) (ids : List String) :
    (∃ error next, broker.acknowledge name group ids = (.error error, next) ∧
      next.streams = broker.streams) ∨
    ∃ held, broker.group? name group = some held ∧
      broker.acknowledge name group ids =
        (.ok (), broker.regroup name group (ids.foldl Group.acknowledge held)) := by
  rw [acknowledge]
  split
  · exact .inl ⟨_, _, rfl, rfl⟩
  · cases found : broker.streams[name]? with
    | none => exact .inl ⟨_, _, rfl, rfl⟩
    | some stream =>
        cases member : stream.groups[group]? with
        | none =>
            simp only [Option.bind_some, member, Option.map_none]
            exact .inl ⟨_, _, rfl, rfl⟩
        | some held =>
            refine .inr ⟨held, ?_, ?_⟩
            · rw [group?, found, Option.bind_some, member]
            · simp only [Option.bind_some, member, Option.map_some, regroup_of_stream found]

/-- Every call that has an answer changes the broker as listed. -/
theorem change_of_serve?
    {broker next : LocalBroker}
    {call : Call}
    (served : broker.serve? call = some next) :
    Change broker call next := by
  cases call with
  | publish name fields =>
      rw [serve?, Option.ite_none_right_eq_some] at served
      obtain ⟨bounded, served⟩ := served
      obtain rfl := Option.some.inj served
      exact .publish name fields bounded
  | setUpGroup name group =>
      obtain rfl := Option.some.inj served
      exact change_of_setUpGroup broker name group
  | read name group consumer start count =>
      obtain ⟨⟨answer, _⟩, answered, rfl⟩ := Option.map_eq_some_iff.mp served
      exact (reading_of_read? answered).change ⟨rfl, rfl, rfl⟩
  | readNow name group consumer start count =>
      obtain ⟨⟨answer, _⟩, answered, rfl⟩ := Option.map_eq_some_iff.mp served
      exact (reading_of_readNow? answered).change ⟨rfl, rfl, rfl⟩
  | acknowledge name group ids =>
      obtain rfl := Option.some.inj served
      rcases broker.acknowledge_cases name group ids with
        ⟨error, next, answered, same⟩ | ⟨held, known, answered⟩
      · rw [answered]
        exact .nothing same
      · rw [answered]
        exact .acknowledge ids known
  | failReads count =>
      obtain rfl := Option.some.inj served
      exact .nothing rfl
  | failAcks count =>
      obtain rfl := Option.some.inj served
      exact .nothing rfl
  | failSetUp detail =>
      obtain rfl := Option.some.inj served
      exact .nothing rfl

/-! ## What no call changes -/

/--
A broker whose entries have the ids of their places, counted by words of 64 bits, and
whose groups have pending entries only before their cursors.
-/
structure IsSound (broker : LocalBroker) : Prop where
  numbered : ∀ name index entry, (broker.entriesOf name)[index]? = some entry →
    entry.id = idOfNumber (index + 1)
  bounded : ∀ name, (broker.entriesOf name).length < UInt64.size
  groups : ∀ name group held, broker.group? name group = some held →
    held.IsSound (broker.entriesOf name).length

/-- A broker without streams is sound. -/
theorem isSound_empty : LocalBroker.empty.IsSound where
  numbered name index entry present := by
    simp [entriesOf, streamOrEmpty, empty, Stream.empty] at present
  bounded name := by
    simp [entriesOf, streamOrEmpty, empty, Stream.empty]
  groups name group held known := by
    simp [group?, empty] at known

/-- The number of an entry of a sound broker is its place in the stream. -/
theorem IsSound.number_eq
    {broker : LocalBroker}
    {name : String}
    {index : Nat}
    {entry : Delivery}
    (sound : broker.IsSound)
    (present : (broker.entriesOf name)[index]? = some entry) :
    entry.number = index + 1 := by
  have inside : index < (broker.entriesOf name).length :=
    (List.getElem?_eq_some_iff.mp present).1
  have bounded := sound.bounded name
  rw [Delivery.number, sound.numbered name index entry present,
    numberOfId_idOfNumber (by omega)]

/-- Entries of one stream of a sound broker are told apart by their numbers. -/
theorem IsSound.eq_of_number_eq
    {broker : LocalBroker}
    {name : String}
    {entry other : Delivery}
    (sound : broker.IsSound)
    (present : entry ∈ broker.entriesOf name)
    (otherPresent : other ∈ broker.entriesOf name)
    (same : entry.number = other.number) :
    entry = other := by
  obtain ⟨index, placed⟩ := List.mem_iff_getElem?.mp present
  obtain ⟨otherIndex, otherPlaced⟩ := List.mem_iff_getElem?.mp otherPresent
  rw [sound.number_eq placed, sound.number_eq otherPlaced] at same
  obtain rfl : index = otherIndex := by omega
  exact Option.some.inj (placed.symm.trans otherPlaced)

/-- The numbers of a page of new entries are the places between the cursor and its end. -/
theorem IsSound.numbers_page
    {broker : LocalBroker}
    (sound : broker.IsSound)
    (name : String)
    {first last : Nat}
    (within : last ≤ (broker.entriesOf name).length) :
    (((broker.entriesOf name).drop first).take (last - first)).map Delivery.number =
      List.range' (first + 1) (last - first) := by
  apply List.ext_getElem
  · simp only [List.length_map, List.length_take, List.length_drop, List.length_range']
    omega
  · intro offset inside _
    rw [List.length_map, List.length_take, List.length_drop] at inside
    have placed : (broker.entriesOf name)[first + offset]? =
        some (broker.entriesOf name)[first + offset] := List.getElem?_eq_getElem _
    rw [List.getElem_map, List.getElem_take, List.getElem_drop, sound.number_eq placed,
      List.getElem_range']
    omega

/-- A new group in the place of its name keeps a broker sound if the group is sound. -/
theorem IsSound.regroup
    {broker : LocalBroker}
    {name : String}
    {later : Group}
    (sound : broker.IsSound)
    (group : String)
    (soundGroup : later.IsSound (broker.entriesOf name).length) :
    (broker.regroup name group later).IsSound where
  numbered other index entry present :=
    sound.numbered other index entry (by rwa [entriesOf_regroup] at present)
  bounded other := by
    rw [entriesOf_regroup]
    exact sound.bounded other
  groups other member held known := by
    rw [group?_regroup] at known
    rw [entriesOf_regroup]
    split at known
    · next same =>
        obtain rfl := Option.some.inj known
        exact same.1 ▸ soundGroup
    · exact sound.groups other member held known

/-- A broker with the same streams is as sound. -/
theorem IsSound.congr
    {broker next : LocalBroker}
    (sound : broker.IsSound)
    (same : next.streams = broker.streams) :
    next.IsSound := by
  refine ⟨fun name => ?_, fun name => ?_, fun name group held known => ?_⟩
  · rw [entriesOf_congr same]
    exact sound.numbered name
  · rw [entriesOf_congr same]
    exact sound.bounded name
  · rw [entriesOf_congr same]
    exact sound.groups name group held (group?_congr same name group ▸ known)

/-- The next entry of a stream gets the next number. -/
theorem IsSound.publish
    {broker : LocalBroker}
    (sound : broker.IsSound)
    (name : String)
    (fields : Fields)
    (bounded : (broker.entriesOf name).length + 1 < UInt64.size) :
    (broker.publish name fields).2.IsSound := by
  refine ⟨fun other index entry present => ?_, fun other => ?_,
    fun other group held known => ?_⟩
  · rw [entriesOf_publish] at present
    split at present
    · rw [List.getElem?_append] at present
      split at present
      · exact sound.numbered name index entry present
      · next behind =>
          have place : index - (broker.entriesOf name).length = 0 := by
            have inside := (List.getElem?_eq_some_iff.mp present).1
            simp only [List.length_singleton] at inside
            omega
          rw [place, List.getElem?_cons_zero, Option.some.injEq] at present
          rw [← present, show index + 1 = (broker.entriesOf name).length + 1 by omega]
    · exact sound.numbered other index entry present
  · rw [entriesOf_publish]
    split
    · rwa [List.length_append, List.length_singleton]
    · exact sound.bounded other
  · rw [group?_publish] at known
    have soundGroup := sound.groups other group held known
    rw [entriesOf_publish]
    split
    · next same =>
        refine ⟨?_, soundGroup.of_pending⟩
        rw [List.length_append, same]
        exact soundGroup.cursor_le.trans (Nat.le_add_right _ _)
    · exact soundGroup

/-- Calls keep a broker sound. -/
theorem Change.isSound
    {broker next : LocalBroker}
    {call : Call}
    (change : Change broker call next)
    (sound : broker.IsSound) :
    next.IsSound := by
  cases change with
  | nothing same => exact sound.congr same
  | publish name fields bounded => exact sound.publish name fields bounded
  | @create name group unknown =>
      refine sound.regroup group ⟨Nat.le_refl _, fun number consumer pending => ?_⟩
      simp [Group.startingAt] at pending
  | @hand _ name group consumer held pageEnd reads known behind within =>
      have soundGroup := sound.groups name group held known
      refine sound.regroup group ⟨within, fun number owner pending => ?_⟩
      change (held.own consumer _).pending[number]? = some owner at pending
      change 0 < number ∧ number ≤ pageEnd
      rw [Group.pending_own] at pending
      split at pending
      · next handed =>
          rw [sound.numbers_page name within, List.mem_range'_1] at handed
          omega
      · have earlier := soundGroup.of_pending number owner pending
        omega
  | @acknowledge name group held ids known =>
      have soundGroup := sound.groups name group held known
      obtain ⟨cursor, pending⟩ := held.foldl_acknowledge ids
      refine sound.regroup group ⟨cursor ▸ soundGroup.cursor_le, fun number owner owned => ?_⟩
      rw [pending] at owned
      split at owned
      · simp at owned
      · rw [cursor]
        exact soundGroup.of_pending number owner owned

/-- Every broker that calls lead to is sound. -/
theorem Reachable.isSound
    {broker : LocalBroker}
    (reachable : broker.Reachable) :
    broker.IsSound := by
  induction reachable with
  | empty => exact isSound_empty
  | serve call _ served inductionHypothesis =>
      exact (change_of_serve? served).isSound inductionHypothesis

/-- A broker that has no fewer entries and no cursor further behind than another one. -/
structure Extends (next broker : LocalBroker) : Prop where
  entries : ∀ name, broker.entriesOf name <+: next.entriesOf name
  groups : ∀ name group held, broker.group? name group = some held →
    ∃ later, next.group? name group = some later ∧ held.cursor ≤ later.cursor

/-- A group put in place of one with no later cursor only moves that cursor. -/
theorem extends_regroup
    {broker : LocalBroker}
    {name group : String}
    {later : Group}
    (forward : ∀ held, broker.group? name group = some held → held.cursor ≤ later.cursor) :
    (broker.regroup name group later).Extends broker where
  entries other := by rw [entriesOf_regroup]
  groups other member held known := by
    rw [group?_regroup]
    split
    · next same =>
        obtain ⟨rfl, rfl⟩ := same
        exact ⟨later, rfl, forward held known⟩
    · exact ⟨held, known, Nat.le_refl _⟩

/-- Calls add to streams only at their end and move cursors only forward. -/
theorem Change.extends
    {broker next : LocalBroker}
    {call : Call}
    (change : Change broker call next) :
    next.Extends broker := by
  cases change with
  | nothing same =>
      refine ⟨fun name => by rw [entriesOf_congr same], fun name group held known => ?_⟩
      exact ⟨held, (group?_congr same name group).trans known, Nat.le_refl _⟩
  | publish name fields bounded =>
      refine ⟨fun other => ?_, fun other group held known => ?_⟩
      · rw [entriesOf_publish]
        split
        · next same =>
            rw [← same]
            exact List.prefix_append _ _
        · exact List.prefix_refl _
      · exact ⟨held, (broker.group?_publish name other group fields).trans known,
          Nat.le_refl _⟩
  | create unknown =>
      exact extends_regroup fun held known => by simp [unknown] at known
  | hand reads known behind within =>
      refine extends_regroup fun other found => ?_
      rw [known] at found
      obtain rfl := Option.some.inj found
      exact Nat.le_of_lt behind
  | @acknowledge name group held ids known =>
      refine extends_regroup fun other found => ?_
      rw [known] at found
      obtain rfl := Option.some.inj found
      exact Nat.le_of_eq (held.foldl_acknowledge ids).1.symm

/-- A member owes what a group that was put in place of its own gives it, or what it owed. -/
theorem Owes.of_regroup
    {broker : LocalBroker}
    {name group stream member consumer : String}
    {later : Group}
    {number : Nat}
    (owes : (broker.regroup name group later).Owes stream member consumer number) :
    (name = stream ∧ group = member ∧ later.pending[number]? = some consumer) ∨
      broker.Owes stream member consumer number := by
  obtain ⟨held, known, pending⟩ := owes
  rw [group?_regroup] at known
  split at known
  · next same =>
      obtain rfl := Option.some.inj known
      exact .inl ⟨same.1, same.2, pending⟩
  · exact .inr ⟨held, known, pending⟩

/-- Only a read in a member's own name makes that member owe anything. -/
theorem Change.owes
    {broker next : LocalBroker}
    {call : Call}
    {stream group consumer : String}
    {number : Nat}
    (change : Change broker call next)
    (foreign : ¬ call.ReadsFor stream group consumer)
    (owes : next.Owes stream group consumer number) :
    broker.Owes stream group consumer number := by
  cases change with
  | nothing same =>
      obtain ⟨held, known, pending⟩ := owes
      exact ⟨held, (group?_congr same stream group).symm.trans known, pending⟩
  | publish name fields bounded =>
      obtain ⟨held, known, pending⟩ := owes
      exact ⟨held, (broker.group?_publish name stream group fields).symm.trans known, pending⟩
  | create unknown =>
      rcases owes.of_regroup with ⟨-, -, pending⟩ | owed
      · simp [Group.startingAt] at pending
      · exact owed
  | @hand _ name member reader held pageEnd reads known behind within =>
      rcases owes.of_regroup with ⟨rfl, rfl, pending⟩ | owed
      · change (held.own reader _).pending[number]? = some consumer at pending
        rw [Group.pending_own] at pending
        split at pending
        · obtain rfl := Option.some.inj pending
          exact absurd reads foreign
        · exact ⟨held, known, pending⟩
      · exact owed
  | @acknowledge name member held ids known =>
      rcases owes.of_regroup with ⟨rfl, rfl, pending⟩ | owed
      · rw [(held.foldl_acknowledge ids).2] at pending
        split at pending
        · simp at pending
        · exact ⟨held, known, pending⟩
      · exact owed

end LocalBroker
end FuzzIntake
