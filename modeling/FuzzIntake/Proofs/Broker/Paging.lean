import FuzzIntake.Proofs.Broker.Soundness

/-!
# Pages in order

A page of a sound broker holds entries of its stream in ascending order.  A page of a
member's history holds what the member owes behind its start and misses only what lies
behind its last entry; a page of new entries holds what lies between the cursor of the
group and its next place.
-/

namespace FuzzIntake

/-- A member is owed exactly what it was handed behind a number. -/
theorem Group.mem_ownedAfter_iff
    (group : Group)
    (consumer : String)
    (start number : Nat) :
    number ∈ group.ownedAfter consumer start ↔
      group.pending[number]? = some consumer ∧ start < number := by
  simp only [ownedAfter, List.mem_map, List.mem_filter, Bool.and_eq_true, decide_eq_true_eq,
    beq_iff_eq]
  constructor
  · rintro ⟨⟨other, owner⟩, ⟨pending, behind, rfl⟩, rfl⟩
    exact ⟨Std.ExtTreeMap.mem_toList_iff_getElem?_eq_some.mp pending, behind⟩
  · rintro ⟨pending, behind⟩
    exact ⟨(number, consumer),
      ⟨Std.ExtTreeMap.mem_toList_iff_getElem?_eq_some.mpr pending, behind, rfl⟩, rfl⟩

/-- What a member is owed is listed in ascending order. -/
theorem Group.sorted_ownedAfter (group : Group) (consumer : String) (start : Nat) :
    (group.ownedAfter consumer start).Pairwise (· < ·) := by
  rw [ownedAfter, List.pairwise_map]
  refine List.Pairwise.filter _ (Std.ExtTreeMap.ordered_keys_toList.imp ?_)
  intro earlier later ordered
  exact Nat.compare_eq_lt.mp ordered

namespace LocalBroker

/-- The entries behind the numbers of a sound broker have these numbers. -/
theorem IsSound.numbers_filterMap
    {broker : LocalBroker}
    (sound : broker.IsSound)
    (name : String)
    (numbers : List Nat)
    (inside : ∀ number ∈ numbers, 0 < number ∧ number ≤ (broker.entriesOf name).length) :
    (numbers.filterMap fun number => (broker.entriesOf name)[number - 1]?).map
      Delivery.number = numbers := by
  induction numbers with
  | nil => rfl
  | cons number rest inductionHypothesis =>
      obtain ⟨positive, within⟩ := inside number List.mem_cons_self
      have placed := List.getElem?_eq_getElem
        (show number - 1 < (broker.entriesOf name).length by omega)
      have further := inductionHypothesis fun other present =>
        inside other (List.mem_cons_of_mem number present)
      rw [List.filterMap_cons, placed]
      simp only [List.map_cons, sound.number_eq placed, further, Nat.sub_add_cancel positive]

/-- The numbers of a page of history are the first that its member is owed. -/
theorem IsSound.numbers_history
    {broker : LocalBroker}
    {name group : String}
    {held : Group}
    (sound : broker.IsSound)
    (known : broker.group? name group = some held)
    (consumer start : String)
    (count : Nat) :
    ((broker.streamOrEmpty name).history held consumer start count).map Delivery.number =
      (held.ownedAfter consumer (numberOfId start)).take (max count 1) := by
  refine sound.numbers_filterMap name _ fun number taken => ?_
  have soundGroup := sound.groups name group held known
  have pending := ((held.mem_ownedAfter_iff _ _ _).mp (List.mem_of_mem_take taken)).1
  have placed := soundGroup.of_pending number consumer pending
  exact ⟨placed.1, placed.2.trans soundGroup.cursor_le⟩

/-- A page of history holds entries of its stream. -/
theorem mem_entriesOf_of_mem_history
    {broker : LocalBroker}
    {name : String}
    {held : Group}
    {consumer start : String}
    {count : Nat}
    {entry : Delivery}
    (present : entry ∈ (broker.streamOrEmpty name).history held consumer start count) :
    entry ∈ broker.entriesOf name := by
  obtain ⟨number, -, found⟩ := List.mem_filterMap.mp present
  exact List.mem_of_getElem? found

/--
A page of history is in ascending order, holds only what its member owes behind the
start, and misses only what lies behind its last entry.
-/
theorem IsSound.history_law
    {broker : LocalBroker}
    {name group : String}
    {held : Group}
    (sound : broker.IsSound)
    (known : broker.group? name group = some held)
    (consumer start : String)
    (count : Nat) :
    let page := (broker.streamOrEmpty name).history held consumer start count
    page.Pairwise (fun earlier later => earlier.number < later.number) ∧
    (∀ entry ∈ page, broker.Owes name group consumer entry.number ∧
      numberOfId start < entry.number) ∧
    ∀ number, broker.Owes name group consumer number → numberOfId start < number →
      number ∈ page.map Delivery.number ∨
        ∃ last, page.getLast? = some last ∧ last.number < number := by
  intro page
  have numbers : page.map Delivery.number =
      (held.ownedAfter consumer (numberOfId start)).take (max count 1) :=
    sound.numbers_history known consumer start count
  have sorted := held.sorted_ownedAfter consumer (numberOfId start)
  refine ⟨?_, ?_, ?_⟩
  · rw [← List.pairwise_map (f := Delivery.number) (R := (· < ·)), numbers]
    exact sorted.sublist (List.take_sublist _ _)
  · intro entry present
    have taken : entry.number ∈ page.map Delivery.number := List.mem_map_of_mem present
    rw [numbers] at taken
    obtain ⟨pending, behind⟩ :=
      (held.mem_ownedAfter_iff _ _ _).mp (List.mem_of_mem_take taken)
    exact ⟨⟨held, known, pending⟩, behind⟩
  · rintro number ⟨other, found, pending⟩ behind
    obtain rfl : held = other := Option.some.inj (known.symm.trans found)
    have listed := (held.mem_ownedAfter_iff consumer (numberOfId start) number).mpr
      ⟨pending, behind⟩
    rw [numbers]
    rw [← List.take_append_drop (max count 1) (held.ownedAfter consumer (numberOfId start)),
      List.mem_append] at listed
    refine listed.imp_right fun dropped => ?_
    rw [← List.take_append_drop (max count 1) (held.ownedAfter consumer (numberOfId start)),
      List.pairwise_append, ← numbers] at sorted
    have filled : page ≠ [] := by
      intro empty
      rw [empty, List.map_nil] at numbers
      have short := congrArg List.length numbers
      have some_left := List.length_pos_of_mem dropped
      simp only [List.length_nil, List.length_take, List.length_drop] at short some_left
      omega
    refine ⟨page.getLast filled, List.getLast?_eq_getLast_of_ne_nil filled, ?_⟩
    exact sorted.2.2 _ (List.mem_map_of_mem (List.getLast_mem filled)) _ dropped

/--
A page of new entries is in ascending order and holds entries of its stream, namely
those between the cursor and the end of the page.
-/
theorem IsSound.page_law
    {broker : LocalBroker}
    (sound : broker.IsSound)
    (name : String)
    {first last : Nat}
    (within : last ≤ (broker.entriesOf name).length) :
    let page := ((broker.entriesOf name).drop first).take (last - first)
    page.Pairwise (fun earlier later => earlier.number < later.number) ∧
    (∀ entry ∈ page, entry ∈ broker.entriesOf name) ∧
    ∀ number, number ∈ page.map Delivery.number ↔ first < number ∧ number ≤ last := by
  intro page
  have numbers : page.map Delivery.number = List.range' (first + 1) (last - first) :=
    sound.numbers_page name within
  refine ⟨?_, fun entry present => ?_, fun number => ?_⟩
  · rw [← List.pairwise_map (f := Delivery.number) (R := (· < ·)), numbers]
    exact List.pairwise_lt_range'
  · exact List.mem_of_mem_drop (List.mem_of_mem_take present)
  · rw [numbers, List.mem_range'_1]
    omega

/-- Handing out a page makes its reader owe the page, and nothing else. -/
theorem IsSound.owes_hand
    {broker : LocalBroker}
    {name group consumer : String}
    {held : Group}
    {pageEnd number : Nat}
    (sound : broker.IsSound)
    (known : broker.group? name group = some held)
    (within : pageEnd ≤ (broker.entriesOf name).length)
    (owes : (broker.regroup name group
      (held.hand consumer (broker.entriesOf name) pageEnd)).Owes name group consumer number) :
    (held.cursor < number ∧ number ≤ pageEnd) ∨ broker.Owes name group consumer number := by
  rcases owes.of_regroup with ⟨-, -, pending⟩ | owed
  · change (held.own consumer _).pending[number]? = some consumer at pending
    rw [Group.pending_own] at pending
    split at pending
    · next handed => exact .inl (((sound.page_law name within).2.2 number).mp handed)
    · exact .inr ⟨held, known, pending⟩
  · exact .inr owed

/-- What was acknowledged is owed by nobody. -/
theorem not_owes_regroup_acknowledge
    (broker : LocalBroker)
    (name group consumer : String)
    (held : Group)
    {ids : List String}
    {id : String}
    (present : id ∈ ids) :
    ¬ (broker.regroup name group (ids.foldl Group.acknowledge held)).Owes name group consumer
      (numberOfId id) := by
  rintro ⟨later, found, pending⟩
  rw [group?_regroup, if_pos ⟨rfl, rfl⟩] at found
  obtain rfl := Option.some.inj found
  rw [(held.foldl_acknowledge ids).2, if_pos (List.mem_map_of_mem present)] at pending
  exact absurd pending (by simp)

end LocalBroker
end FuzzIntake
