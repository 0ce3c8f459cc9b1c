import FuzzIntake.Proofs.Broker.Membership
import FuzzIntake.Proofs.Broker.Placement
import Mathlib.Data.List.Sort

/-!
# Reading a backlog page by page

A member that comes back reads what it was handed and has not acknowledged: from the very
beginning, then from the last entry of each page, until a page is empty.  Meanwhile it may
acknowledge what it has read, and others may read, acknowledge and publish.  Whatever they
do, the numbers on the pages and the numbers still to come are those that were owed at the
beginning.
-/

namespace FuzzIntake

/-- Behind the last of the first numbers owed, the other ones are owed. -/
theorem Group.ownedAfter_of_getLast?
    {group : Group}
    {consumer : String}
    {start last : Nat}
    {page rest : List Nat}
    (cut : group.ownedAfter consumer start = page ++ rest)
    (found : page.getLast? = some last) :
    group.ownedAfter consumer last = rest := by
  have sorted := group.sorted_ownedAfter consumer start
  have listed : ∀ number, number ∈ page ++ rest ↔
      group.pending[number]? = some consumer ∧ start < number := fun number => by
    rw [← cut, mem_ownedAfter_iff]
  obtain ⟨earlier, rfl⟩ := List.getLast?_eq_some_iff.mp found
  rw [cut, List.append_assoc, List.singleton_append, List.pairwise_append] at sorted
  rw [List.append_assoc, List.singleton_append] at listed
  obtain ⟨-, sortedRest, before⟩ := sorted
  have behind := List.pairwise_cons.mp sortedRest
  apply (group.sorted_ownedAfter consumer last).eq_of_mem_iff behind.2
  intro number
  rw [mem_ownedAfter_iff]
  constructor
  · rintro ⟨pending, further⟩
    have began := ((listed last).mp (by simp)).2
    have present := (listed number).mpr ⟨pending, began.trans further⟩
    rw [List.mem_append, List.mem_cons] at present
    rcases present with first | rfl | present
    · have ordered := before number first last List.mem_cons_self
      omega
    · exact absurd further (Nat.lt_irrefl number)
    · exact present
  · intro present
    exact ⟨((listed number).mp (by simp [present])).1, behind.1 number present⟩

namespace LocalBroker

/-- The entries that a member was handed and has not acknowledged. -/
def backlog (broker : LocalBroker) (name group consumer : String) : List Delivery :=
  (broker.entriesOf name).filter fun entry =>
    (broker.group? name group).any fun held => held.pending[entry.number]? = some consumer

/--
A call while a member pages through its history, with some entries returned.  It is not a
read by that member and makes no read fail, and of what the member owes it acknowledges
only entries returned.
-/
structure Call.SparesPages (call : Call) (broker : LocalBroker) (name group consumer : String)
    (returned : List Delivery) : Prop where
  apart : ¬ call.ReadsFor name group consumer
  unfailing : ∀ count, call = .failReads count → count = 0
  within : ∀ ids, call = .acknowledge name group ids → ∀ id ∈ ids,
    broker.Owes name group consumer (numberOfId id) →
      numberOfId id ∈ returned.map Delivery.number

/--
A member pages through its history while others call the broker: the pages so far, the start
of its next read and the broker then.
-/
inductive PagesThrough (first : LocalBroker) (name group consumer : String) :
    List (List Delivery) → String → LocalBroker → Prop
  /-- Nothing is read yet. -/
  | begin : PagesThrough first name group consumer [] ownHistory first
  /-- Somebody calls the broker between two reads. -/
  | call {pages : List (List Delivery)} {start : String} {broker next : LocalBroker}
      {call : Call} :
      PagesThrough first name group consumer pages start broker →
      call.SparesPages broker name group consumer pages.flatten →
      broker.serve? call = some next →
      PagesThrough first name group consumer pages start next
  /-- A page is read, and the next read starts at its last entry. -/
  | read {pages : List (List Delivery)} {page : List Delivery} {last : Delivery}
      {start : String} {broker next : LocalBroker} (count : Nat) :
      PagesThrough first name group consumer pages start broker →
      broker.read? name group consumer start count = some (.ok page, next) →
      page.getLast? = some last →
      PagesThrough first name group consumer (pages ++ [page]) last.id next

section

variable {broker next : LocalBroker} {call : Call} {name group consumer start : String}
  {held : Group} {count number : Nat}

/-! ## What is owed -/

theorem owes_iff (known : broker.group? name group = some held) :
    broker.Owes name group consumer number ↔ held.pending[number]? = some consumer := by
  unfold Owes
  simp [known]

theorem mem_backlog_iff {entry : Delivery} :
    entry ∈ broker.backlog name group consumer ↔
      entry ∈ broker.entriesOf name ∧ broker.Owes name group consumer entry.number := by
  unfold backlog Owes
  rw [List.mem_filter, Option.any_eq_true]
  simp only [decide_eq_true_eq]

/-- A backlog is in ascending order. -/
theorem IsSound.ascending_backlog (sound : broker.IsSound) (name group consumer : String) :
    (broker.backlog name group consumer).Pairwise
      fun earlier later => earlier.number < later.number := by
  have ascending := (@IsSound.page_law broker sound name 0 _ (Nat.le_refl _)).1
  rw [List.drop_zero, Nat.sub_zero, List.take_length] at ascending
  exact ascending.filter _

/-- The numbers of a backlog are those that its member is owed. -/
theorem IsSound.numbers_backlog
    (sound : broker.IsSound)
    (known : broker.group? name group = some held)
    (consumer : String) :
    (broker.backlog name group consumer).map Delivery.number = held.ownedAfter consumer 0 := by
  have ascending := sound.ascending_backlog name group consumer
  rw [← List.pairwise_map (f := Delivery.number) (R := (· < ·))] at ascending
  apply ascending.eq_of_mem_iff (held.sorted_ownedAfter consumer 0)
  intro number
  rw [held.mem_ownedAfter_iff, List.mem_map]
  constructor
  · rintro ⟨entry, present, rfl⟩
    have pending := (owes_iff known).mp (mem_backlog_iff.mp present).2
    exact ⟨pending, ((sound.groups name group held known).of_pending _ _ pending).1⟩
  · rintro ⟨pending, positive⟩
    have soundGroup := sound.groups name group held known
    have inside := (soundGroup.of_pending number consumer pending).2.trans soundGroup.cursor_le
    have placed := List.getElem?_eq_getElem
      (show number - 1 < (broker.entriesOf name).length by omega)
    have same := (sound.number_eq placed).trans (Nat.sub_add_cancel positive)
    refine ⟨_, mem_backlog_iff.mpr ⟨List.getElem_mem _, ?_⟩, same⟩
    rw [same]
    exact (owes_iff known).mpr pending

/-- Entries of one stream follow each other as their numbers do. -/
theorem IsSound.isPrefix_of_numbers
    {part whole : List Delivery}
    (sound : broker.IsSound)
    (genuine : ∀ entry ∈ part, entry ∈ broker.entriesOf name)
    (wholeGenuine : ∀ entry ∈ whole, entry ∈ broker.entriesOf name)
    (beginning : part.map Delivery.number <+: whole.map Delivery.number) :
    part <+: whole := by
  induction part generalizing whole with
  | nil => exact List.nil_prefix
  | cons entry rest inductionHypothesis =>
      cases whole with
      | nil => simp at beginning
      | cons other others =>
          rw [List.map_cons, List.map_cons, List.cons_prefix_cons] at beginning
          rw [List.forall_mem_cons] at genuine wholeGenuine
          rw [List.cons_prefix_cons]
          exact ⟨sound.eq_of_number_eq genuine.1 wholeGenuine.1 beginning.1,
            inductionHypothesis genuine.2 wholeGenuine.2 beginning.2⟩

/-- What is owed and not acknowledged stays owed, since a read of new entries hands out only what
lies behind the cursor. -/
theorem Change.owes_of_not_acknowledged
    (change : Change broker call next)
    (sound : broker.IsSound)
    (owes : broker.Owes name group consumer number)
    (kept : ∀ ids, call = .acknowledge name group ids → number ∉ ids.map numberOfId) :
    next.Owes name group consumer number := by
  obtain ⟨held, known, pending⟩ := owes
  unfold Owes
  cases change with
  | nothing same => exact ⟨held, (group?_congr same name group).trans known, pending⟩
  | publish stream fields bounded =>
      exact ⟨held, (broker.group?_publish stream name group fields).trans known, pending⟩
  | @create stream member unknown =>
      rw [group?_regroup]
      split
      · next same =>
          rw [same.1, same.2, known] at unknown
          cases unknown
      · exact ⟨held, known, pending⟩
  | @hand _ stream member reader before pageEnd reads found behind within =>
      rw [group?_regroup]
      split
      · next same =>
          obtain ⟨rfl, rfl⟩ := same
          obtain rfl := Option.some.inj (known.symm.trans found)
          refine ⟨_, rfl, ?_⟩
          change (held.own reader _).pending[number]? = some consumer
          rw [Group.pending_own, if_neg, pending]
          intro handed
          have further := ((sound.page_law stream within).2.2 number).mp handed
          have earlier := ((sound.groups _ _ _ known).of_pending number consumer pending).2
          omega
      · exact ⟨held, known, pending⟩
  | @acknowledge stream member before ids found =>
      rw [group?_regroup]
      split
      · next same =>
          obtain ⟨rfl, rfl⟩ := same
          obtain rfl := Option.some.inj (known.symm.trans found)
          refine ⟨_, rfl, ?_⟩
          rw [(held.foldl_acknowledge ids).2, if_neg (kept ids rfl), pending]
      · exact ⟨held, known, pending⟩

/-! ## Reads of history -/

/-- A read of history that is not failed leaves the broker as it was. -/
theorem exists_read?_of_ne_freshEntries
    (willing : broker.readFailures = 0)
    (notFresh : start ≠ freshEntries)
    (name group consumer : String)
    (count : Nat) :
    ∃ answer, broker.read? name group consumer start count = some (answer, broker) := by
  rw [read?_eq_readNow? willing, readNow?]
  split
  · exact ⟨_, rfl⟩
  · split
    · exact ⟨_, rfl⟩
    · rw [if_neg notFresh]
      exact ⟨_, rfl⟩

/-- A read of history that is not failed is answered with history if the group is there. -/
theorem read?_of_ne_freshEntries
    (willing : broker.readFailures = 0)
    (notFresh : start ≠ freshEntries)
    (known : broker.group? name group = some held)
    (consumer : String)
    (count : Nat) :
    broker.read? name group consumer start count =
      some (.ok ((broker.streamOrEmpty name).history held consumer start count), broker) := by
  obtain ⟨stream, found, member⟩ := Option.bind_eq_some_iff.mp known
  rw [read?_eq_readNow? willing, readNow?, found]
  dsimp only
  rw [member]
  dsimp only
  rw [if_neg notFresh, streamOrEmpty, found, Option.getD_some]

end

/-! ## Paging -/

/--
Where a member stands that pages through what it owed at the beginning: the numbers on the
pages and those still owed behind the start of the next read are the numbers of that.
-/
structure IsPaging (broker : LocalBroker) (name group consumer : String) (owed : List Delivery)
    (pages : List (List Delivery)) (start : String) (held : Group) : Prop where
  sound : broker.IsSound
  willing : broker.readFailures = 0
  known : broker.group? name group = some held
  notFresh : start ≠ freshEntries
  owedGenuine : ∀ entry ∈ owed, entry ∈ broker.entriesOf name
  genuine : ∀ entry ∈ pages.flatten,
    entry ∈ broker.entriesOf name ∧ entry.number ≤ numberOfId start
  numbers : pages.flatten.map Delivery.number ++ held.ownedAfter consumer (numberOfId start) =
    owed.map Delivery.number
  filled : pages.length ≤ pages.flatten.length

variable {broker next : LocalBroker} {name group consumer start : String}
  {owed : List Delivery} {pages : List (List Delivery)} {held : Group}

/-- Nothing is read before the first page. -/
theorem isPaging_begin
    (sound : broker.IsSound)
    (willing : broker.readFailures = 0)
    (known : broker.group? name group = some held) :
    IsPaging broker name group consumer (broker.backlog name group consumer) [] ownHistory
      held where
  sound := sound
  willing := willing
  known := known
  notFresh := by decide
  owedGenuine _ present := (mem_backlog_iff.mp present).1
  genuine _ present := absurd present List.not_mem_nil
  numbers := by
    rw [sound.numbers_backlog known, numberOfId_ownHistory, List.flatten_nil, List.map_nil,
      List.nil_append]
  filled := Nat.le_refl 0

/-- Calls that spare the pages take nothing from what is still to come. -/
theorem IsPaging.call
    {call : Call}
    (paging : IsPaging broker name group consumer owed pages start held)
    (spares : call.SparesPages broker name group consumer pages.flatten)
    (served : broker.serve? call = some next) :
    ∃ later, IsPaging next name group consumer owed pages start later := by
  have change := change_of_serve? served
  obtain ⟨later, known, -⟩ := change.extends.groups name group held paging.known
  have same : later.ownedAfter consumer (numberOfId start) =
      held.ownedAfter consumer (numberOfId start) := by
    apply (later.sorted_ownedAfter consumer _).eq_of_mem_iff (held.sorted_ownedAfter consumer _)
    intro number
    rw [Group.mem_ownedAfter_iff, Group.mem_ownedAfter_iff, ← owes_iff known,
      ← owes_iff paging.known]
    refine and_congr_left fun behind => ⟨change.owes spares.apart, fun owes => ?_⟩
    refine change.owes_of_not_acknowledged paging.sound owes fun ids acknowledges named => ?_
    obtain ⟨id, present, rfl⟩ := List.mem_map.mp named
    obtain ⟨entry, returned, returnedNumber⟩ :=
      List.mem_map.mp (spares.within ids acknowledges id present owes)
    have before := (paging.genuine entry returned).2
    omega
  have longer := (change.extends.entries name).subset
  refine ⟨later, {
    sound := change.isSound paging.sound
    willing := ?_
    known := known
    notFresh := paging.notFresh
    owedGenuine := fun entry present => longer (paging.owedGenuine entry present)
    genuine := fun entry present => (paging.genuine entry present).imp_left fun old => longer old
    numbers := same ▸ paging.numbers
    filled := paging.filled }⟩
  rcases (failsNoMore_of_serve? served).reads with fewer | told
  · exact Nat.le_zero.mp (paging.willing ▸ fewer)
  · exact spares.unfailing _ told

/-- A page takes from what is still to come as much as it returns. -/
theorem IsPaging.read
    {page : List Delivery}
    {last : Delivery}
    {count : Nat}
    (paging : IsPaging broker name group consumer owed pages start held)
    (answered : broker.read? name group consumer start count = some (.ok page, next))
    (found : page.getLast? = some last) :
    IsPaging next name group consumer owed (pages ++ [page]) last.id held := by
  rw [read?_of_ne_freshEntries paging.willing paging.notFresh paging.known] at answered
  simp only [Option.some.injEq, Prod.mk.injEq, Except.ok.injEq] at answered
  obtain ⟨rfl, rfl⟩ := answered
  have numbers := paging.sound.numbers_history paging.known consumer start count
  obtain ⟨ascending, owes, -⟩ := paging.sound.history_law paging.known consumer start count
  have behind := owes last (List.mem_of_getLast? found)
  have cut := List.take_append_drop (max count 1)
    (held.ownedAfter consumer (numberOfId start))
  rw [← numbers] at cut
  refine {
    sound := paging.sound
    willing := paging.willing
    known := paging.known
    notFresh := fun fresh => ?_
    owedGenuine := paging.owedGenuine
    genuine := fun entry present => ?_
    numbers := ?_
    filled := ?_ }
  · have positive := behind.2
    rw [Delivery.number, fresh, numberOfId_freshEntries] at positive
    omega
  · rw [List.flatten_append, List.mem_append, List.flatten_singleton] at present
    rcases present with earlier | onPage
    · have before := paging.genuine entry earlier
      exact ⟨before.1, before.2.trans (Nat.le_of_lt behind.2)⟩
    · exact ⟨mem_entriesOf_of_mem_history onPage, number_le_of_getLast? ascending found onPage⟩
  · have lastNumber : (((broker.streamOrEmpty name).history held consumer start count).map
        Delivery.number).getLast? = some last.number := by
      rw [List.getLast?_map, found, Option.map_some]
    have remains := Group.ownedAfter_of_getLast? cut.symm lastNumber
    change _ ++ held.ownedAfter consumer last.number = _
    rw [remains, List.flatten_append, List.flatten_singleton, List.map_append,
      List.append_assoc, cut, paging.numbers]
  · rw [List.flatten_append, List.flatten_singleton, List.length_append, List.length_append,
      List.length_singleton]
    have some_entry := List.length_pos_of_mem (List.mem_of_getLast? found)
    have filled := paging.filled
    omega

/-- The pages are the first entries of what was owed. -/
theorem IsPaging.isPrefix
    (paging : IsPaging broker name group consumer owed pages start held) :
    pages.flatten <+: owed := by
  apply paging.sound.isPrefix_of_numbers (fun entry present => (paging.genuine entry present).1)
    paging.owedGenuine
  rw [← paging.numbers]
  exact List.prefix_append _ _

/-- When nothing is still to come, the pages are what was owed. -/
theorem IsPaging.eq_of_history_eq_nil
    {count : Nat}
    (paging : IsPaging broker name group consumer owed pages start held)
    (empty : (broker.streamOrEmpty name).history held consumer start count = []) :
    pages.flatten = owed := by
  have taken := paging.sound.numbers_history paging.known consumer start count
  rw [empty, List.map_nil, eq_comm, List.take_eq_nil_iff] at taken
  have nothing := taken.resolve_left (by omega)
  have numbers := congrArg List.length paging.numbers
  rw [nothing, List.append_nil, List.length_map, List.length_map] at numbers
  exact paging.isPrefix.eq_of_length numbers

/-- At every moment of paging, the pages and what is still to come are what was owed. -/
theorem PagesThrough.exists_isPaging
    {first : LocalBroker}
    (pagesThrough : PagesThrough first name group consumer pages start broker)
    (sound : first.IsSound)
    (willing : first.readFailures = 0)
    (known : first.group? name group = some held) :
    ∃ later, IsPaging broker name group consumer (first.backlog name group consumer) pages start
      later := by
  induction pagesThrough with
  | begin => exact ⟨held, isPaging_begin sound willing known⟩
  | call _ spares served inductionHypothesis =>
      obtain ⟨later, paging⟩ := inductionHypothesis
      exact paging.call spares served
  | read count _ answered found inductionHypothesis =>
      obtain ⟨later, paging⟩ := inductionHypothesis
      exact ⟨later, paging.read answered found⟩

/--
A member pages through its history, with pages of any sizes, while it acknowledges what it
has read and others do what they like in their own names, and no read is made to fail.  What
it owed at the beginning is in ascending order.  The pages are the first of these entries,
and there are no more pages than entries; every further read has an answer, and when that is
empty, the pages are all of them.  No read of history, by whomever, changes the broker.
-/
theorem pages_through_backlog
    {first last : LocalBroker}
    (reachable : first.Reachable)
    (willing : first.readFailures = 0)
    (known : first.group? name group = some held)
    (pagesThrough : PagesThrough first name group consumer pages start last) :
    (first.backlog name group consumer).Pairwise
      (fun earlier later => earlier.number < later.number) ∧
    pages.flatten <+: first.backlog name group consumer ∧
    pages.length ≤ (first.backlog name group consumer).length ∧
    (∀ count, ∃ page,
      last.read? name group consumer start count = some (.ok page, last) ∧
      (page = [] → pages.flatten = first.backlog name group consumer)) ∧
    ∀ stream member reader begin count, begin ≠ freshEntries →
      ∃ answer, last.read? stream member reader begin count = some (answer, last) := by
  obtain ⟨later, paging⟩ := pagesThrough.exists_isPaging reachable.isSound willing known
  refine ⟨reachable.isSound.ascending_backlog name group consumer, paging.isPrefix,
    paging.filled.trans paging.isPrefix.length_le, fun count => ?_,
    fun stream member reader begin count notFresh => ?_⟩
  · exact ⟨_, read?_of_ne_freshEntries paging.willing paging.notFresh paging.known consumer count,
      paging.eq_of_history_eq_nil⟩
  · exact exists_read?_of_ne_freshEntries paging.willing notFresh stream member reader count

/--
Between two pages of one reader, what it has read is acknowledged, an entry is published and
another reader is handed it.
-/
theorem pages_through_backlog_interrupted :
    ∃ (first last : LocalBroker) (pages : List (List Delivery)) (start : String),
      first.Reachable ∧ first.readFailures = 0 ∧
      PagesThrough first "s" "g" "a" pages start last ∧
      first.backlog "s" "g" "a" = [⟨"1-0", []⟩, ⟨"2-0", []⟩, ⟨"4-0", []⟩] ∧
      pages = [[⟨"1-0", []⟩], [⟨"2-0", []⟩, ⟨"4-0", []⟩]] ∧
      last.pending "s" "g" = ["2-0", "3-0", "4-0", "5-0"] ∧
      last.read? "s" "g" "a" start 0 = some (.ok [], last) ∧
      pages.flatten = first.backlog "s" "g" "a" := by
  obtain ⟨log, first, acknowledged, published, last, ran, one, acknowledge, publish, read, two,
      nothing, begun, handed, facts⟩ :
      ∃ log first acknowledged published last,
        LocalBroker.empty.run?
            [.setUpGroup "s" "g", .publish "s" [], .publish "s" [], .publish "s" [],
              .publish "s" [], .readNow "s" "g" "a" freshEntries 2,
              .readNow "s" "g" "b" freshEntries 1, .readNow "s" "g" "a" freshEntries 1] =
          some (log, first) ∧
        first.read? "s" "g" "a" ownHistory 0 = some (.ok [⟨"1-0", []⟩], first) ∧
        first.serve? (.acknowledge "s" "g" ["1-0"]) = some acknowledged ∧
        acknowledged.serve? (.publish "s" []) = some published ∧
        published.serve? (.readNow "s" "g" "b" freshEntries 5) = some last ∧
        last.read? "s" "g" "a" "1-0" 5 = some (.ok [⟨"2-0", []⟩, ⟨"4-0", []⟩], last) ∧
        last.read? "s" "g" "a" "4-0" 0 = some (.ok [], last) ∧
        first.readFailures = 0 ∧ (∃ held, first.group? "s" "g" = some held) ∧
        first.backlog "s" "g" "a" = [⟨"1-0", []⟩, ⟨"2-0", []⟩, ⟨"4-0", []⟩] ∧
        last.pending "s" "g" = ["2-0", "3-0", "4-0", "5-0"] :=
    ⟨_, _, _, _, _, rfl, rfl, rfl, rfl, rfl, rfl, rfl, rfl, ⟨_, rfl⟩, rfl, rfl⟩
  obtain ⟨held, known⟩ := handed
  have reachable := Reachable.empty.run ran
  have sparedFirst : Call.SparesPages (.acknowledge "s" "g" ["1-0"]) first "s" "g" "a"
      [⟨"1-0", []⟩] := by
    refine ⟨id, fun count same => (by cases same), fun ids same id present _ => ?_⟩
    cases same
    rw [List.mem_singleton.mp present]
    exact List.mem_singleton.mpr rfl
  have sparedSecond : Call.SparesPages (.publish "s" []) acknowledged "s" "g" "a"
      [⟨"1-0", []⟩] := by
    refine ⟨id, fun count same => ?_, fun ids same => ?_⟩ <;> cases same
  have sparedThird : Call.SparesPages (.readNow "s" "g" "b" freshEntries 5) published "s" "g" "a"
      [⟨"1-0", []⟩] := by
    refine ⟨fun reads => absurd reads.2.2 (by decide), fun count same => ?_,
      fun ids same => ?_⟩ <;> cases same
  have paged : PagesThrough first "s" "g" "a" [[⟨"1-0", []⟩], [⟨"2-0", []⟩, ⟨"4-0", []⟩]] "4-0"
      last :=
    .read 5 (.call (.call (.call (.read 0 .begin one rfl) sparedFirst acknowledge)
      sparedSecond publish) sparedThird read) two rfl
  obtain ⟨page, answered, complete⟩ :=
    (pages_through_backlog reachable begun known paged).2.2.2.1 0
  have empty : page = [] := by
    rw [nothing] at answered
    cases answered
    rfl
  exact ⟨first, last, _, _, reachable, begun, paged, facts.1, rfl, facts.2, nothing,
    complete empty⟩

end LocalBroker
end FuzzIntake
