import FuzzIntake.Broker.Consumer
import FuzzIntake.Proofs.Broker.Paging

/-!
# The page at hand

A member of a group reads what it was handed page by page and then new entries.  At any
moment the page at hand is in ascending order, and everything the member owes is on it
or lies behind the start of the member's next read.
-/

namespace FuzzIntake

/-- The last entry of an ascending page is the farthest one. -/
theorem number_le_of_getLast?
    {page : List Delivery}
    {entry last : Delivery}
    (ascending : page.Pairwise fun earlier later => earlier.number < later.number)
    (found : page.getLast? = some last)
    (present : entry ∈ page) :
    entry.number ≤ last.number := by
  obtain ⟨earlier, rfl⟩ := List.getLast?_eq_some_iff.mp found
  rw [List.mem_append, List.mem_singleton] at present
  rcases present with before | rfl
  · exact Nat.le_of_lt
      ((List.pairwise_append.mp ascending).2.2 entry before last List.mem_cons_self)
  · exact Nat.le_refl _

/-- The start of a read of new entries stands for no entry. -/
theorem numberOfId_freshEntries : numberOfId freshEntries = 0 := by
  rfl

namespace LocalBroker

/-- What the member that settings are about was handed and has not acknowledged. -/
def IsOwing (broker : LocalBroker) (settings : ConsumerSettings) (number : Nat) : Prop :=
  broker.Owes settings.stream settings.group settings.consumer number

/-- An entry that the member's group has not handed out. -/
def IsNew (broker : LocalBroker) (settings : ConsumerSettings) (number : Nat) : Prop :=
  ∀ held, broker.group? settings.stream settings.group = some held → held.cursor < number

/-- The numbers of the entries a member may still turn to, with a page at hand. -/
def MayCome (broker : LocalBroker) (settings : ConsumerSettings) (page : List Delivery)
    (number : Nat) : Prop :=
  number ∈ page.map Delivery.number ∨ broker.IsOwing settings number ∨
    broker.IsNew settings number

/-- A broker after calls that make the member owe nothing more. -/
structure Follows (next broker : LocalBroker) (settings : ConsumerSettings) : Prop where
  isSound : next.IsSound
  further : next.Extends broker
  owing : ∀ number, next.IsOwing settings number → broker.IsOwing settings number

/-- What is new later was new before. -/
theorem Extends.isNew
    {broker next : LocalBroker}
    {settings : ConsumerSettings}
    {number : Nat}
    (further : next.Extends broker)
    (isNew : next.IsNew settings number) :
    broker.IsNew settings number := by
  intro held known
  obtain ⟨later, found, forward⟩ := further.groups _ _ held known
  exact Nat.lt_of_le_of_lt forward (isNew later found)

/-- What may come later with a part of the page could come before. -/
theorem Follows.mayCome
    {broker next : LocalBroker}
    {settings : ConsumerSettings}
    {page rest : List Delivery}
    {number : Nat}
    (follows : next.Follows broker settings)
    (part : rest ⊆ page)
    (mayCome : next.MayCome settings rest number) :
    broker.MayCome settings page number := by
  rcases mayCome with present | owing | isNew
  · exact .inl (List.map_subset _ part present)
  · exact .inr (.inl (follows.owing number owing))
  · exact .inr (.inr (follows.further.isNew isNew))

/-- A broker that a call by somebody else leaves behind. -/
theorem Change.follows
    {broker next : LocalBroker}
    {call : Call}
    {settings : ConsumerSettings}
    (change : Change broker call next)
    (sound : broker.IsSound)
    (foreign : ¬ call.ReadsFor settings.stream settings.group settings.consumer) :
    next.Follows broker settings :=
  ⟨change.isSound sound, change.extends, fun _ owing => change.owes foreign owing⟩

/-- A broker with the same streams. -/
theorem follows_of_streams
    {broker next : LocalBroker}
    (same : next.streams = broker.streams)
    (sound : broker.IsSound)
    (settings : ConsumerSettings) :
    next.Follows broker settings :=
  Change.follows (Change.nothing same : Change broker (.failReads 0) next) sound
    fun reads => reads

/-- What may come after a read with its page at hand could come before the read. -/
theorem Reading.mayCome
    {broker next : LocalBroker}
    {settings : ConsumerSettings}
    {start : String}
    {count number : Nat}
    {page : List Delivery}
    (reading : broker.Reading settings.stream settings.group settings.consumer start count
      (.ok page) next)
    (sound : broker.IsSound)
    (mayCome : next.MayCome settings page number) :
    broker.MayCome settings [] number := by
  cases reading with
  | history notFresh known =>
      rcases mayCome with present | owing | isNew
      · obtain ⟨entry, onPage, rfl⟩ := List.mem_map.mp present
        exact .inr (.inl ((sound.history_law known _ start count).2.1 entry onPage).1)
      · exact .inr (.inl owing)
      · exact .inr (.inr isNew)
  | nothing fresh same =>
      exact (follows_of_streams same sound settings).mayCome (List.Subset.refl _) mayCome
  | @handed held pageEnd fresh known behind within =>
      have isNew_of_lt : ∀ later, held.cursor < later → broker.IsNew settings later := by
        intro later further other found
        obtain rfl : held = other := Option.some.inj (known.symm.trans found)
        exact further
      rcases mayCome with present | owing | isNew
      · have placed := ((sound.page_law settings.stream within).2.2 number).mp present
        exact .inr (.inr (isNew_of_lt number placed.1))
      · rcases sound.owes_hand known within owing with placed | owed
        · exact .inr (.inr (isNew_of_lt number placed.1))
        · exact .inr (.inl owed)
      · have change : Change broker
            (.readNow settings.stream settings.group settings.consumer start count) _ :=
          .hand ⟨rfl, rfl, rfl⟩ known behind within
        exact .inr (.inr (change.extends.isNew isNew))

end LocalBroker

/-! ## Where the page at hand stands -/

/--
Where the page at hand and the start of the next read stand within what a broker has
handed to a member.
-/
structure Placement (broker : LocalBroker) (settings : ConsumerSettings) (start : String)
    (page : List Delivery) : Prop where
  ascending : page.Pairwise fun earlier later => earlier.number < later.number
  genuine : ∀ entry ∈ page, entry ∈ broker.entriesOf settings.stream
  old : ∀ entry ∈ page, ¬ broker.IsNew settings entry.number
  beforeStart : start ≠ freshEntries → ∀ entry ∈ page, entry.number ≤ numberOfId start
  covered : ∀ number, broker.IsOwing settings number →
    number ∈ page.map Delivery.number ∨
      (start ≠ freshEntries ∧ numberOfId start < number)

namespace Placement

variable {broker next : LocalBroker} {settings : ConsumerSettings} {start : String}
  {page rest : List Delivery} {entry : Delivery}

/-- A page stays where it is when others call the broker. -/
theorem follow
    (placement : Placement broker settings start page)
    (follows : next.Follows broker settings) :
    Placement next settings start page where
  ascending := placement.ascending
  genuine entry present :=
    (follows.further.entries settings.stream).subset (placement.genuine entry present)
  old entry present isNew := placement.old entry present (follows.further.isNew isNew)
  beforeStart := placement.beforeStart
  covered number owing := placement.covered number (follows.owing number owing)

/-- Before everything handed out there is nothing to be in hand. -/
theorem ofOwnHistory (sound : broker.IsSound) : Placement broker settings ownHistory [] where
  ascending := .nil
  genuine entry present := absurd present List.not_mem_nil
  old entry present := absurd present List.not_mem_nil
  beforeStart _ entry present := absurd present List.not_mem_nil
  covered number owing := by
    obtain ⟨held, known, pending⟩ := owing
    refine .inr ⟨by decide, ?_⟩
    rw [numberOfId_ownHistory]
    exact ((sound.groups _ _ held known).of_pending number _ pending).1

/-- The entry being dealt with leaves the page when it is owed no more. -/
theorem tail
    (placement : Placement broker settings start (entry :: rest))
    (settled : ¬ broker.IsOwing settings entry.number) :
    Placement broker settings start rest where
  ascending := (List.pairwise_cons.mp placement.ascending).2
  genuine other present := placement.genuine other (List.mem_cons_of_mem entry present)
  old other present := placement.old other (List.mem_cons_of_mem entry present)
  beforeStart notFresh other present :=
    placement.beforeStart notFresh other (List.mem_cons_of_mem entry present)
  covered number owing := by
    refine (placement.covered number owing).imp_left fun present => ?_
    rw [List.map_cons, List.mem_cons] at present
    refine present.resolve_left ?_
    rintro rfl
    exact settled owing

/-- Nothing that may come lies before the entry being dealt with. -/
theorem number_le
    {number : Nat}
    (placement : Placement broker settings start (entry :: rest))
    (mayCome : broker.MayCome settings (entry :: rest) number) :
    entry.number ≤ number := by
  have onPage : ∀ other, other ∈ (entry :: rest).map Delivery.number → entry.number ≤ other := by
    intro other present
    rw [List.map_cons, List.mem_cons] at present
    rcases present with rfl | present
    · exact Nat.le_refl _
    · obtain ⟨later, behind, rfl⟩ := List.mem_map.mp present
      exact Nat.le_of_lt ((List.pairwise_cons.mp placement.ascending).1 later behind)
  rcases mayCome with present | owing | isNew
  · exact onPage number present
  · rcases placement.covered number owing with present | ⟨notFresh, behind⟩
    · exact onPage number present
    · have before := placement.beforeStart notFresh entry List.mem_cons_self
      omega
  · by_contra before
    refine placement.old entry List.mem_cons_self fun held known => ?_
    have further := isNew held known
    omega

/-- Everything that may come lies behind an entry that left the page. -/
theorem number_lt
    {number : Nat}
    (placement : Placement broker settings start (entry :: rest))
    (settled : ¬ broker.IsOwing settings entry.number)
    (mayCome : broker.MayCome settings rest number) :
    entry.number < number := by
  have further : broker.MayCome settings (entry :: rest) number :=
    mayCome.imp_left fun present => List.mem_cons_of_mem _ present
  refine Nat.lt_of_le_of_ne (placement.number_le further) ?_
  rintro rfl
  rcases mayCome with present | owing | isNew
  · obtain ⟨later, behind, same⟩ := List.mem_map.mp present
    have ascending := (List.pairwise_cons.mp placement.ascending).1 later behind
    omega
  · exact settled owing
  · exact placement.old entry List.mem_cons_self isNew

/-- A page of history is placed before the start of the next one.  An entry that is owed is on the
page, or the next read starts at the last entry of the page and comes to it. -/
theorem history
    {held : Group}
    (placement : Placement broker settings start [])
    (sound : broker.IsSound)
    (notFresh : start ≠ freshEntries)
    (known : broker.group? settings.stream settings.group = some held)
    (count : Nat) :
    let page := (broker.streamOrEmpty settings.stream).history held settings.consumer start count
    Placement broker settings (Consumer.startAfter start page) page := by
  intro page
  obtain ⟨ascending, owed, complete⟩ := sound.history_law known settings.consumer start count
  have soundGroup := sound.groups _ _ held known
  have old : ∀ entry ∈ page, entry.number ≤ held.cursor := by
    intro entry present
    obtain ⟨other, found, pending⟩ := (owed entry present).1
    obtain rfl : held = other := Option.some.inj (known.symm.trans found)
    exact (soundGroup.of_pending _ _ pending).2
  refine ⟨ascending, fun entry present => LocalBroker.mem_entriesOf_of_mem_history present,
    fun entry present isNew => ?_, fun _ entry present => ?_, fun number owing => ?_⟩
  · have new := isNew held known
    have handed := old entry present
    omega
  · rw [Consumer.startAfter, if_neg notFresh] at *
    cases found : page.getLast? with
    | none =>
        rw [List.getLast?_eq_none_iff.mp found] at present
        exact absurd present List.not_mem_nil
    | some last =>
        change entry.number ≤ last.number
        exact number_le_of_getLast? ascending found present
  · have behind : numberOfId start < number := by
      rcases placement.covered number owing with present | ⟨-, behind⟩
      · exact absurd present List.not_mem_nil
      · exact behind
    refine (complete number owing behind).imp_right ?_
    rintro ⟨last, found, further⟩
    change page.getLast? = some last at found
    rw [Consumer.startAfter, if_neg notFresh, found]
    refine ⟨fun fresh => ?_, further⟩
    change last.id = freshEntries at fresh
    have positive := (owed last (List.mem_of_getLast? found)).2
    rw [Delivery.number, fresh, numberOfId_freshEntries] at positive
    omega

/-- A page of new entries is all that its reader owes. -/
theorem handed
    {held : Group}
    {pageEnd : Nat}
    (placement : Placement broker settings freshEntries [])
    (sound : broker.IsSound)
    (known : broker.group? settings.stream settings.group = some held)
    (within : pageEnd ≤ (broker.entriesOf settings.stream).length) :
    Placement
      (broker.regroup settings.stream settings.group
        (held.hand settings.consumer (broker.entriesOf settings.stream) pageEnd))
      settings freshEntries
      (((broker.entriesOf settings.stream).drop held.cursor).take (pageEnd - held.cursor)) := by
  obtain ⟨ascending, genuine, numbers⟩ :=
    LocalBroker.IsSound.page_law sound settings.stream within
  refine ⟨ascending, fun entry present => ?_, fun entry present isNew => ?_,
    fun notFresh => absurd rfl notFresh, fun number owing => .inl ?_⟩
  · rw [LocalBroker.entriesOf_regroup]
    exact genuine entry present
  · have placed := ((numbers entry.number).mp (List.mem_map_of_mem present)).2
    have later := isNew (held.hand settings.consumer (broker.entriesOf settings.stream) pageEnd)
      (by rw [LocalBroker.group?_regroup, if_pos ⟨rfl, rfl⟩])
    change pageEnd < entry.number at later
    omega
  · rcases sound.owes_hand known within owing with placed | owed
    · exact (numbers number).mpr placed
    · rcases placement.covered number owed with present | ⟨notFresh, -⟩
      · exact absurd present List.not_mem_nil
      · exact absurd rfl notFresh

/-- The page that a read answers with is placed before the start of the next read. -/
theorem received
    {count : Nat}
    {answered : List Delivery}
    (placement : Placement broker settings start [])
    (sound : broker.IsSound)
    (reading : broker.Reading settings.stream settings.group settings.consumer start count
      (.ok answered) next) :
    Placement next settings (Consumer.startAfter start answered) answered := by
  cases reading with
  | history notFresh known => exact placement.history sound notFresh known count
  | nothing fresh same =>
      rw [Consumer.startAfter, if_pos fresh]
      exact placement.follow (LocalBroker.follows_of_streams same sound settings)
  | handed fresh known behind within =>
      subst fresh
      exact placement.handed sound known within

end Placement

end FuzzIntake
