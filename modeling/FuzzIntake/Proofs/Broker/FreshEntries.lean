import FuzzIntake.Instant
import FuzzIntake.Proofs.Broker.Membership

/-!
# Handing out new entries

A group with entries that nobody was handed hands out the next of them to whoever asks: as many
as asked for, at least one, and no more than there are.  The place where a full page would end
and the instant at which a wait would end are computed first.  Neither is needed when entries are
there, but one that is no word of 64 bits, or that no clock can show, makes the read a crash.
-/

namespace FuzzIntake
namespace LocalBroker

/--
Begin a read that waits for new entries at most a span; the instant at which the wait would end
must be one that a clock can show.
-/
def readWithin? (broker : LocalBroker) (name group consumer start : String) (count : Nat)
    (now : Instant) (patience : Span) :
    Option (Except BrokerError (List Delivery) × LocalBroker) :=
  if broker.readFailures = 0 ∧ start = freshEntries ∧ (now.after patience).isShown = false then
    none
  else
    broker.read? name group consumer start count

/-- The entries of a stream that a group has not handed out. -/
def undelivered (broker : LocalBroker) (name : String) (held : Group) : List Delivery :=
  (broker.entriesOf name).drop held.cursor

/-- The entries due to who asks for `count`: the next ones, at least one of them. -/
def nextPage (broker : LocalBroker) (name : String) (held : Group) (count : Nat) :
    List Delivery :=
  (broker.undelivered name held).take
    (min (max count 1) (broker.undelivered name held).length)

/--
A group hands out a page: its cursor moves past the page, the numbers of the page are pending
for their reader, and nothing else changes.
-/
structure HandsOut (broker : LocalBroker) (name group consumer : String) (held : Group)
    (page : List Delivery) (next : LocalBroker) : Prop where
  numbers : page.map Delivery.number = List.range' (held.cursor + 1) page.length
  handed : ∃ after, next.group? name group = some after ∧
    after.cursor = held.cursor + page.length ∧ after.acked = held.acked ∧
    ∀ number, after.pending[number]? =
      if number ∈ page.map Delivery.number then some consumer else held.pending[number]?
  others : ∀ stream member, (stream, member) ≠ (name, group) →
    next.group? stream member = broker.group? stream member
  entries : ∀ stream, next.entriesOf stream = broker.entriesOf stream
  failures : next.readFailures = broker.readFailures ∧ next.ackFailures = broker.ackFailures ∧
    next.setupError = broker.setupError

variable {broker next : LocalBroker} {name group consumer : String} {held : Group}
  {count : Nat}

@[simp] theorem length_nextPage
    (broker : LocalBroker)
    (name : String)
    (held : Group)
    (count : Nat) :
    (broker.nextPage name held count).length =
      min (max count 1) (broker.undelivered name held).length := by
  rw [nextPage, List.length_take, Nat.min_eq_left (Nat.min_le_right _ _)]

/-- The entries due are those between the cursor and the place where it moves. -/
theorem nextPage_eq_take
    (broker : LocalBroker)
    (name : String)
    (held : Group)
    (count : Nat) :
    broker.nextPage name held count = ((broker.entriesOf name).drop held.cursor).take
      (held.cursor + (broker.nextPage name held count).length - held.cursor) := by
  rw [Nat.add_sub_cancel_left, length_nextPage]
  rfl

/-- A group that is put behind the entries due to a reader hands them out. -/
theorem handsOut_regroup
    (sound : broker.IsSound)
    (known : broker.group? name group = some held)
    (consumer : String)
    (count : Nat) :
    HandsOut broker name group consumer held (broker.nextPage name held count)
      (broker.regroup name group (held.hand consumer (broker.entriesOf name)
        (held.cursor + (broker.nextPage name held count).length))) where
  numbers := by
    have within : held.cursor + (broker.nextPage name held count).length ≤
        (broker.entriesOf name).length := by
      have cursor_le := (sound.groups name group held known).cursor_le
      rw [length_nextPage, undelivered, List.length_drop]
      omega
    have numbered := @IsSound.numbers_page broker sound name held.cursor _ within
    rwa [← nextPage_eq_take, Nat.add_sub_cancel_left] at numbered
  handed := by
    refine ⟨held.hand consumer (broker.entriesOf name)
      (held.cursor + (broker.nextPage name held count).length), ?_, rfl, rfl, ?_⟩
    · rw [group?_regroup, if_pos ⟨rfl, rfl⟩]
    · intro number
      rw [Group.hand, ← nextPage_eq_take]
      exact Group.pending_own ..
  others stream member foreign := by
    rw [group?_regroup, if_neg]
    rintro ⟨rfl, rfl⟩
    exact foreign rfl
  entries stream := entriesOf_regroup ..
  failures := ⟨rfl, rfl, rfl⟩

/-- A read of new entries hands out those due to its reader, if the end of a full page is a word.
The page ends there, or where the stream does. -/
theorem readNow?_freshEntries
    (known : broker.group? name group = some held)
    (waiting : broker.undelivered name held ≠ [])
    (consumer : String)
    (count : Nat) :
    broker.readNow? name group consumer freshEntries count =
      if held.cursor + max count 1 < UInt64.size then
        some (.ok (broker.nextPage name held count),
          broker.regroup name group (held.hand consumer (broker.entriesOf name)
            (held.cursor + (broker.nextPage name held count).length)))
      else
        none := by
  obtain ⟨stream, found, member⟩ := Option.bind_eq_some_iff.mp known
  have entries : broker.entriesOf name = stream.entries := by
    rw [entriesOf, streamOrEmpty, found, Option.getD_some]
  have length : (broker.undelivered name held).length = stream.entries.length - held.cursor := by
    rw [undelivered, entries, List.length_drop]
  have some_entry := List.length_pos_iff.mpr waiting
  have pageEnd : min stream.entries.length (held.cursor + max count 1) =
      held.cursor + (broker.nextPage name held count).length := by
    rw [length_nextPage]
    omega
  have filled : held.cursor < held.cursor + (broker.nextPage name held count).length := by
    rw [length_nextPage]
    omega
  unfold readNow?
  rw [found]
  dsimp only
  rw [member]
  dsimp only
  rw [if_pos rfl, Stream.takeNew?, Group.fullPageEnd?]
  dsimp only
  split
  · rw [Option.map_some, Option.map_some, pageEnd, if_pos filled, ← entries,
      ← nextPage_eq_take, regroup_of_stream found, Group.hand, ← nextPage_eq_take, entries]
  · rfl

/-- A read that may wait and is not failed crashes or hands out the entries due to its reader. -/
theorem readWithin?_freshEntries
    (willing : broker.readFailures = 0)
    (known : broker.group? name group = some held)
    (waiting : broker.undelivered name held ≠ [])
    (consumer : String)
    (count : Nat)
    (now : Instant)
    (patience : Span) :
    broker.readWithin? name group consumer freshEntries count now patience =
      if held.cursor + max count 1 < UInt64.size ∧ (now.after patience).isShown = true then
        some (.ok (broker.nextPage name held count),
          broker.regroup name group (held.hand consumer (broker.entriesOf name)
            (held.cursor + (broker.nextPage name held count).length)))
      else
        none := by
  rw [readWithin?, read?_eq_readNow? willing, readNow?_freshEntries known waiting]
  cases shown : (now.after patience).isShown with
  | false => simp [willing]
  | true => simp

/--
In whatever state calls left a broker, a reader of new entries that are there is handed exactly
the ones due, unless the place where a full page would end is no word or the instant at which a
wait would end cannot be shown.
-/
theorem hands_next_entries_iff
    (reachable : broker.Reachable)
    (willing : broker.readFailures = 0)
    (known : broker.group? name group = some held)
    (waiting : broker.undelivered name held ≠ [])
    (consumer : String)
    (count : Nat)
    (now : Instant)
    (patience : Span) :
    (∃ next, broker.readWithin? name group consumer freshEntries count now patience =
        some (.ok (broker.nextPage name held count), next) ∧
      HandsOut broker name group consumer held (broker.nextPage name held count) next) ↔
    held.cursor + max count 1 < UInt64.size ∧ (now.after patience).isShown = true := by
  rw [readWithin?_freshEntries willing known waiting]
  constructor
  · rintro ⟨next, answered, -⟩
    exact (Option.ite_none_right_eq_some.mp answered).1
  · intro fits
    exact ⟨_, if_pos fits, handsOut_regroup reachable.isSound known consumer count⟩

/-- Two entries come into a stream, and a member is handed the first. -/
def halfRead : List Call :=
  [.setUpGroup "s" "g", .publish "s" [], .publish "s" [], .read "s" "g" "c" freshEntries 1]

/-- What is left of two entries of which one was handed out. -/
theorem exists_halfRead :
    ∃ log broker held, LocalBroker.empty.run? halfRead = some (log, broker) ∧
      broker.readFailures = 0 ∧ broker.group? "s" "g" = some held ∧ held.cursor = 1 ∧
      broker.undelivered "s" held = [⟨"2-0", []⟩] :=
  ⟨_, _, _, rfl, rfl, rfl, rfl, rfl⟩

/-- Whatever count is asked for, a single entry that is left makes the page. -/
theorem nextPage_singleton
    {entry : Delivery}
    (left : broker.undelivered name held = [entry])
    (count : Nat) :
    broker.nextPage name held count = [entry] := by
  rw [nextPage, left, List.length_singleton, Nat.min_eq_right (Nat.le_max_right _ _)]
  rfl

/-- The entry that is left is handed to who asks for the largest count for which there is room. -/
theorem hands_next_entries_iff_halfRead :
    ∃ log broker held, LocalBroker.empty.run? halfRead = some (log, broker) ∧
      broker.group? "s" "g" = some held ∧
      ∃ next, broker.readWithin? "s" "g" "d" freshEntries (UInt64.size - 2) 0 ⟨0⟩ =
          some (.ok [⟨"2-0", []⟩], next) ∧
        HandsOut broker "s" "g" "d" held [⟨"2-0", []⟩] next := by
  obtain ⟨log, broker, held, ran, willing, known, cursor, left⟩ := exists_halfRead
  have waiting : broker.undelivered "s" held ≠ [] := left ▸ List.cons_ne_nil _ _
  have room : held.cursor + max (UInt64.size - 2) 1 < UInt64.size := by
    rw [cursor]
    decide
  have handed := (hands_next_entries_iff (Reachable.empty.run ran) willing known waiting "d"
    (UInt64.size - 2) 0 ⟨0⟩).mpr ⟨room, by decide⟩
  rw [nextPage_singleton left] at handed
  exact ⟨log, broker, held, ran, known, handed⟩

/-- A reader that asks for all there could be crashes although an entry is left for it. -/
theorem crashes_on_largest_count :
    ∃ log broker held, LocalBroker.empty.run? halfRead = some (log, broker) ∧
      broker.readFailures = 0 ∧ broker.group? "s" "g" = some held ∧
      broker.nextPage "s" held (UInt64.size - 1) = [⟨"2-0", []⟩] ∧
      broker.readWithin? "s" "g" "d" freshEntries (UInt64.size - 1) 0 ⟨0⟩ = none := by
  obtain ⟨log, broker, held, ran, willing, known, cursor, left⟩ := exists_halfRead
  have waiting : broker.undelivered "s" held ≠ [] := left ▸ List.cons_ne_nil _ _
  have full : ¬ held.cursor + max (UInt64.size - 1) 1 < UInt64.size := by
    rw [cursor]
    decide
  refine ⟨log, broker, held, ran, willing, known, nextPage_singleton left _, ?_⟩
  rw [readWithin?_freshEntries willing known waiting]
  exact if_neg fun fits => full fits.1

end LocalBroker
end FuzzIntake
