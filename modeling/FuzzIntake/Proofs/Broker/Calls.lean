import FuzzIntake.Broker.Local
import FuzzIntake.Proofs.Number.Integer
import Mathlib.Data.List.Infix

/-!
# Calls at brokers in memory

Everything that a broker in memory can be asked, and the brokers that calls lead to
from an empty one.  One call changes no stream, or adds one entry to one stream, or
puts one group in place of another; `Change` says which groups these can be, and every
law below is read off it.

In every broker that calls lead to, an entry's id tells its place in the stream, and a
group has pending entries only before its cursor.
-/

namespace FuzzIntake

/-- The number in front of the first dash of an entry's id. -/
def Delivery.number (entry : Delivery) : Nat :=
  numberOfId entry.id

/-- The id of a number is read back as the number. -/
theorem numberOfId_idOfNumber
    {number : Nat}
    (bounded : number < UInt64.size) :
    numberOfId (idOfNumber number) = number := by
  have digits : (idOfNumber number).toList.takeWhile (· != '-') = Integer.writeNat number := by
    rw [idOfNumber, String.toList_ofList, List.takeWhile_append_of_pos]
    · exact List.append_nil _
    · intro c present
      have isDigit := Integer.isDigit_of_mem_writeNat present
      have noDash : c ≠ '-' := by
        rintro rfl
        exact absurd isDigit (by decide)
      simpa using noDash
  rw [numberOfId, digits, Integer.readNat_writeNat (by omega)]

/-- The start of a read of everything handed out lies before every entry. -/
@[simp] theorem numberOfId_ownHistory : numberOfId ownHistory = 0 := by
  rfl

namespace Group

/-- Hand out everything between the cursor and a later place. -/
def hand (group : Group) (consumer : String) (entries : List Delivery) (pageEnd : Nat) : Group :=
  { (group.own consumer ((entries.drop group.cursor).take (pageEnd - group.cursor))) with
    cursor := pageEnd }

/-- A group that has handed out no more than the first `count` entries of its stream. -/
structure IsSound (group : Group) (count : Nat) : Prop where
  cursor_le : group.cursor ≤ count
  of_pending : ∀ number consumer, group.pending[number]? = some consumer →
    0 < number ∧ number ≤ group.cursor

/-- The owners of entries after a page was handed to a consumer. -/
theorem pending_own
    (group : Group)
    (consumer : String)
    (page : List Delivery)
    (number : Nat) :
    (group.own consumer page).pending[number]? =
      if number ∈ page.map Delivery.number then some consumer
      else group.pending[number]? := by
  obtain ⟨cursor, pending, acked⟩ := group
  simp only [own]
  induction page generalizing pending with
  | nil => rfl
  | cons entry rest inductionHypothesis =>
      rw [List.foldl_cons, inductionHypothesis, Std.ExtTreeMap.getElem?_insert]
      simp only [Delivery.number, Std.compare_eq_iff_eq, List.map_cons, List.mem_cons]
      grind

/-- An acknowledged entry has no owner, and the other entries keep theirs. -/
theorem pending_acknowledge (group : Group) (id : String) (number : Nat) :
    (group.acknowledge id).pending[number]? =
      if numberOfId id = number then none else group.pending[number]? := by
  rw [acknowledge]
  split
  · simp only [Std.ExtTreeMap.getElem?_erase, Std.compare_eq_iff_eq]
  · next absent =>
      split
      · next same => exact Std.ExtTreeMap.getElem?_eq_none (same ▸ absent)
      · rfl

/-- Acknowledging does not move the cursor. -/
@[simp] theorem cursor_acknowledge (group : Group) (id : String) :
    (group.acknowledge id).cursor = group.cursor := by
  rw [acknowledge]
  split <;> rfl

/-- Acknowledging takes owners away and moves no cursor. -/
theorem foldl_acknowledge (group : Group) (ids : List String) :
    (ids.foldl acknowledge group).cursor = group.cursor ∧
      ∀ number, (ids.foldl acknowledge group).pending[number]? =
        if number ∈ ids.map numberOfId then none else group.pending[number]? := by
  induction ids generalizing group with
  | nil => exact ⟨rfl, fun _ => rfl⟩
  | cons id rest inductionHypothesis =>
      obtain ⟨cursor, pending⟩ := inductionHypothesis (group.acknowledge id)
      refine ⟨cursor.trans (group.cursor_acknowledge id), fun number => ?_⟩
      rw [List.foldl_cons, pending, pending_acknowledge]
      simp only [List.map_cons, List.mem_cons]
      grind

end Group

namespace LocalBroker

/-- What a broker in memory can be asked or told. -/
inductive Call
  | publish (stream : String) (fields : Fields)
  | setUpGroup (stream group : String)
  | read (stream group consumer start : String) (count : Nat)
  | readNow (stream group consumer start : String) (count : Nat)
  | acknowledge (stream group : String) (ids : List String)
  | failReads (count : Nat)
  | failAcks (count : Nat)
  | failSetUp (detail : String)

/-- A call that reads in the name of a member of a group. -/
def Call.ReadsFor (stream group consumer : String) : Call → Prop
  | .read name member reader _ _ => name = stream ∧ member = group ∧ reader = consumer
  | .readNow name member reader _ _ => name = stream ∧ member = group ∧ reader = consumer
  | _ => False

/--
The broker after a call, if the call has an answer.  The places in a stream are words
of 64 bits, so no stream is given more entries.
-/
def serve? (broker : LocalBroker) : Call → Option LocalBroker
  | .publish stream fields =>
      if (broker.streamOrEmpty stream).entries.length + 1 < UInt64.size then
        some (broker.publish stream fields).2
      else
        none
  | .setUpGroup stream group => some (broker.setUpGroup stream group).2
  | .read stream group consumer start count =>
      (broker.read? stream group consumer start count).map Prod.snd
  | .readNow stream group consumer start count =>
      (broker.readNow? stream group consumer start count).map Prod.snd
  | .acknowledge stream group ids => some (broker.acknowledge stream group ids).2
  | .failReads count => some { broker with readFailures := count }
  | .failAcks count => some { broker with ackFailures := count }
  | .failSetUp detail => some { broker with setupError := some detail }

/-- The brokers that calls lead to. -/
inductive Reachable : LocalBroker → Prop
  | empty : Reachable .empty
  | serve {broker next : LocalBroker} (call : Call) :
      Reachable broker → broker.serve? call = some next → Reachable next

/-- A read that is not failed is a read that does not wait. -/
theorem read?_eq_readNow?
    {broker : LocalBroker}
    (willing : broker.readFailures = 0)
    (name group consumer start : String)
    (count : Nat) :
    broker.read? name group consumer start count =
      broker.readNow? name group consumer start count := by
  rw [read?, willing, if_neg (Nat.lt_irrefl 0)]

/-! ## What is left to fail -/

/-- A broker after a call: nothing more is to fail than before, unless the call told it. -/
structure FailsNoMore (broker : LocalBroker) (call : Call) (next : LocalBroker) : Prop where
  reads : next.readFailures ≤ broker.readFailures ∨ call = .failReads next.readFailures
  acks : next.ackFailures ≤ broker.ackFailures ∨ call = .failAcks next.ackFailures
  setUp : broker.setupError ≠ none → next.setupError ≠ none

section

variable {broker next : LocalBroker} {call : Call}

/-- A change of streams makes nothing fail. -/
theorem failsNoMore_of_streams
    (same : ∃ streams, next = { broker with streams := streams }) :
    FailsNoMore broker call next := by
  rcases same with ⟨streams, rfl⟩
  exact ⟨.inl (Nat.le_refl _), .inl (Nat.le_refl _), id⟩

theorem failsNoMore_of_readNow?
    {name group consumer start : String}
    {count : Nat}
    {answer : Except BrokerError (List Delivery)}
    (served : broker.readNow? name group consumer start count = some (answer, next)) :
    FailsNoMore broker call next := by
  apply failsNoMore_of_streams
  rw [readNow?] at served
  split at served
  · cases served
    exact ⟨broker.streams, rfl⟩
  · split at served
    · cases served
      exact ⟨broker.streams, rfl⟩
    · split at served
      · obtain ⟨⟨page, stream⟩, -, handed⟩ := Option.map_eq_some_iff.mp served
        cases handed
        exact ⟨_, rfl⟩
      · cases served
        exact ⟨broker.streams, rfl⟩

theorem failsNoMore_of_read?
    {name group consumer start : String}
    {count : Nat}
    {answer : Except BrokerError (List Delivery)}
    (served : broker.read? name group consumer start count = some (answer, next)) :
    FailsNoMore broker call next := by
  rw [read?] at served
  split at served
  · cases served
    exact ⟨.inl (Nat.sub_le _ _), .inl (Nat.le_refl _), id⟩
  · exact failsNoMore_of_readNow? served

theorem failsNoMore_setUpGroup (broker : LocalBroker) (name group : String) :
    FailsNoMore broker call (broker.setUpGroup name group).2 := by
  apply failsNoMore_of_streams
  rw [setUpGroup]
  split
  · exact ⟨broker.streams, rfl⟩
  · dsimp only
    split
    · exact ⟨broker.streams, rfl⟩
    · exact ⟨_, rfl⟩

theorem failsNoMore_acknowledge
    (broker : LocalBroker)
    (name group : String)
    (ids : List String) :
    FailsNoMore broker call (broker.acknowledge name group ids).2 := by
  rw [acknowledge]
  split
  · exact ⟨.inl (Nat.le_refl _), .inl (Nat.sub_le _ _), id⟩
  · split
    · exact failsNoMore_of_streams ⟨broker.streams, rfl⟩
    · exact failsNoMore_of_streams ⟨_, rfl⟩

/-- Only a call that tells a broker to fail makes more fail. -/
theorem failsNoMore_of_serve? (served : broker.serve? call = some next) :
    FailsNoMore broker call next := by
  cases call with
  | publish stream fields =>
      obtain ⟨-, served⟩ := Option.ite_none_right_eq_some.mp served
      cases served
      exact failsNoMore_of_streams ⟨_, rfl⟩
  | setUpGroup stream group =>
      cases served
      exact broker.failsNoMore_setUpGroup stream group
  | read stream group consumer start count =>
      obtain ⟨⟨answer, _⟩, answered, rfl⟩ := Option.map_eq_some_iff.mp served
      exact failsNoMore_of_read? answered
  | readNow stream group consumer start count =>
      obtain ⟨⟨answer, _⟩, answered, rfl⟩ := Option.map_eq_some_iff.mp served
      exact failsNoMore_of_readNow? answered
  | acknowledge stream group ids =>
      cases served
      exact broker.failsNoMore_acknowledge stream group ids
  | failReads count =>
      cases served
      exact ⟨.inr rfl, .inl (Nat.le_refl _), id⟩
  | failAcks count =>
      cases served
      exact ⟨.inl (Nat.le_refl _), .inr rfl, id⟩
  | failSetUp detail =>
      cases served
      exact ⟨.inl (Nat.le_refl _), .inl (Nat.le_refl _), fun _ => Option.some_ne_none detail⟩

end

/-! ## Streams and groups after a change -/

/-- The entries of a stream. -/
def entriesOf (broker : LocalBroker) (name : String) : List Delivery :=
  (broker.streamOrEmpty name).entries

/-- Put a group in the place of its name. -/
def regroup (broker : LocalBroker) (name group : String) (held : Group) : LocalBroker :=
  let stream := broker.streamOrEmpty name
  { broker with
    streams := broker.streams.insert name
      { stream with groups := stream.groups.insert group held } }

/-- An entry that was handed to a consumer and not acknowledged. -/
def Owes (broker : LocalBroker) (stream group consumer : String) (number : Nat) : Prop :=
  ∃ held, broker.group? stream group = some held ∧ held.pending[number]? = some consumer

/-- The groups of a stream that is not there are those of an empty one. -/
theorem group?_eq (broker : LocalBroker) (stream group : String) :
    broker.group? stream group = (broker.streamOrEmpty stream).groups[group]? := by
  rw [group?, streamOrEmpty]
  cases broker.streams[stream]? with
  | none => rfl
  | some held => rfl

@[simp] theorem entriesOf_regroup
    (broker : LocalBroker)
    (name group other : String)
    (held : Group) :
    (broker.regroup name group held).entriesOf other = broker.entriesOf other := by
  simp only [entriesOf, streamOrEmpty, regroup, Std.ExtTreeMap.getElem?_insert,
    Std.compare_eq_iff_eq]
  split
  · next same => rw [same, Option.getD_some]
  · rfl

theorem group?_regroup
    (broker : LocalBroker)
    (name group stream other : String)
    (held : Group) :
    (broker.regroup name group held).group? stream other =
      if name = stream ∧ group = other then some held else broker.group? stream other := by
  simp only [group?_eq, streamOrEmpty, regroup, Std.ExtTreeMap.getElem?_insert,
    Std.compare_eq_iff_eq]
  by_cases same : name = stream
  · subst same
    simp only [if_true, Option.getD_some, Std.ExtTreeMap.getElem?_insert, Std.compare_eq_iff_eq,
      true_and]
  · simp only [same, if_false, false_and]

theorem entriesOf_publish
    (broker : LocalBroker)
    (name other : String)
    (fields : Fields) :
    (broker.publish name fields).2.entriesOf other =
      if name = other then
        broker.entriesOf name ++ [⟨idOfNumber ((broker.entriesOf name).length + 1), fields⟩]
      else
        broker.entriesOf other := by
  simp only [entriesOf, publish, streamOrEmpty, Std.ExtTreeMap.getElem?_insert,
    Std.compare_eq_iff_eq]
  split <;> rfl

@[simp] theorem group?_publish
    (broker : LocalBroker)
    (name stream group : String)
    (fields : Fields) :
    (broker.publish name fields).2.group? stream group = broker.group? stream group := by
  simp only [group?_eq, publish, streamOrEmpty, Std.ExtTreeMap.getElem?_insert,
    Std.compare_eq_iff_eq]
  split
  · next same => rw [same, Option.getD_some]
  · rfl

theorem entriesOf_congr
    {broker next : LocalBroker}
    (same : next.streams = broker.streams)
    (name : String) :
    next.entriesOf name = broker.entriesOf name := by
  rw [entriesOf, streamOrEmpty, same]
  rfl

theorem group?_congr
    {broker next : LocalBroker}
    (same : next.streams = broker.streams)
    (stream group : String) :
    next.group? stream group = broker.group? stream group := by
  rw [group?, same]
  rfl

end LocalBroker
end FuzzIntake
