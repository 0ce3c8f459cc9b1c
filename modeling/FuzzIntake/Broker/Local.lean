import FuzzIntake.Broker
import FuzzIntake.Number.Integer
import Std.Data.ExtTreeMap

/-!
# Brokers in memory

The entries of a stream are numbered from one, and entry `n` has the id `n-0`.
A group starts at the end of its stream and remembers the first entry it has not
handed out, the entries handed out and not acknowledged with their owners, and
the ids acknowledged.  A broker can be told to fail a number of reads or
acknowledgements, or every request for a group.

Positions within a stream are words of 64 bits.  A read of new entries whose page
would end past the last of them has no answer, however few entries are there.
-/

namespace FuzzIntake

/-- What a broker knows of a consumer group. -/
structure Group where
  /-- How many entries of the stream lie before the first one not handed out. -/
  cursor : Nat
  /-- The owners of the entries handed out and not acknowledged, by entry number. -/
  pending : Std.ExtTreeMap Nat String
  /-- The ids acknowledged, in order. -/
  acked : List String

/-- A stream and its groups. -/
structure Stream where
  /-- The entries, oldest first. -/
  entries : List Delivery
  /-- The groups by name. -/
  groups : Std.ExtTreeMap String Group

/-- A broker in memory. -/
structure LocalBroker where
  /-- The streams by name. -/
  streams : Std.ExtTreeMap String Stream
  /-- How many of the next reads fail. -/
  readFailures : Nat
  /-- How many of the next acknowledgements fail. -/
  ackFailures : Nat
  /-- What every request for a group fails with. -/
  setupError : Option String

/-- A stream without entries and groups. -/
def Stream.empty : Stream :=
  ⟨[], ∅⟩

/-- The id of an entry. -/
def idOfNumber (number : Nat) : String :=
  String.ofList (Integer.writeNat number ++ "-0".toList)

/-- The number in front of an id's first dash; anything else counts as zero. -/
def numberOfId (id : String) : Nat :=
  match Integer.readNat (UInt64.size - 1) (id.toList.takeWhile (· != '-')) with
  | .ok number => number
  | .error _ => 0

namespace Group

/-- A group that starts behind `count` entries. -/
def startingAt (count : Nat) : Group :=
  ⟨count, ∅, []⟩

/-- Where a full page of new entries ends, unless that is no word of 64 bits. -/
def fullPageEnd? (group : Group) (count : Nat) : Option Nat :=
  let pageEnd := group.cursor + max count 1
  if pageEnd < UInt64.size then some pageEnd else none

/-- Hand the entries to a consumer. -/
def own (consumer : String) (page : List Delivery) (group : Group) : Group :=
  { group with
    pending := page.foldl
      (fun pending entry => pending.insert (numberOfId entry.id) consumer) group.pending }

/-- Acknowledge one id; an id that is not pending changes nothing. -/
def acknowledge (group : Group) (id : String) : Group :=
  if numberOfId id ∈ group.pending then
    { group with
      pending := group.pending.erase (numberOfId id)
      acked := group.acked ++ [id] }
  else
    group

/-- The entry numbers that a consumer owns behind `number`, in ascending order. -/
def ownedAfter (group : Group) (consumer : String) (number : Nat) : List Nat :=
  (group.pending.toList.filter fun (other, owner) =>
    number < other && owner == consumer).map Prod.fst

end Group

namespace Stream

/-- The next page of new entries for a consumer, which now owns them. -/
def takeNew? (stream : Stream) (name : String) (group : Group) (consumer : String)
    (count : Nat) : Option (List Delivery × Stream) :=
  (group.fullPageEnd? count).map fun fullPageEnd =>
    let pageEnd := min stream.entries.length fullPageEnd
    if group.cursor < pageEnd then
      let page := (stream.entries.drop group.cursor).take (pageEnd - group.cursor)
      let group := { (group.own consumer page) with cursor := pageEnd }
      (page, { stream with groups := stream.groups.insert name group })
    else
      ([], stream)

/-- The entries a consumer owns behind the id `start`, at most `count` and at least one. -/
def history (stream : Stream) (group : Group) (consumer start : String) (count : Nat) :
    List Delivery :=
  ((group.ownedAfter consumer (numberOfId start)).take (max count 1)).filterMap
    fun number => stream.entries[number - 1]?

end Stream

namespace LocalBroker

/-- A broker without streams. -/
def empty : LocalBroker :=
  ⟨∅, 0, 0, none⟩

/-- The stream of a name, empty if there is none yet. -/
def streamOrEmpty (broker : LocalBroker) (name : String) : Stream :=
  broker.streams[name]?.getD Stream.empty

/-- The group of a name within a stream. -/
def group? (broker : LocalBroker) (stream group : String) : Option Group :=
  broker.streams[stream]?.bind fun held => held.groups[group]?

/-- Add an entry to a stream; also its id. -/
def publish (broker : LocalBroker) (name : String) (fields : Fields) :
    String × LocalBroker :=
  let stream := broker.streamOrEmpty name
  let id := idOfNumber (stream.entries.length + 1)
  let stream := { stream with entries := stream.entries ++ [⟨id, fields⟩] }
  (id, { broker with streams := broker.streams.insert name stream })

/-- Add entries to a stream one after the other; also their ids. -/
def publishAll (broker : LocalBroker) (name : String) :
    List Fields → List String × LocalBroker
  | [] => ([], broker)
  | fields :: rest =>
      let (id, broker) := broker.publish name fields
      let (ids, broker) := broker.publishAll name rest
      (id :: ids, broker)

/-- Make sure that a group exists; a new one starts at the end of the stream. -/
def setUpGroup (broker : LocalBroker) (name group : String) :
    Except BrokerError GroupOutcome × LocalBroker :=
  match broker.setupError with
  | some detail => (.error (.groupSetup detail), broker)
  | none =>
      let stream := broker.streamOrEmpty name
      if group ∈ stream.groups then
        (.ok .existing, broker)
      else
        let held := Group.startingAt stream.entries.length
        let stream := { stream with groups := stream.groups.insert group held }
        (.ok .created, { broker with streams := broker.streams.insert name stream })

/-- Read entries without waiting for new ones; a page without an end has no answer. -/
def readNow? (broker : LocalBroker) (name group consumer start : String) (count : Nat) :
    Option (Except BrokerError (List Delivery) × LocalBroker) :=
  match broker.streams[name]? with
  | none => some (.error (.read ("NOGROUP no stream " ++ name)), broker)
  | some stream =>
      match stream.groups[group]? with
      | none => some (.error (.read ("NOGROUP no group " ++ group)), broker)
      | some held =>
          if start = freshEntries then
            (stream.takeNew? group held consumer count).map fun (page, stream) =>
              (.ok page, { broker with streams := broker.streams.insert name stream })
          else
            some (.ok (stream.history held consumer start count), broker)

/-- Begin a read, which first uses up an injected failure if one is left. -/
def read? (broker : LocalBroker) (name group consumer start : String) (count : Nat) :
    Option (Except BrokerError (List Delivery) × LocalBroker) :=
  if 0 < broker.readFailures then
    some (.error (.read "injected read failure"),
      { broker with readFailures := broker.readFailures - 1 })
  else
    broker.readNow? name group consumer start count

/-- Acknowledge ids, which first uses up an injected failure if one is left. -/
def acknowledge (broker : LocalBroker) (name group : String) (ids : List String) :
    Except BrokerError Unit × LocalBroker :=
  if 0 < broker.ackFailures then
    (.error (.acknowledge "injected ack failure"),
      { broker with ackFailures := broker.ackFailures - 1 })
  else
    match broker.streams[name]?.bind fun stream => stream.groups[group]?.map (stream, ·) with
    | none => (.error (.acknowledge ("NOGROUP no group " ++ group)), broker)
    | some (stream, held) =>
        let held := ids.foldl Group.acknowledge held
        let stream := { stream with groups := stream.groups.insert group held }
        (.ok (), { broker with streams := broker.streams.insert name stream })

/-- The ids a group has handed out and not seen acknowledged, in order. -/
def pending (broker : LocalBroker) (stream group : String) : List String :=
  match broker.group? stream group with
  | none => []
  | some held => held.pending.keys.map idOfNumber

/-- The ids acknowledged in a group, in order. -/
def acked (broker : LocalBroker) (stream group : String) : List String :=
  match broker.group? stream group with
  | none => []
  | some held => held.acked

/-- Whether a group exists. -/
def knowsGroup (broker : LocalBroker) (stream group : String) : Bool :=
  (broker.group? stream group).isSome

end LocalBroker
end FuzzIntake
