import FuzzIntake.Broker
import FuzzIntake.Number.Integer
import FuzzIntake.Store.Latest

/-!
# Replies of a stream server

A reply is read as a text, as a number or as the entries of a read.  The absent
reply reads as a list without items, and a field whose value is no text is left
out of its entry.
-/

namespace FuzzIntake

/-- A reply of a stream server. -/
inductive Reply
  | absent
  | integer (value : Int64)
  | bytes (content : List UInt8)
  | text (content : String)
  | list (items : List Reply)
deriving Inhabited, BEq, Repr

namespace Reply

/-- A reply as a text. -/
def text? : Reply → Option String
  | .integer value => some (String.ofList (Integer.writeInt value.toInt))
  | .bytes content => String.fromUTF8? ⟨content.toArray⟩
  | .text content => some content
  | .absent | .list _ => none

/-- A reply as a number. -/
def integer? : Reply → Option Int64
  | .integer value => some value
  | reply => reply.text?.bind fun text => (Integer.readInt64 text.toList).toOption

/-- A reply as a list. -/
def items? : Reply → Option (List Reply)
  | .absent => some []
  | .list items => some items
  | _ => none

/-- Names and values in turn; a name without a value is none of either. -/
def pairs? : List Reply → Option (List (String × Reply))
  | [] => some []
  | [_] => none
  | name :: value :: rest => do
      let name ← name.text?
      let rest ← pairs? rest
      return (name, value) :: rest

/-- A reply as named values; of a repeated name the latest value stays. -/
def record? (reply : Reply) : Option (List (String × Reply)) :=
  (reply.items?.bind pairs?).map (Latest.rows Prod.fst)

/-- The fields of an entry. -/
def fields? (reply : Reply) : Option Fields :=
  reply.record?.map fun members =>
    members.filterMap fun (name, value) => value.text?.map (name, ·)

/-- The entries that a reply names by their ids. -/
def identified? (reply : Reply) : Option (List Delivery) := do
  let members ← reply.record?
  members.mapM fun (id, value) => value.fields?.map fun fields => ⟨id, fields⟩

/-- The entries in a list of replies. -/
def page? (reply : Reply) : Option (List Delivery) := do
  let items ← reply.items?
  return (← items.mapM identified?).flatten

/-- The entries of all streams in a reply. -/
def entries? (reply : Reply) : Option (List Delivery) := do
  let streams ← reply.items?
  let pages ← streams.mapM fun stream => do
    let named ← stream.record?
    named.mapM fun (_, page) => page.page?
  return pages.flatten.flatten

end Reply
end FuzzIntake
