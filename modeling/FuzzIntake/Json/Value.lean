import FuzzIntake.Number.Double

/-!
# JSON values

The members of a record are kept in the order they were written, repeated keys
included.  `canonical` is the form in which a value is stored: the members of
every record are in the order of their keys, and a repeated key keeps its last
value.
-/

namespace FuzzIntake
namespace Json

/-- A JSON value; numbers without fraction and exponent stay exact integers. -/
inductive Value
  | null
  | bool (value : Bool)
  | integer (value : Int)
  | double (value : Double)
  | text (value : String)
  | list (items : List Value)
  | record (members : List (String × Value))
deriving BEq, Repr

namespace Value

/-- Put a member into a list sorted by key, replacing one of the same key. -/
def insertMember (key : String) (value : Value) :
    List (String × Value) → List (String × Value)
  | [] => [(key, value)]
  | (other, held) :: rest =>
      if key < other then
        (key, value) :: (other, held) :: rest
      else if key = other then
        (key, value) :: rest
      else
        (other, held) :: insertMember key value rest

mutual

/-- Sort the members of every record by key; of a repeated key the last value stays. -/
def canonical : Value → Value
  | .list items => .list (canonicalItems items)
  | .record members => .record (canonicalMembers [] members)
  | other => other

/-- Every item in canonical form. -/
def canonicalItems : List Value → List Value
  | [] => []
  | item :: rest => canonical item :: canonicalItems rest

/-- Put the members into a sorted list one after the other. -/
def canonicalMembers (sorted : List (String × Value)) :
    List (String × Value) → List (String × Value)
  | [] => sorted
  | (key, value) :: rest =>
      canonicalMembers (insertMember key (canonical value) sorted) rest

end

/-- The value of a member of a record. -/
def member? (key : String) : Value → Option Value
  | .record members => members.lookup key
  | _ => none

end Value
end Json
end FuzzIntake
