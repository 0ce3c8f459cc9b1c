import FuzzIntake.Number.Double

/-!
# TOML values

A document is a tree of tables.  Every table remembers how it was introduced,
because that decides whether later lines may add to it.
-/

namespace FuzzIntake
namespace Toml

/-- How a table was introduced. -/
inductive TableForm
  /-- Written between braces; complete as it stands. -/
  | inline
  /-- Named by a header. -/
  | header
  /-- Only passed through by the header of another table. -/
  | passed
  /-- Passed through by a dotted key. -/
  | dotted
deriving DecidableEq, Repr

/-- A TOML value. -/
inductive Value
  | text (value : String)
  | integer (value : Int)
  | double (value : Double)
  /-- A number without a value: its digits are no digits, or it is past the largest double. -/
  | numeral
  | bool (value : Bool)
  | datetime
  /-- A list written between brackets. -/
  | list (items : List Value)
  /-- A list of tables, each under a header of its own. -/
  | tables (items : List Value)
  | table (form : TableForm) (entries : List (String × Value))
deriving BEq, Repr

/-- A key, split at its dots. -/
abbrev Path : Type :=
  List String

/-- One line of a document. -/
inductive Statement
  /-- A key and its value. -/
  | assign (path : Path) (value : Value)
  /-- The header of a table. -/
  | header (path : Path)
  /-- The header of one more table in a list. -/
  | listHeader (path : Path)
deriving BEq, Repr

end Toml
end FuzzIntake
