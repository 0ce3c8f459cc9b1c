import FuzzIntake.Toml.Statement

/-!
# Reading TOML

A document is its statements, added to the tree in order.  A byte order mark at
the front of the text is skipped.
-/

namespace FuzzIntake
namespace Toml

/-- The entries of the top table of a document. -/
def read? (text : String) : Option Entries :=
  let chars :=
    match text.toList with
    | '\uFEFF' :: rest => rest
    | chars => chars
  (readStatements? (2 * chars.length + 2) chars).bind ofStatements?

end Toml
end FuzzIntake
