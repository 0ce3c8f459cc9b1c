import FuzzIntake.Toml.Value

/-!
# Building TOML tables

Statements are added to the tree one after the other.  A table that a header or
braces have completed is closed: no second header names it, and no dotted key
reaches into it.  A path through a list of tables means the newest of them.
-/

namespace FuzzIntake
namespace Toml

/-- The entries of a table. -/
abbrev Entries : Type :=
  List (String × Value)

/-- Replace the value of a key that is present. -/
def replaceEntry (key : String) (value : Value) (entries : Entries) : Entries :=
  entries.map fun entry => if entry.1 = key then (key, value) else entry

/--
Change the table at the end of a path.  Missing tables on the way are created
with the form `created`; a dotted key, which creates dotted tables, does not
pass through tables that have a header.
-/
def changeAt? (created : TableForm) (change : TableForm → Entries → Option Entries) :
    Path → TableForm → Entries → Option Entries
  | [], form, entries => change form entries
  | key :: path, _, entries =>
      match entries.lookup key with
      | none =>
          (changeAt? created change path created []).map fun child =>
            entries ++ [(key, .table created child)]
      | some (.table form child) =>
          if form = .inline ∨ (created = .dotted ∧ form = .header) then
            none
          else
            (changeAt? created change path form child).map fun child =>
              replaceEntry key (.table form child) entries
      | some (.tables items) =>
          match items.getLast? with
          | some (.table form child) =>
              (changeAt? created change path form child).map fun child =>
                replaceEntry key (.tables (items.dropLast ++ [.table form child])) entries
          | _ => none
      | some _ => none

/-- Add a key that is not there yet. -/
def addEntry? (key : String) (value : Value) (entries : Entries) : Option Entries :=
  if (entries.lookup key).isSome then none else some (entries ++ [(key, value)])

/-- Give a table the value of a key; a dotted key ends in a table that only dotted keys made. -/
def assignIn? (path : Path) (value : Value) (form : TableForm) (entries : Entries) :
    Option Entries :=
  match path.getLast? with
  | none => none
  | some key =>
      let above := path.dropLast
      changeAt? .dotted
        (fun form entries =>
          if (form == .dotted) == above.isEmpty then none else addEntry? key value entries)
        above form entries

/-- Give an inline table the value of a key. -/
def assign? (entries : Entries) (path : Path) (value : Value) : Option Entries :=
  assignIn? path value .inline entries

/-- Open the table of a header; a table that was only passed through may still be opened. -/
def openTable? (path : Path) (root : Entries) : Option Entries :=
  match path.getLast? with
  | none => none
  | some key =>
      changeAt? .passed
        (fun _ entries =>
          match entries.lookup key with
          | none => some (entries ++ [(key, .table .header [])])
          | some (.table .passed child) =>
              some (replaceEntry key (.table .header child) entries)
          | some _ => none)
        path.dropLast .header root

/-- Open one more table in a list of tables. -/
def openListTable? (path : Path) (root : Entries) : Option Entries :=
  match path.getLast? with
  | none => none
  | some key =>
      changeAt? .passed
        (fun _ entries =>
          match entries.lookup key with
          | none => some (entries ++ [(key, .tables [.table .header []])])
          | some (.tables items) =>
              some (replaceEntry key (.tables (items ++ [.table .header []])) entries)
          | some _ => none)
        path.dropLast .header root

/-- Add a statement to the tree, given the path of the open table; also the new open path. -/
def addStatement? (current : Path) (root : Entries) : Statement → Option (Path × Entries)
  | .assign path value =>
      (changeAt? .passed (assignIn? path value) current .header root).map fun root =>
        (current, root)
  | .header path => (openTable? path root).map fun root => (path, root)
  | .listHeader path => (openListTable? path root).map fun root => (path, root)

/-- The tree of a list of statements. -/
def ofStatements? (statements : List Statement) : Option Entries :=
  let start : Path × Entries := ([], [])
  (statements.foldlM (fun state statement => addStatement? state.1 state.2 statement)
    start).map Prod.snd

end Toml
end FuzzIntake
