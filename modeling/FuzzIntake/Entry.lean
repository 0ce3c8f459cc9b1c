import FuzzIntake.Operation

/-!
# Stream entries

A stream carries entries, flat maps from field names to texts.  An entry that
cannot become an operation is dropped.
-/

namespace FuzzIntake

/-- The fields of an entry. -/
abbrev Fields : Type :=
  List (String × String)

namespace Entry

/-- Why an entry becomes no operation. -/
inductive DropCause
  | missingOp
  | unknownOp (name : String)
  | missingProgram (kind : OperationKind)
deriving DecidableEq, Repr

namespace DropCause

/-- The short label of a cause. -/
def label : DropCause → String
  | .missingOp => "missing_op"
  | .unknownOp _ => "unknown_op"
  | .missingProgram _ => "missing_program"

/-- What a cause is about, if anything. -/
def detail? : DropCause → Option String
  | .missingOp => none
  | .unknownOp name => some name
  | .missingProgram kind => some kind.entryName

/-- The wording of a cause. -/
def message : DropCause → String
  | .missingOp => "entry has no op field"
  | .unknownOp name => "unrecognized op `" ++ name ++ "`"
  | .missingProgram kind => kind.entryName ++ " entry has no program key"

end DropCause

/-- What an entry stands for. -/
inductive Meaning
  | operation (operation : Operation)
  | dropped (cause : DropCause)
deriving BEq, Repr

end Entry
end FuzzIntake
