import FuzzIntake.Configuration.Error
import FuzzIntake.Text.Blank
import FuzzIntake.Text.Pieces

/-!
# Stream sources

Sources are listed as `label=url` pieces between commas.  Blank pieces are
skipped, labels are unique, and the first faulty piece decides the error.
-/

namespace FuzzIntake

/-- A broker to read from. -/
structure LabelledSource where
  /-- The name of the source. -/
  label : String
  /-- Where the broker is. -/
  url : String
deriving DecidableEq, Repr

namespace LabelledSource

/-- What is wrong with a piece of a source list. -/
inductive Fault
  | noEquals (piece : String)
  | emptyPart (piece : String)
  | repeatedLabel (label : String)
deriving DecidableEq, Repr

/-- The wording of a fault. -/
def Fault.message : Fault → String
  | .noEquals piece => "`" ++ piece ++ "` is not label=url"
  | .emptyPart piece => "`" ++ piece ++ "` has an empty label or url"
  | .repeatedLabel label => "duplicate label `" ++ label ++ "`"

/-- The pieces of a source list that are not blank, without the blanks around them. -/
def piecesOf (text : List Char) : List (List Char) :=
  ((Text.pieces ',' text).map Text.trimChars).filter fun piece => !piece.isEmpty

/-- The source of one piece. -/
def ofPiece (piece : List Char) : Except Fault LabelledSource :=
  match Text.cut? '=' piece with
  | none => .error (.noEquals (String.ofList piece))
  | some (label, url) =>
      let label := Text.trimChars label
      let url := Text.trimChars url
      if label.isEmpty || url.isEmpty then
        .error (.emptyPart (String.ofList piece))
      else
        .ok ⟨String.ofList label, String.ofList url⟩

/-- Add the sources of the pieces to those before them. -/
def addPieces (sources : List LabelledSource) : List (List Char) →
    Except Fault (List LabelledSource)
  | [] => .ok sources
  | piece :: rest =>
      match ofPiece piece with
      | .error fault => .error fault
      | .ok source =>
          if sources.any fun other => other.label == source.label then
            .error (.repeatedLabel source.label)
          else
            addPieces (sources ++ [source]) rest

/-- The sources of a list. -/
def parseList (text : String) : Except Fault (List LabelledSource) :=
  addPieces [] (piecesOf text.toList)

/-- The sources of the setting `STREAMS`. -/
def ofSetting (text : String) : Except ConfigurationError (List LabelledSource) :=
  (parseList text).mapError fun fault => .invalid "STREAMS" fault.message

end LabelledSource
end FuzzIntake
