/-!
# Cutting texts at separators

`pieces` cuts at every separator, `cut?` at the first one and `cutLast?` at the
last one.  `cutAt?` cuts at the first occurrence of a whole marker.
-/

namespace FuzzIntake
namespace Text

/-- The pieces between separators; a text without separators is its only piece. -/
def pieces (separator : Char) : List Char → List (List Char)
  | [] => [[]]
  | c :: rest =>
      if c = separator then
        [] :: pieces separator rest
      else
        match pieces separator rest with
        | [] => [[c]]
        | piece :: others => (c :: piece) :: others

/-- What stands before and after the first separator, if there is one. -/
def cut? (separator : Char) : List Char → Option (List Char × List Char)
  | [] => none
  | c :: rest =>
      if c = separator then
        some ([], rest)
      else
        (cut? separator rest).map fun (before, after) => (c :: before, after)

/-- What stands before and after the last separator, if there is one. -/
def cutLast? (separator : Char) : List Char → Option (List Char × List Char)
  | [] => none
  | c :: rest =>
      match cutLast? separator rest with
      | some (before, after) => some (c :: before, after)
      | none => if c = separator then some ([], rest) else none

/-- What follows `marker` at the front of a text, if the text starts with it. -/
def dropMarker? : (marker text : List Char) → Option (List Char)
  | [], text => some text
  | _ :: _, [] => none
  | m :: marker, c :: text => if m = c then dropMarker? marker text else none

/-- What stands before and after the first occurrence of `marker`. -/
def cutAt? (marker : List Char) : List Char → Option (List Char × List Char)
  | [] => (dropMarker? marker []).map fun after => ([], after)
  | c :: rest =>
      match dropMarker? marker (c :: rest) with
      | some after => some ([], after)
      | none => (cutAt? marker rest).map fun (before, after) => (c :: before, after)

end Text
end FuzzIntake
