import FuzzIntake.Json.Value
import FuzzIntake.Number.Integer
import FuzzIntake.Number.Notation

/-!
# Writing JSON

Texts are compact: no blanks between tokens.  Strings escape the quote, the
backslash and the controls below `0x20`; everything else stands as it is.
Doubles are written positionally from `1e-5` up to `1e16`, always with a digit
after the point, and scientifically elsewhere.
-/

namespace FuzzIntake
namespace Json

/-- A lower-case hexadecimal digit. -/
def hexDigit (n : Nat) : Char :=
  if n < 10 then Char.ofNat (48 + n) else Char.ofNat (87 + n)

/-- A character as it stands inside a JSON string. -/
def escapeChar (c : Char) : List Char :=
  if c = '"' then ['\\', '"']
  else if c = '\\' then ['\\', '\\']
  else if c = '\x08' then ['\\', 'b']
  else if c = '\x0c' then ['\\', 'f']
  else if c = '\n' then ['\\', 'n']
  else if c = '\r' then ['\\', 'r']
  else if c = '\t' then ['\\', 't']
  else if c.toNat < 0x20 then
    ['\\', 'u', '0', '0', hexDigit (c.toNat / 16), hexDigit (c.toNat % 16)]
  else [c]

/-- A JSON string with its quotes. -/
def writeText (text : String) : List Char :=
  '"' :: (text.toList.flatMap escapeChar ++ ['"'])

/-- A double as a JSON number; numbers without a JSON form are written `null`. -/
def writeDouble : Double → List Char
  | .finite negative rank =>
      if rank.val = 0 then
        Double.signed negative "0.0".toList
      else
        let decimal := Double.shortest .even rank
        Double.signed negative <|
          if -5 ≤ decimal.leading ∧ decimal.leading < 16 then
            let (whole, fraction) := decimal.positional
            whole ++ '.' :: (if fraction.isEmpty then ['0'] else fraction)
          else
            decimal.scientific
  | _ => "null".toList

namespace Value

mutual

/-- The compact text of a value. -/
def write : Value → List Char
  | .null => "null".toList
  | .bool true => "true".toList
  | .bool false => "false".toList
  | .integer n => Integer.writeInt n
  | .double x => writeDouble x
  | .text s => writeText s
  | .list [] => "[]".toList
  | .list (item :: rest) => '[' :: (write item ++ writeItems rest)
  | .record [] => "\x7b\x7d".toList
  | .record ((key, value) :: rest) =>
      '\x7b' :: (writeText key ++ ':' :: (write value ++ writeMembers rest))

/-- The items after the first one, up to the closing bracket. -/
def writeItems : List Value → List Char
  | [] => [']']
  | item :: rest => ',' :: (write item ++ writeItems rest)

/-- The members after the first one, up to the closing brace. -/
def writeMembers : List (String × Value) → List Char
  | [] => ['\x7d']
  | (key, value) :: rest =>
      ',' :: (writeText key ++ ':' :: (write value ++ writeMembers rest))

end

theorem write_integer (n : Int) : write (.integer n) = Integer.writeInt n := rfl

theorem write_text (s : String) : write (.text s) = writeText s := rfl

theorem write_list_cons (item : Value) (rest : List Value) :
    write (.list (item :: rest)) = '[' :: (write item ++ writeItems rest) := rfl

theorem write_record_cons (key : String) (value : Value) (rest : List (String × Value)) :
    write (.record ((key, value) :: rest)) =
      '\x7b' :: (writeText key ++ ':' :: (write value ++ writeMembers rest)) := rfl

theorem writeItems_cons (item : Value) (rest : List Value) :
    writeItems (item :: rest) = ',' :: (write item ++ writeItems rest) := rfl

theorem writeMembers_cons (key : String) (value : Value) (rest : List (String × Value)) :
    writeMembers ((key, value) :: rest) =
      ',' :: (writeText key ++ ':' :: (write value ++ writeMembers rest)) := rfl

/-- The compact text of a value as a string. -/
def toText (value : Value) : String :=
  String.ofList value.write

end Value
end Json
end FuzzIntake
