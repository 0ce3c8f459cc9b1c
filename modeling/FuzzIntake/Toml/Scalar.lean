import FuzzIntake.Number.Reading
import FuzzIntake.Toml.Value

/-!
# TOML numbers, truth values and dates

A number is known by its outline.  Hexadecimal, octal and binary integers have a
lower-case mark and no sign; a point or an exponent behind the first digits makes
a float, which has digits on both sides of the point.  Decimal numbers have no
leading zeros.  Single underscores may stand between digits, and one may set off
the sign, which then also allows leading zeros.

A decimal integer with an underscore may have an outline without a value: only
what stands next to its underscores is looked at, and any digit up to `f` will do.
A mark without digits has no value either, nor has a float past the largest
double.  Dates and times are checked against the calendar and the clock.
-/

namespace FuzzIntake
namespace Toml

/-- A text without its underscores, which stand singly between two digits. -/
def ungroup? (isDigit : Char → Bool) : List Char → Option (List Char)
  | [] => some []
  | '_' :: _ => none
  | c :: '_' :: next :: rest =>
      if isDigit c && isDigit next then (ungroup? isDigit (next :: rest)).map (c :: ·) else none
  | c :: rest => (ungroup? isDigit rest).map (c :: ·)

/-- Grouped digits, at least one. -/
def readDigits? (isDigit : Char → Bool) (text : List Char) : Option (List Char) :=
  (ungroup? isDigit text).filter fun digits => !digits.isEmpty && digits.all isDigit

/-- A sign, if there is one: whether it is a minus, and the text behind it. -/
def splitSign : List Char → Bool × List Char
  | '-' :: rest => (true, rest)
  | '+' :: rest => (false, rest)
  | rest => (false, rest)

/-- A number with a sign. -/
def signed (negative : Bool) (digits : List Char) : Int :=
  let magnitude : Int := Double.digitsValue digits
  if negative then -magnitude else magnitude

/-- A digit in bases up to sixteen. -/
def digitValue (c : Char) : Nat :=
  if c.isDigit then c.toNat - 48 else c.toLower.toNat - 87

/-- A digit of a base. -/
def isDigitOf (base : Nat) (c : Char) : Bool :=
  (c.isDigit || ('a' ≤ c.toLower && c.toLower ≤ 'f')) && digitValue c < base

/-- The integer of grouped digits in a base; the outline of one may lack digits. -/
def readBase? (base : Nat) (text : List Char) : Option Value :=
  if text.isEmpty then
    some .numeral
  else
    (readDigits? (isDigitOf base) text).map fun digits =>
      .integer (digits.foldl (fun n c => base * n + digitValue c) 0 : Nat)

/-- Whether digits have no zero in front of other digits. -/
def isPlain (digits : List Char) : Bool :=
  digits.head? != some '0' || digits.length = 1

/-- The exponent of a float. -/
def readExponent? (text : List Char) : Option Int :=
  let (negative, digits) := splitSign text
  (readDigits? Char.isDigit digits).map (signed negative)

/-- A float with a point or an exponent, rounded to a double. -/
def readDecimal? (zeros negative : Bool) (text : List Char) : Option Double := do
  let isMark (c : Char) : Bool := c == 'e' || c == 'E'
  let mantissa := text.takeWhile fun c => !isMark c
  let exponent ← match text.dropWhile fun c => !isMark c with
    | [] => some 0
    | _ :: rest => readExponent? rest
  let whole ← (readDigits? Char.isDigit (mantissa.takeWhile (· != '.'))).filter fun digits =>
    zeros || isPlain digits
  let fraction ← match mantissa.dropWhile (· != '.') with
    | [] => some []
    | _ :: rest => readDigits? Char.isDigit rest
  return Double.ofDecimal negative (Double.digitsValue (whole ++ fraction))
    (exponent - fraction.length)

/-- The integer of decimal digits, or its outline where an underscore groups other characters. -/
def readInteger? (negative : Bool) (text : List Char) : Option Value :=
  (ungroup? (isDigitOf 16) text).map fun digits =>
    if digits.all Char.isDigit then .integer (signed negative digits) else .numeral

/-- Whether a text has a point or an exponent mark. -/
def isFloat (text : List Char) : Bool :=
  text.any fun c => c == '.' || c == 'e' || c == 'E'

/-- A float, or its outline past the largest double. -/
def readFloat? (zeros negative : Bool) (text : List Char) : Option Value :=
  (readDecimal? zeros negative text).map fun x => if x.isFinite then .double x else .numeral

/-- The decimal number behind a sign and an underscore. -/
def readSetOff? (negative : Bool) (text : List Char) : Option Value :=
  if isFloat text then readFloat? true negative text
  else if text.head?.any (isDigitOf 16) then readInteger? negative text
  else none

/-- The decimal number directly behind a sign, or without one. -/
def readDecimalNumber? (negative : Bool) (text : List Char) : Option Value :=
  match text.takeWhile Char.isDigit, text.dropWhile Char.isDigit with
  | [], _ => none
  | digits, rest =>
      if isFloat rest then readFloat? false negative text
      else if rest.isEmpty then if isPlain digits then readInteger? negative text else none
      else if rest.head? = some '_' ∧ digits.head? ≠ some '0' then readInteger? negative text
      else none

/-- A number, or the name of infinity or not-a-number. -/
def readNumber? (text : List Char) : Option Value :=
  match text with
  | '0' :: 'x' :: digits => readBase? 16 digits
  | '0' :: 'o' :: digits => readBase? 8 digits
  | '0' :: 'b' :: digits => readBase? 2 digits
  | '+' :: '_' :: rest => readSetOff? false rest
  | '-' :: '_' :: rest => readSetOff? true rest
  | _ =>
      let (negative, rest) := splitSign text
      if rest = "inf".toList then some (.double (.infinite negative))
      else if rest = "nan".toList then some (.double .nan)
      else readDecimalNumber? negative rest

/-- A number of exactly two digits. -/
def readPair? : List Char → Option (Nat × List Char)
  | a :: b :: rest =>
      if a.isDigit && b.isDigit then some (Double.digitsValue [a, b], rest) else none
  | _ => none

/-- The number of days in a month. -/
def daysInMonth (year month : Nat) : Nat :=
  if month = 2 then
    if year % 4 = 0 ∧ (year % 100 ≠ 0 ∨ year % 400 = 0) then 29 else 28
  else if month ∈ [4, 6, 9, 11] then 30
  else 31

/-- What follows a calendar date. -/
def dropDate? (text : List Char) : Option (List Char) := do
  let (century, rest) ← readPair? text
  let (decade, rest) ← readPair? rest
  let year := century * 100 + decade
  match rest with
  | '-' :: rest =>
      let (month, rest) ← readPair? rest
      match rest with
      | '-' :: rest =>
          let (day, rest) ← readPair? rest
          if 1 ≤ month ∧ month ≤ 12 ∧ 1 ≤ day ∧ day ≤ daysInMonth year month then
            some rest
          else
            none
      | _ => none
  | _ => none

/-- What follows the seconds of a time and their fraction. -/
def dropSeconds? (text : List Char) : Option (List Char) := do
  match text with
  | ':' :: rest =>
      let (second, rest) ← readPair? rest
      if 60 < second then
        none
      else
        match rest with
        | '.' :: rest =>
            if (rest.takeWhile Char.isDigit).isEmpty then none
            else some (rest.dropWhile Char.isDigit)
        | rest => some rest
  | rest => some rest

/-- What follows a time of day. -/
def dropTime? (text : List Char) : Option (List Char) := do
  let (hour, rest) ← readPair? text
  match rest with
  | ':' :: rest =>
      let (minute, rest) ← readPair? rest
      if hour ≤ 23 ∧ minute ≤ 59 then dropSeconds? rest else none
  | _ => none

/-- Whether a text is empty or an offset from universal time. -/
def isOffset (text : List Char) : Bool :=
  match text with
  | [] => true
  | ['Z'] => true
  | ['z'] => true
  | sign :: rest =>
      (sign == '+' || sign == '-') &&
        match readPair? rest with
        | some (hour, ':' :: rest) =>
            match readPair? rest with
            | some (minute, []) => hour ≤ 23 && minute ≤ 59
            | _ => false
        | _ => false

/-- Whether a text is a date, a time, or both. -/
def isDatetime (text : List Char) : Bool :=
  match dropDate? text with
  | some [] => true
  | some (mark :: rest) =>
      (mark == 'T' || mark == 't' || mark == ' ') &&
        match dropTime? rest with
        | some offset => isOffset offset
        | none => false
  | none => dropTime? text == some []

/-- The value of a word that is no text, list or table. -/
def readScalar? (word : List Char) : Option Value :=
  if word = "true".toList then some (.bool true)
  else if word = "false".toList then some (.bool false)
  else if isDatetime word then some .datetime
  else readNumber? word

end Toml
end FuzzIntake
