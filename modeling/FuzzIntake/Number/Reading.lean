import FuzzIntake.Number.Double

/-!
# Reading doubles

A number is an optional sign followed by `inf`, `infinity` or `nan` in any case,
or by digits with an optional point and an optional exponent.  The nearest
double is taken, and magnitudes past the largest double read as infinity.
-/

namespace FuzzIntake
namespace Double

/-- The leading ASCII digits of a text and what follows them. -/
def spanDigits (text : List Char) : List Char × List Char :=
  (text.takeWhile Char.isDigit, text.dropWhile Char.isDigit)

/-- The number that a list of digits denotes. -/
def digitsValue (digits : List Char) : Nat :=
  digits.foldl (fun value c => 10 * value + (c.toNat - 48)) 0

/-- The double nearest to `digits · 10 ^ exponent`. -/
def ofDecimal (negative : Bool) (digits : Nat) (exponent : Int) : Double :=
  let leading := (Nat.toDigits 10 digits).length + exponent
  if digits = 0 ∨ leading < -330 then
    ofRank negative 0
  else if 400 < leading then
    .infinite negative
  else if 0 ≤ exponent then
    ofRatio negative (digits * Nat.pow 10 exponent.toNat) 1
  else
    ofRatio negative digits (Nat.pow 10 (-exponent).toNat)

/-- An exponent: digits with an optional sign, and nothing after them. -/
def readExponent? (text : List Char) : Option Int :=
  let (negative, digits) :=
    match text with
    | '-' :: rest => (true, rest)
    | '+' :: rest => (false, rest)
    | rest => (false, rest)
  if digits.isEmpty || !digits.all Char.isDigit then
    none
  else
    let magnitude : Int := digitsValue digits
    some (if negative then -magnitude else magnitude)

/-- Digits with an optional point and an optional exponent. -/
def readMagnitude? (negative : Bool) (text : List Char) : Option Double :=
  let (whole, afterWhole) := spanDigits text
  let (fraction, afterFraction) :=
    match afterWhole with
    | '.' :: rest => spanDigits rest
    | rest => ([], rest)
  if whole.isEmpty && fraction.isEmpty then
    none
  else
    let build (exponent : Int) : Double :=
      ofDecimal negative (digitsValue (whole ++ fraction)) (exponent - fraction.length)
    match afterFraction with
    | [] => some (build 0)
    | c :: rest =>
        if c = 'e' ∨ c = 'E' then (readExponent? rest).map build else none

/-- A name of infinity or not-a-number in any case, or a decimal number. -/
def readUnsigned? (negative : Bool) (text : List Char) : Option Double :=
  let name := text.map Char.toLower
  if name = "inf".toList ∨ name = "infinity".toList then
    some (.infinite negative)
  else if name = "nan".toList then
    some .nan
  else
    readMagnitude? negative text

/-- Read a whole text as a double. -/
def read? : List Char → Option Double
  | '-' :: rest => readUnsigned? true rest
  | '+' :: rest => readUnsigned? false rest
  | text => readUnsigned? false text

end Double
end FuzzIntake
