import FuzzIntake.Json.Value
import FuzzIntake.Number.Integer

/-!
# Reading JSON numbers

A number without fraction and exponent that fits 64 bits stays an integer.
Every other number is a double computed in one step from the digits that fit a
64-bit word: the word is rounded to a double, then multiplied or divided by a
rounded power of ten.  Digits that do not fit are dropped, and dropped digits
before the point raise the exponent.
-/

namespace FuzzIntake
namespace Json

/-- The largest significand that is kept. -/
def significandLimit : Nat :=
  UInt64.size - 1

/-- A product of magnitudes, rounded to the nearest rank. -/
def productRank (left right : Nat) : Nat :=
  Double.nearestRank (Double.scaled left * Double.scaled right) Double.unit

/-- A quotient of magnitudes, rounded to the nearest rank. -/
def quotientRank (left right : Nat) : Nat :=
  Double.nearestRank (Double.scaled left * Double.unit) (Double.scaled right)

/-- The rank nearest to `10 ^ exponent`. -/
def tenRank (exponent : Nat) : Nat :=
  Double.nearestRank (Nat.pow 10 exponent * Double.unit) 1

/-- Divide by `1e308` until the exponent is at most 308, then by the power that is left. -/
def divideByTen : (rounds : Nat) → (rank exponent : Nat) → Nat
  | 0, rank, _ => rank
  | rounds + 1, rank, exponent =>
      if exponent ≤ 308 then
        quotientRank rank (tenRank exponent)
      else if rank = 0 then
        rank
      else
        divideByTen rounds (quotientRank rank (tenRank 308)) (exponent - 308)

/-- The double of a significand and a decimal exponent; magnitudes past the largest are refused. -/
def scaleByTen? (negative : Bool) (significand : Nat) (exponent : Int) : Option Double :=
  let rank := Double.nearestRank (significand * Double.unit) 1
  if 0 ≤ exponent then
    if exponent ≤ 308 then
      let scaled := productRank rank (tenRank exponent.toNat)
      if scaled < Double.ranks then some (Double.ofRank negative scaled) else none
    else if rank = 0 then
      some (Double.ofRank negative 0)
    else
      none
  else
    some (Double.ofRank negative (divideByTen 4 rank (-exponent).toNat))

/-- The digits at the front of a text that keep the significand within its limit. -/
def takeDigits : (significand taken : Nat) → List Char → Nat × Nat × List Char
  | significand, taken, [] => (significand, taken, [])
  | significand, taken, c :: rest =>
      match Integer.digit? c with
      | none => (significand, taken, c :: rest)
      | some d =>
          if 10 * significand + d ≤ significandLimit then
            takeDigits (10 * significand + d) (taken + 1) rest
          else
            (significand, taken, c :: rest)

/-- A decimal exponent after its letter: a sign and at least one digit. -/
def readExponent? (text : List Char) : Option (Bool × Nat × List Char) :=
  let (negative, digits) :=
    match text with
    | '-' :: rest => (true, rest)
    | '+' :: rest => (false, rest)
    | rest => (false, rest)
  let (shown, rest) := (digits.takeWhile Char.isDigit, digits.dropWhile Char.isDigit)
  if shown.isEmpty then
    none
  else
    some (negative, shown.foldl (fun n c => 10 * n + (c.toNat - 48)) 0, rest)

/-- The largest exponent that is computed with. -/
def exponentLimit : Nat :=
  Nat.pow 2 31 - 1

/-- Finish a number whose significand is known, reading an exponent if one follows. -/
def finish? (negative : Bool) (significand : Nat) (exponent : Int) (text : List Char) :
    Option (Value × List Char) :=
  let plain := (scaleByTen? negative significand exponent).map fun x => (.double x, text)
  match text with
  | [] => plain
  | c :: rest =>
      if c = 'e' ∨ c = 'E' then
        (readExponent? rest).bind fun (down, shown, rest) =>
          if exponentLimit < shown then
            if significand ≠ 0 ∧ !down then
              none
            else
              some (.double (Double.ofRank negative 0), rest)
          else
            let total := if down then exponent - shown else exponent + shown
            (scaleByTen? negative significand total).map fun x => (.double x, rest)
      else
        plain

/-- Read the fraction behind a point; digits past the limit are skipped. -/
def readFraction? (negative : Bool) (significand raised : Nat) (text : List Char) :
    Option (Value × List Char) :=
  let (significand, taken, rest) := takeDigits significand 0 text
  let skipped := rest.dropWhile Char.isDigit
  if taken = 0 ∧ skipped.length = rest.length then
    none
  else
    finish? negative significand ((raised : Int) - taken) skipped

/-- An integer if it fits 64 bits; minus zero and larger magnitudes are doubles. -/
def ofInteger (negative : Bool) (significand : Nat) : Value :=
  if negative then
    if significand = 0 ∨ Nat.pow 2 63 < significand then
      .double (Double.ofRank true (Double.nearestRank (significand * Double.unit) 1))
    else
      .integer (-significand)
  else
    .integer significand

/-- A number without its sign; a leading zero stands alone. -/
def readUnsigned? (negative : Bool) : List Char → Option (Value × List Char)
  | [] => none
  | first :: text =>
      if first = '0' then
        match text with
        | [] => some (ofInteger negative 0, [])
        | c :: rest =>
            if c.isDigit then
              none
            else if c = '.' then
              readFraction? negative 0 0 rest
            else if c = 'e' ∨ c = 'E' then
              finish? negative 0 0 (c :: rest)
            else
              some (ofInteger negative 0, c :: rest)
      else if first.isDigit then
        let (significand, _, rest) := takeDigits 0 0 (first :: text)
        let dropped := (rest.takeWhile Char.isDigit).length
        let rest := rest.dropWhile Char.isDigit
        match rest with
        | '.' :: fraction => readFraction? negative significand dropped fraction
        | _ =>
            if dropped ≠ 0 then
              finish? negative significand dropped rest
            else
              match rest with
              | [] => some (ofInteger negative significand, [])
              | c :: after =>
                  if c = 'e' ∨ c = 'E' then
                    finish? negative significand 0 (c :: after)
                  else
                    some (ofInteger negative significand, c :: after)
      else
        none

/-- A number at the front of a text, and what follows it. -/
def readNumber? : List Char → Option (Value × List Char)
  | '-' :: rest => readUnsigned? true rest
  | text => readUnsigned? false text

end Json
end FuzzIntake
