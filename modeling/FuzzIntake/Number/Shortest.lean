import FuzzIntake.Number.Double

/-!
# The shortest decimal of a double

`shortest` finds the fewest decimal digits that read back as the same double
and, among those, the digits nearest to its exact value.  The decimals that read
back are those between the midpoints to the two neighbouring ranks; a midpoint
itself belongs to the even rank.
-/

namespace FuzzIntake

/-- The decimal `digits · 10 ^ exponent`. -/
structure Decimal where
  /-- The digits, read as one number. -/
  digits : Nat
  /-- The power of ten of the last digit. -/
  exponent : Int
deriving DecidableEq, Repr

/-- Which of two equally near decimals is written. -/
inductive Decimal.Tie
  | up
  | even
deriving DecidableEq, Repr

namespace Double

/-- Whether `digits · 10 ^ exponent` reads back as the magnitude of `rank`. -/
def readsAs (rank : Nat) (decimal : Decimal) : Bool :=
  let low := scaled (rank - 1) + scaled rank
  let high := scaled rank + scaled (rank + 1)
  let (value, scale) :=
    if 0 ≤ decimal.exponent then
      (2 * decimal.digits * Nat.pow 10 decimal.exponent.toNat * unit, 1)
    else
      (2 * decimal.digits * unit, Nat.pow 10 (-decimal.exponent).toNat)
  if rank % 2 = 0 then
    low * scale ≤ value && value ≤ high * scale
  else
    low * scale < value && value < high * scale

/-- The magnitude of `rank` as a ratio in units of `10 ^ exponent`. -/
def ratioAt (rank : Nat) (exponent : Int) : Nat × Nat :=
  if 0 ≤ exponent then
    (scaled rank, unit * Nat.pow 10 exponent.toNat)
  else
    (scaled rank * Nat.pow 10 (-exponent).toNat, unit)

/-- The decimal of `count` digits or fewer around the magnitude of `rank` that reads back. -/
def withDigits? (tie : Decimal.Tie) (rank : Nat) (leading : Int) (count : Nat) :
    Option Decimal :=
  let exponent := leading - count + 1
  let (numerator, denominator) := ratioAt rank exponent
  let below := numerator / denominator
  let rest := 2 * (numerator % denominator)
  let belowReads := readsAs rank ⟨below, exponent⟩
  let aboveReads := readsAs rank ⟨below + 1, exponent⟩
  let aboveNearer := denominator < rest ||
    (denominator == rest && match tie with | .up => true | .even => below % 2 == 1)
  if belowReads && aboveReads then
    some ⟨if aboveNearer then below + 1 else below, exponent⟩
  else if belowReads then
    some ⟨below, exponent⟩
  else if aboveReads then
    some ⟨below + 1, exponent⟩
  else
    none

/-- The power of ten of the leading digit of a positive magnitude. -/
def leadingExponent (rank : Nat) : Int :=
  let (numerator, denominator) := ratioAt rank (-330)
  ((Nat.toDigits 10 (numerator / denominator)).length : Int) - 331

/-- The shortest decimal that reads back as the magnitude of `rank`. -/
def shortest (tie : Decimal.Tie) (rank : Nat) : Decimal :=
  let leading := leadingExponent rank
  let found := (List.range 17).findSome? fun index =>
    withDigits? tie rank leading (index + 1)
  match found with
  | some decimal =>
      if decimal.digits = 10 then ⟨1, decimal.exponent + 1⟩ else decimal
  | none => ⟨0, 0⟩

end Double
end FuzzIntake
