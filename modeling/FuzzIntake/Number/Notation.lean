import FuzzIntake.Number.Shortest

/-!
# Writing doubles

Plain notation writes the shortest decimal without an exponent and without a
point when nothing follows it.  Scientific notation writes one digit before the
point and a signed exponent.
-/

namespace FuzzIntake

namespace Decimal

/-- The decimal digits without leading zeros. -/
def text (decimal : Decimal) : List Char :=
  Nat.toDigits 10 decimal.digits

/-- The power of ten of the leading digit. -/
def leading (decimal : Decimal) : Int :=
  decimal.text.length - 1 + decimal.exponent

/-- The digits before and after the decimal point. -/
def positional (decimal : Decimal) : List Char × List Char :=
  if 0 ≤ decimal.exponent then
    (decimal.text ++ List.replicate decimal.exponent.toNat '0', [])
  else
    let places := (-decimal.exponent).toNat
    let whole := decimal.text.length - places
    if places < decimal.text.length then
      (decimal.text.take whole, decimal.text.drop whole)
    else
      (['0'], List.replicate (places - decimal.text.length) '0' ++ decimal.text)

/-- One digit, the remaining digits behind a point, and the signed exponent. -/
def scientific (decimal : Decimal) : List Char :=
  let fraction :=
    match decimal.text with
    | [] => []
    | [d] => [d]
    | d :: rest => d :: '.' :: rest
  let sign := if decimal.leading < 0 then '-' else '+'
  fraction ++ 'e' :: sign :: Nat.toDigits 10 decimal.leading.natAbs

end Decimal

namespace Double

/-- Put a minus sign in front of a negative number. -/
def signed (negative : Bool) (magnitude : List Char) : List Char :=
  if negative then '-' :: magnitude else magnitude

/-- Plain notation: the shortest decimal, never an exponent, no point for whole numbers. -/
def plain : Double → List Char
  | .nan => "NaN".toList
  | .infinite negative => signed negative "inf".toList
  | .finite negative rank =>
      if rank.val = 0 then
        signed negative ['0']
      else
        let (whole, fraction) := (shortest .up rank).positional
        signed negative (if fraction.isEmpty then whole else whole ++ '.' :: fraction)

end Double
end FuzzIntake
