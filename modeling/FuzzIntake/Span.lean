import FuzzIntake.Number.Double

/-!
# Spans of time

A span counts whole nanoseconds.  A number of seconds becomes the span nearest
to its exact value, a tie going to the even nanosecond.
-/

namespace FuzzIntake

/-- A length of time in nanoseconds. -/
structure Span where
  /-- The whole nanoseconds of the span. -/
  nanos : Nat
deriving DecidableEq, Repr

namespace Span

/-- The nanoseconds in a second. -/
def nanosPerSecond : Nat :=
  1000000000

/-- A span of whole milliseconds. -/
def ofMillis (millis : Nat) : Span :=
  ⟨millis * 1000000⟩

/-- A span of whole seconds. -/
def ofSeconds (seconds : Nat) : Span :=
  ⟨seconds * nanosPerSecond⟩

/-- The whole seconds of a span. -/
def seconds (span : Span) : Nat :=
  span.nanos / nanosPerSecond

/-- The nanoseconds past the whole seconds. -/
def subsecond (span : Span) : Nat :=
  span.nanos % nanosPerSecond

/-- The whole milliseconds of a span. -/
def millis (span : Span) : Nat :=
  span.nanos / 1000000

/-- Why a number of seconds is no span. -/
inductive Fault
  | negative
  | tooBigOrNaN
deriving DecidableEq, Repr

/-- The wording of a fault. -/
def Fault.message : Fault → String
  | .negative => "cannot convert float seconds to Duration: value is negative"
  | .tooBigOrNaN =>
      "cannot convert float seconds to Duration: value is either too big or NaN"

/-- The quotient rounded to the nearest natural number, a tie going to the even one. -/
def roundQuotient (numerator denominator : Nat) : Nat :=
  let below := numerator / denominator
  let rest := 2 * (numerator % denominator)
  if denominator < rest ∨ (denominator = rest ∧ below % 2 = 1) then below + 1 else below

/-- The span nearest to a number of seconds in `[0, 2 ^ 64)`. -/
def ofDouble : Double → Except Fault Span
  | .nan => .error .tooBigOrNaN
  | .infinite negative => .error (if negative then .negative else .tooBigOrNaN)
  | .finite negative rank =>
      let magnitude := Double.scaled rank
      if negative ∧ rank.val ≠ 0 then
        .error .negative
      else if UInt64.size * Double.unit ≤ magnitude then
        .error .tooBigOrNaN
      else
        .ok ⟨roundQuotient (magnitude * nanosPerSecond) Double.unit⟩

end Span
end FuzzIntake
