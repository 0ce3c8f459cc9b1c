/-!
# Reading whole numbers

A number is an optional sign and one or more ASCII digits.  Digits are taken
from the left, and the first one that is no digit or passes the limit decides
the fault, so a text with two faults names the earlier one.
-/

namespace FuzzIntake
namespace Integer

/-- Why a text is not a whole number of the wanted range. -/
inductive Fault
  | empty
  | invalidDigit
  | tooLarge
  | tooSmall
deriving DecidableEq, Repr

/-- The wording of a fault. -/
def Fault.message : Fault → String
  | .empty => "cannot parse integer from empty string"
  | .invalidDigit => "invalid digit found in string"
  | .tooLarge => "number too large to fit in target type"
  | .tooSmall => "number too small to fit in target type"

/-- The value of an ASCII digit. -/
def digit? (c : Char) : Option Nat :=
  if '0' ≤ c ∧ c ≤ '9' then some (c.toNat - 48) else none

/-- Extend `value` by the digits of a text, never passing `limit`. -/
def extend (limit : Nat) (passed : Fault) : (value : Nat) → List Char → Except Fault Nat
  | value, [] => .ok value
  | value, c :: rest =>
      match digit? c with
      | none => .error .invalidDigit
      | some d =>
          if 10 * value + d ≤ limit then
            extend limit passed (10 * value + d) rest
          else
            .error passed

/-- A number without a minus sign that is at most `limit`. -/
def readNat (limit : Nat) : List Char → Except Fault Nat
  | [] => .error .empty
  | ['+'] => .error .invalidDigit
  | '+' :: digits => extend limit .tooLarge 0 digits
  | digits => extend limit .tooLarge 0 digits

/-- A number in the range of signed 64-bit words. -/
def readInt64 : List Char → Except Fault Int64
  | ['-'] => .error .invalidDigit
  | '-' :: digits =>
      (extend (Nat.pow 2 63) .tooSmall 0 digits).map fun n => Int64.ofInt (-(n : Int))
  | text => (readNat (Nat.pow 2 63 - 1) text).map fun n => Int64.ofInt n

/-- The decimal digits of a natural number. -/
def writeNat (n : Nat) : List Char :=
  Nat.toDigits 10 n

/-- The decimal digits of an integer, after a minus sign if it is negative. -/
def writeInt (n : Int) : List Char :=
  if n < 0 then '-' :: writeNat n.natAbs else writeNat n.natAbs

end Integer
end FuzzIntake
