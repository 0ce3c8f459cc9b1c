/-!
# Double-precision numbers

A finite double is a sign and a rank: the place of its magnitude in the
ascending list of all finite magnitudes, which starts with zero.  Magnitudes are
whole multiples of the least positive one, `2 ^ -1074`, so every operation is
exact arithmetic on natural numbers followed by one rounding to the nearest
rank.
-/

namespace FuzzIntake

/-- The number of finite magnitudes. -/
abbrev Double.ranks : Nat :=
  2047 * Nat.pow 2 52

/-- A double-precision number; all not-a-number values count as one. -/
inductive Double
  | finite (negative : Bool) (rank : Fin Double.ranks)
  | infinite (negative : Bool)
  | nan
deriving DecidableEq, Repr

namespace Double

/-- The number of least units in one. -/
def unit : Nat :=
  Nat.pow 2 1074

/-- The magnitude of a rank in least units; it is strictly increasing. -/
def scaled (rank : Nat) : Nat :=
  if rank < Nat.pow 2 52 then
    rank
  else
    (Nat.pow 2 52 + rank % Nat.pow 2 52) * Nat.pow 2 (rank / Nat.pow 2 52 - 1)

/-- The rank nearest to `numerator / denominator` least units; a tie goes to the even rank. -/
def nearestRank (numerator denominator : Nat) : Nat :=
  let step := (numerator / denominator).log2 - 52
  let gap := denominator * Nat.pow 2 step
  let rank := step * Nat.pow 2 52 + numerator / gap
  let rest := 2 * (numerator % gap)
  if gap < rest ∨ (gap = rest ∧ rank % 2 = 1) then rank + 1 else rank

/-- The double of a rank, infinite when the rank lies past the finite ones. -/
def ofRank (negative : Bool) (rank : Nat) : Double :=
  if inside : rank < ranks then .finite negative ⟨rank, inside⟩ else .infinite negative

/-- The double nearest to plus or minus `numerator / denominator`. -/
def ofRatio (negative : Bool) (numerator denominator : Nat) : Double :=
  ofRank negative (nearestRank (numerator * unit) denominator)

/-- The double nearest to a natural number. -/
def ofNat (n : Nat) : Double :=
  ofRatio false n 1

/-- The double nearest to an integer. -/
def ofInt (n : Int) : Double :=
  ofRatio (decide (n < 0)) n.natAbs 1

/-- Positive zero. -/
def zero : Double :=
  .finite false 0

/-- Neither infinite nor not-a-number. -/
def isFinite : Double → Bool
  | .finite _ _ => true
  | _ => false

end Double
end FuzzIntake
