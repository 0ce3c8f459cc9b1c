import FuzzIntake.Span
import FuzzIntake.Proofs.Number.Shortest

/-!
# Seconds as spans

A double becomes a span exactly if its value is a number of seconds from zero to `2 ^ 64`, and
then the span is the one with the nearest whole nanoseconds; of two that are equally near it is
the one with an even number of them.
-/

namespace FuzzIntake

/-- The exact value of a finite double. -/
def Double.value? : Double → Option ℚ
  | .finite negative rank =>
      some (if negative then -(scaled rank / unit) else scaled rank / unit)
  | .infinite _ => none
  | .nan => none

namespace Span

/-- A span is nearest to a number of seconds, and even where another one is as near. -/
structure IsNearest (seconds : ℚ) (span : Span) : Prop where
  near : |(span.nanos : ℚ) - seconds * nanosPerSecond| ≤ 1 / 2
  even : |(span.nanos : ℚ) - seconds * nanosPerSecond| = 1 / 2 → span.nanos % 2 = 0

/-- A span is what a double becomes: the double is a number of seconds in range, and the span is
nearest to it. -/
def Measures (span : Span) (x : Double) : Prop :=
  ∃ seconds, x.value? = some seconds ∧ 0 ≤ seconds ∧ seconds < 2 ^ 64 ∧ span.IsNearest seconds

variable {seconds : ℚ} {span other : Span}

/-- Only one span is nearest to a number of seconds: two spans next to each other would both be half
a nanosecond away, and both even. -/
theorem IsNearest.unique
    (nearest : span.IsNearest seconds)
    (again : other.IsNearest seconds) :
    span = other := by
  have near := abs_le.mp nearest.near
  have nearAgain := abs_le.mp again.near
  have below : span.nanos ≤ other.nanos + 1 := by
    have bound : (span.nanos : ℚ) ≤ other.nanos + 1 := by linarith
    exact_mod_cast bound
  have above : other.nanos ≤ span.nanos + 1 := by
    have bound : (other.nanos : ℚ) ≤ span.nanos + 1 := by linarith
    exact_mod_cast bound
  have parity : ∀ low high : Span, low.IsNearest seconds → high.IsNearest seconds →
      high.nanos ≠ low.nanos + 1 := by
    intro low high nearLow nearHigh next
    have lower := abs_le.mp nearLow.near
    have upper := abs_le.mp nearHigh.near
    have cast : (high.nanos : ℚ) = low.nanos + 1 := by exact_mod_cast next
    have evenLow := nearLow.even (by
      rw [abs_of_nonpos (by linarith)]
      linarith)
    have evenHigh := nearHigh.even (by
      rw [abs_of_nonneg (by linarith)]
      linarith)
    omega
  have apart := parity span other nearest again
  have apartAgain := parity other span again nearest
  have same : span.nanos = other.nanos := by omega
  cases span
  cases other
  exact congrArg Span.mk same

/-- A rounded quotient is nearest to the quotient, and even where another number is as near. -/
theorem roundQuotient_nearest (numerator : ℕ) {denominator : ℕ} (positive : 0 < denominator) :
    |(roundQuotient numerator denominator : ℚ) - numerator / denominator| ≤ 1 / 2 ∧
      (|(roundQuotient numerator denominator : ℚ) - numerator / denominator| = 1 / 2 →
        roundQuotient numerator denominator % 2 = 0) := by
  have positiveQ : (0 : ℚ) < denominator := by exact_mod_cast positive
  rw [roundQuotient]
  generalize quotient : numerator / denominator = below
  generalize remainder : numerator % denominator = rest
  have whole : (numerator : ℚ) = denominator * below + rest := by
    rw [← quotient, ← remainder]
    exact_mod_cast (Nat.div_add_mod numerator denominator).symm
  have split : (numerator : ℚ) / denominator = below + rest / denominator := by
    rw [whole]
    field_simp
  have small : (rest : ℚ) / denominator < 1 := by
    rw [div_lt_one positiveQ, ← remainder]
    exact_mod_cast Nat.mod_lt numerator positive
  have atMostHalf : (rest : ℚ) / denominator ≤ 1 / 2 ↔ 2 * rest ≤ denominator := by
    rw [div_le_iff₀ positiveQ]
    constructor
    · intro bound
      have cast : (2 * rest : ℚ) ≤ denominator := by linarith
      exact_mod_cast cast
    · intro bound
      have cast : (2 * rest : ℚ) ≤ denominator := by exact_mod_cast bound
      linarith
  have atLeastHalf : 1 / 2 ≤ (rest : ℚ) / denominator ↔ denominator ≤ 2 * rest := by
    rw [le_div_iff₀ positiveQ]
    constructor
    · intro bound
      have cast : (denominator : ℚ) ≤ 2 * rest := by linarith
      exact_mod_cast cast
    · intro bound
      have cast : (denominator : ℚ) ≤ 2 * rest := by exact_mod_cast bound
      linarith
  have nonneg : 0 ≤ (rest : ℚ) / denominator := by positivity
  rw [split]
  split
  · next up =>
    have distance : ((below + 1 : ℕ) : ℚ) - (below + rest / denominator) =
        1 - rest / denominator := by
      push_cast
      ring
    rw [distance, abs_of_nonneg (by linarith)]
    refine ⟨?_, fun tie => ?_⟩
    · linarith [atLeastHalf.mpr (by omega)]
    · have least := atMostHalf.mp (by linarith)
      omega
  · next down =>
    have distance : (below : ℚ) - (below + rest / denominator) = -(rest / denominator) := by
      ring
    rw [distance, abs_neg, abs_of_nonneg nonneg]
    refine ⟨atMostHalf.mpr (by omega), fun tie => ?_⟩
    have least := atLeastHalf.mp tie.ge
    omega

/-- Rounding a number of nanoseconds gives the span nearest to the seconds. -/
theorem isNearest_roundQuotient (numerator : ℕ) {denominator : ℕ} (positive : 0 < denominator) :
    IsNearest (numerator / denominator)
      ⟨roundQuotient (numerator * nanosPerSecond) denominator⟩ := by
  have nearest := roundQuotient_nearest (numerator * nanosPerSecond) positive
  rw [Nat.cast_mul, mul_div_right_comm] at nearest
  exact ⟨nearest.1, nearest.2⟩

/-- The magnitude of a rank is in range exactly if it is less than `2 ^ 64` seconds. -/
theorem lt_size_iff (rank : ℕ) :
    (Double.scaled rank / Double.unit : ℚ) < 2 ^ 64 ↔
      Double.scaled rank < UInt64.size * Double.unit := by
  have positive : (0 : ℚ) < Double.unit := by exact_mod_cast Double.unit_pos
  have size : (UInt64.size : ℚ) = 2 ^ 64 := by norm_num [UInt64.size]
  rw [div_lt_iff₀ positive, ← size]
  exact_mod_cast Iff.rfl

/-- A double that is not below zero has its magnitude as its value. -/
theorem value?_of_not_below
    {negative : Bool}
    {rank : Fin Double.ranks}
    (notBelow : ¬ (negative = true ∧ rank.val ≠ 0)) :
    (Double.finite negative rank).value? = some (Double.scaled rank / Double.unit : ℚ) := by
  cases negative with
  | false => rfl
  | true =>
      have zero : rank.val = 0 := by simpa using notBelow
      have nothing : Double.scaled rank = 0 := by
        rw [zero]
        decide
      rw [Double.value?, nothing, if_pos rfl, Nat.cast_zero, zero_div, neg_zero]

/-- A negative double that is not zero has a value below zero. -/
theorem value_neg {rank : ℕ} (nonzero : rank ≠ 0) :
    -(Double.scaled rank / Double.unit : ℚ) < 0 := by
  have positive : (0 : ℚ) < Double.unit := by exact_mod_cast Double.unit_pos
  have magnitude : Double.scaled 0 < Double.scaled rank :=
    Double.strictMono_scaled (Nat.pos_of_ne_zero nonzero)
  have cast : (0 : ℚ) < Double.scaled rank := by exact_mod_cast magnitude
  rw [neg_lt_zero]
  exact div_pos cast positive

/-- A double becomes a span exactly if the span measures it. -/
theorem ofDouble_eq_ok_iff {x : Double} : ofDouble x = .ok span ↔ span.Measures x := by
  cases x with
  | nan => simp [ofDouble, Measures, Double.value?]
  | infinite negative => simp [ofDouble, Measures, Double.value?]
  | finite negative rank =>
      rw [ofDouble, Measures]
      split
      · next below =>
        obtain ⟨rfl, nonzero⟩ := below
        refine iff_of_false nofun ?_
        rintro ⟨seconds, value, nonneg, -⟩
        obtain rfl : -(Double.scaled rank / Double.unit : ℚ) = seconds := Option.some.inj value
        exact absurd nonneg (not_le.mpr (value_neg nonzero))
      · next notBelow =>
        rw [value?_of_not_below notBelow]
        split
        · next tooBig =>
          refine iff_of_false nofun ?_
          rintro ⟨seconds, value, -, inRange, -⟩
          obtain rfl := Option.some.inj value
          exact absurd ((lt_size_iff rank).mp inRange) (not_lt.mpr tooBig)
        · next inRange =>
          have nearest := isNearest_roundQuotient (Double.scaled rank) Double.unit_pos
          constructor
          · intro same
            obtain rfl := Except.ok.inj same
            exact ⟨_, rfl, by positivity, (lt_size_iff rank).mpr (not_le.mp inRange), nearest⟩
          · rintro ⟨seconds, value, -, -, again⟩
            obtain rfl := Option.some.inj value
            exact congrArg _ (nearest.unique again)

end Span
end FuzzIntake
