import FuzzIntake.Number.Shortest
import FuzzIntake.Number.Reading
import Mathlib.Order.Monotone.Basic
import Mathlib.Algebra.Order.Field.Basic
import Mathlib.Data.Rat.Cast.Order
import Mathlib.Tactic.Linarith
import Mathlib.Tactic.Ring
import Mathlib.Tactic.FieldSimp
import Mathlib.Tactic.Positivity

/-!
# Rounding to the nearest rank

A rank is a step and a significand: `scaled` of it is the significand times a power of two,
and grows with the rank.  `nearestRank` compares a ratio with the midpoint between two
neighbouring ranks.  `RoundsTo` says the same of a rational number in units of the least
magnitude, and is what the shortest decimal and the reader of decimals are compared by.
-/

namespace FuzzIntake
namespace Double

theorem pow_fraction : Nat.pow 2 52 = 4503599627370496 := rfl

theorem scaled_significand
    {step significand : Nat}
    (normal : step = 0 ∨ Nat.pow 2 52 ≤ significand)
    (bounded : significand ≤ 2 * Nat.pow 2 52) :
    scaled (step * Nat.pow 2 52 + significand) = significand * 2 ^ step := by
  simp only [scaled, Nat.pow_eq, Nat.reducePow] at normal bounded ⊢
  split
  · next small =>
    obtain rfl : step = 0 := by omega
    omega
  · next large =>
    by_cases top : significand = 9007199254740992
    · subst top
      have place : (step * 4503599627370496 + 9007199254740992) / 4503599627370496 - 1 =
          step + 1 := by omega
      have offset : (step * 4503599627370496 + 9007199254740992) % 4503599627370496 = 0 := by omega
      rw [place, offset, pow_succ]
      omega
    · have place : (step * 4503599627370496 + significand) / 4503599627370496 - 1 = step := by
        omega
      have offset : 4503599627370496 + (step * 4503599627370496 + significand) % 4503599627370496 =
          significand := by omega
      rw [place, offset]

theorem exists_significand (rank : Nat) :
    ∃ step significand, rank = step * Nat.pow 2 52 + significand ∧
      (step = 0 ∨ Nat.pow 2 52 ≤ significand) ∧ significand < 2 * Nat.pow 2 52 := by
  rw [pow_fraction]
  by_cases small : rank < 4503599627370496
  · exact ⟨0, rank, by omega, .inl rfl, by omega⟩
  · exact ⟨rank / 4503599627370496 - 1, 4503599627370496 + rank % 4503599627370496, by omega,
      .inr (by omega), by omega⟩

theorem scaled_lt_succ (rank : Nat) : scaled rank < scaled (rank + 1) := by
  obtain ⟨step, significand, rfl, normal, bounded⟩ := exists_significand rank
  have next : step = 0 ∨ Nat.pow 2 52 ≤ significand + 1 := normal.imp_right Nat.le_succ_of_le
  rw [scaled_significand normal bounded.le, Nat.add_assoc, scaled_significand next bounded]
  exact Nat.mul_lt_mul_of_pos_right (Nat.lt_succ_self _) (by positivity)

theorem strictMono_scaled : StrictMono scaled :=
  strictMono_nat_of_lt_succ scaled_lt_succ

/-- The leading 53 bits of a number, or all of a number with fewer. -/
theorem leading_bits (whole : Nat) :
    whole / 2 ^ (whole.log2 - 52) < 2 * Nat.pow 2 52 ∧
      (whole.log2 - 52 = 0 ∨ Nat.pow 2 52 ≤ whole / 2 ^ (whole.log2 - 52)) := by
  constructor
  · rw [Nat.div_lt_iff_lt_mul (by positivity)]
    calc whole < 2 ^ (whole.log2 + 1) := Nat.lt_log2_self
      _ ≤ 2 ^ (53 + (whole.log2 - 52)) := Nat.pow_le_pow_right (by decide) (by omega)
      _ = 2 * Nat.pow 2 52 * 2 ^ (whole.log2 - 52) := by rw [pow_add]; rfl
  · by_cases least : whole.log2 - 52 = 0
    · exact .inl least
    · right
      have large : whole ≠ 0 := by
        rintro rfl
        exact least rfl
      rw [Nat.le_div_iff_mul_le (by positivity)]
      calc Nat.pow 2 52 * 2 ^ (whole.log2 - 52) = 2 ^ (52 + (whole.log2 - 52)) := by
            rw [pow_add]; rfl
        _ = 2 ^ whole.log2 := by congr 1; omega
        _ ≤ whole := Nat.log2_self_le large

/-- A ratio lies between two neighbouring ranks, and the midpoint decides between them. -/
theorem nearestRank_cases (numerator : Nat) {denominator : Nat} (positive : 0 < denominator) :
    ∃ below, scaled below * denominator ≤ numerator ∧
      numerator < scaled (below + 1) * denominator ∧
      nearestRank numerator denominator =
        if (scaled below + scaled (below + 1)) * denominator < 2 * numerator ∨
            ((scaled below + scaled (below + 1)) * denominator = 2 * numerator ∧ below % 2 = 1) then
          below + 1
        else
          below := by
  let step := (numerator / denominator).log2 - 52
  let gap := denominator * 2 ^ step
  let significand := numerator / gap
  have gapPositive : 0 < gap := by positivity
  have quotient : significand = numerator / denominator / 2 ^ step :=
    (Nat.div_div_eq_div_mul _ _ _).symm
  obtain ⟨bounded, normal⟩ := leading_bits (numerator / denominator)
  rw [← quotient] at bounded normal
  have next : step = 0 ∨ Nat.pow 2 52 ≤ significand + 1 := normal.imp_right Nat.le_succ_of_le
  have below := scaled_significand normal bounded.le
  have above := scaled_significand next bounded
  have split : gap * significand + numerator % gap = numerator := Nat.div_add_mod _ _
  have small : numerator % gap < gap := Nat.mod_lt _ gapPositive
  refine ⟨step * Nat.pow 2 52 + significand, ?_, ?_, ?_⟩
  · rw [below]
    calc significand * 2 ^ step * denominator = gap * significand := by ring
      _ ≤ numerator := by omega
  · rw [Nat.add_assoc, above]
    calc numerator < gap * significand + gap := by omega
      _ = (significand + 1) * 2 ^ step * denominator := by ring
  · have middle : (scaled (step * Nat.pow 2 52 + significand) +
        scaled (step * Nat.pow 2 52 + significand + 1)) * denominator =
          2 * (gap * significand) + gap := by
      rw [Nat.add_assoc, below, above]
      ring
    rw [middle, nearestRank]
    change (if gap < 2 * (numerator % gap) ∨ (gap = 2 * (numerator % gap) ∧
      (step * Nat.pow 2 52 + significand) % 2 = 1) then _ else _) = _
    congr 1
    apply propext
    constructor <;> intro side <;> omega

/-- Whether a magnitude, counted in least units, is rounded to a rank: it lies between the
midpoints to the neighbouring ranks, and a midpoint belongs to the even rank. -/
def RoundsTo (rank : Nat) (units : ℚ) : Prop :=
  let low : ℚ := scaled (rank - 1) + scaled rank
  let high : ℚ := scaled rank + scaled (rank + 1)
  if rank % 2 = 0 then low ≤ 2 * units ∧ 2 * units ≤ high else low < 2 * units ∧ 2 * units < high

theorem RoundsTo.low_le {rank : Nat} {units : ℚ} (rounds : RoundsTo rank units) :
    (scaled (rank - 1) + scaled rank : ℚ) ≤ 2 * units := by
  rw [RoundsTo] at rounds
  split at rounds
  · exact rounds.1
  · exact rounds.1.le

theorem RoundsTo.le_high {rank : Nat} {units : ℚ} (rounds : RoundsTo rank units) :
    2 * units ≤ (scaled rank + scaled (rank + 1) : ℚ) := by
  rw [RoundsTo] at rounds
  split at rounds
  · exact rounds.2
  · exact rounds.2.le

/-- The nearest rank is the one that a ratio is rounded to. -/
theorem nearestRank_eq_of_roundsTo
    {numerator denominator rank : Nat}
    (positive : 0 < denominator)
    (nonzero : 0 < rank)
    (rounds : RoundsTo rank (numerator / denominator)) :
    nearestRank numerator denominator = rank := by
  obtain ⟨below, lower, upper, nearest⟩ := nearestRank_cases numerator positive
  have positiveQ : (0 : ℚ) < denominator := by exact_mod_cast positive
  have lowEnd : (scaled (rank - 1) + scaled rank) * denominator ≤ 2 * numerator := by
    have bound := rounds.low_le
    rw [← mul_div_assoc, le_div_iff₀ positiveQ] at bound
    exact_mod_cast bound
  have highEnd : 2 * numerator ≤ (scaled rank + scaled (rank + 1)) * denominator := by
    have bound := rounds.le_high
    rw [← mul_div_assoc, div_le_iff₀ positiveQ] at bound
    exact_mod_cast bound
  have pred : scaled (rank - 1) < scaled rank := strictMono_scaled (by omega)
  have succ : scaled rank < scaled (rank + 1) := scaled_lt_succ rank
  have atLeast : rank - 1 < below + 1 := by
    rw [← strictMono_scaled.lt_iff_lt]
    by_contra least
    nlinarith
  have atMost : below < rank + 1 := by
    rw [← strictMono_scaled.lt_iff_lt]
    by_contra most
    nlinarith
  rw [nearest]
  have odd : rank % 2 ≠ 0 →
      (scaled (rank - 1) + scaled rank) * denominator < 2 * numerator ∧
        2 * numerator < (scaled rank + scaled (rank + 1)) * denominator := by
    intro odd
    rw [RoundsTo, if_neg odd, ← mul_div_assoc, lt_div_iff₀ positiveQ,
      div_lt_iff₀ positiveQ] at rounds
    exact_mod_cast rounds
  rcases (show below = rank ∨ below + 1 = rank by omega) with same | before
  · subst same
    rw [if_neg]
    rintro (past | ⟨tie, isOdd⟩)
    · omega
    · have strict := (odd (by omega)).2
      omega
  · subst before
    rw [Nat.add_sub_cancel] at lowEnd odd
    rw [if_pos]
    by_cases tie : (scaled below + scaled (below + 1)) * denominator = 2 * numerator
    · refine .inr ⟨tie, ?_⟩
      by_contra even
      have strict := (odd (by omega)).1
      omega
    · exact .inl (by omega)

end Double
end FuzzIntake
