import FuzzIntake.Proofs.Number.Rounding

/-!
# The shortest decimal is rounded to its double

Seventeen digits from the leading one are enough: the grid of the seventeenth digit is finer
than the distance between the midpoints around a rank, so one of the two decimals next to the
magnitude is rounded to it.  The search over fewer digits therefore finds a decimal, and what
it finds is rounded to the rank it was found for.
-/

namespace FuzzIntake

/-- The number that a decimal denotes. -/
def Decimal.value (decimal : Decimal) : ℚ :=
  decimal.digits * 10 ^ decimal.exponent

theorem Decimal.value_mk (digits : Nat) (exponent : Int) :
    Decimal.value ⟨digits, exponent⟩ = digits * 10 ^ exponent := rfl

namespace Double

theorem unit_pos : 0 < unit := by
  decide +kernel

theorem ten_zpow_pos (exponent : Int) : (0 : ℚ) < 10 ^ exponent := zpow_pos (by norm_num) exponent

theorem ten_zpow_of_nonneg {exponent : Int} (nonneg : 0 ≤ exponent) :
    (10 : ℚ) ^ exponent = ((10 ^ exponent.toNat : Nat) : ℚ) := by
  obtain ⟨n, rfl⟩ := Int.eq_ofNat_of_zero_le nonneg
  simp

theorem ten_zpow_of_neg {exponent : Int} (negative : ¬ 0 ≤ exponent) :
    (10 : ℚ) ^ exponent = 1 / ((10 ^ (-exponent).toNat : Nat) : ℚ) := by
  obtain ⟨places, magnitude⟩ := Int.eq_ofNat_of_zero_le (show 0 ≤ -exponent by omega)
  obtain rfl : exponent = -(places : Int) := by omega
  simp

/-- Whether a decimal reads back is whether its value is rounded to the rank. -/
theorem readsAs_iff (rank : Nat) (decimal : Decimal) :
    readsAs rank decimal = true ↔ RoundsTo rank (decimal.value * unit) := by
  by_cases sign : 0 ≤ decimal.exponent
  · have value : 2 * (decimal.value * unit) =
        ((2 * decimal.digits * Nat.pow 10 decimal.exponent.toNat * unit : Nat) : ℚ) := by
      rw [Decimal.value, ten_zpow_of_nonneg sign, Nat.pow_eq]
      push_cast
      ring
    simp only [readsAs, RoundsTo, value, if_pos sign]
    split
    · simp only [Bool.and_eq_true, decide_eq_true_eq, Nat.mul_one]
      norm_cast
    · simp only [Bool.and_eq_true, decide_eq_true_eq, Nat.mul_one]
      norm_cast
  · have positive : (0 : ℚ) < (Nat.pow 10 (-decimal.exponent).toNat : Nat) := by
      exact_mod_cast Nat.pow_pos (by decide)
    have value : 2 * (decimal.value * unit) =
        ((2 * decimal.digits * unit : Nat) : ℚ) / (Nat.pow 10 (-decimal.exponent).toNat : Nat) := by
      rw [Decimal.value, ten_zpow_of_neg sign]
      push_cast
      rw [Nat.pow_eq]
      push_cast
      ring
    simp only [readsAs, RoundsTo, value, if_neg sign]
    split
    · simp only [Bool.and_eq_true, decide_eq_true_eq]
      rw [le_div_iff₀ positive, div_le_iff₀ positive]
      norm_cast
    · simp only [Bool.and_eq_true, decide_eq_true_eq]
      rw [lt_div_iff₀ positive, div_lt_iff₀ positive]
      norm_cast

/-- A magnitude in least units. -/
theorem ratioAt_eq (rank : Nat) (exponent : Int) :
    0 < (ratioAt rank exponent).2 ∧
      ((ratioAt rank exponent).1 : ℚ) / (ratioAt rank exponent).2 =
        scaled rank / (unit * 10 ^ exponent) := by
  rw [ratioAt]
  split
  · next sign =>
    rw [ten_zpow_of_nonneg sign, Nat.pow_eq]
    dsimp only
    have positive := unit_pos
    refine ⟨by positivity, ?_⟩
    push_cast
    rfl
  · next sign =>
    dsimp only
    refine ⟨unit_pos, ?_⟩
    have positive : (0 : ℚ) < (10 ^ (-exponent).toNat : Nat) := by positivity
    rw [ten_zpow_of_neg sign, Nat.pow_eq]
    push_cast at positive ⊢
    generalize (Nat.cast unit : ℚ) = grain
    field_simp

/-- The grid of a power of ten around a magnitude. -/
theorem below_bracket (rank : Nat) (exponent : Int) :
    let below := (ratioAt rank exponent).1 / (ratioAt rank exponent).2
    Decimal.value ⟨below, exponent⟩ * unit ≤ scaled rank ∧
      (scaled rank : ℚ) < Decimal.value ⟨below + 1, exponent⟩ * unit := by
  intro below
  obtain ⟨positive, ratio⟩ := ratioAt_eq rank exponent
  have positiveQ : (0 : ℚ) < (ratioAt rank exponent).2 := by exact_mod_cast positive
  have unitPositive : (0 : ℚ) < unit := by exact_mod_cast unit_pos
  have grid : (0 : ℚ) < unit * 10 ^ exponent := mul_pos unitPositive (ten_zpow_pos exponent)
  have lower : (below : ℚ) ≤ scaled rank / (unit * 10 ^ exponent) := by
    rw [← ratio, le_div_iff₀ positiveQ]
    exact_mod_cast Nat.div_mul_le_self _ _
  have upper : scaled rank / (unit * 10 ^ exponent) < (below + 1 : ℚ) := by
    rw [← ratio, div_lt_iff₀ positiveQ]
    have bound := (Nat.div_lt_iff_lt_mul positive).mp (Nat.lt_succ_self below)
    exact_mod_cast bound
  rw [le_div_iff₀ grid] at lower
  rw [div_lt_iff₀ grid] at upper
  rw [Decimal.value_mk, Decimal.value_mk, Nat.cast_succ]
  constructor
  · calc (below : ℚ) * 10 ^ exponent * unit = below * (unit * 10 ^ exponent) := by ring
      _ ≤ scaled rank := lower
  · calc (scaled rank : ℚ) < (below + 1) * (unit * 10 ^ exponent) := upper
      _ = (below + 1) * 10 ^ exponent * unit := by ring

theorem pow_length_toDigits_le
    {number : Nat}
    (nonzero : 0 < number) :
    10 ^ ((Nat.toDigits 10 number).length - 1) ≤ number := by
  by_cases single : (Nat.toDigits 10 number).length - 1 = 0
  · rw [single]
    exact nonzero
  · by_contra short
    have fewer := (Nat.length_toDigits_le_iff (by decide) (Nat.pos_of_ne_zero single)).mpr
      (Nat.lt_of_not_le short)
    omega

theorem ten_zpow_neg_mul_unit_le_one
    (places : Nat)
    (enough : unit ≤ 10 ^ places) :
    (10 : ℚ) ^ (-places : Int) * unit ≤ 1 := by
  have bound : (unit : ℚ) ≤ 10 ^ places := by exact_mod_cast enough
  rw [zpow_neg, zpow_natCast, inv_mul_le_iff₀ (by positivity), mul_one]
  exact bound

/-- A positive magnitude has as many digits in front of a small enough power of ten as its whole
part in units of that power. -/
theorem ten_zpow_length_le
    {rank : Nat}
    (nonzero : 0 < rank)
    {least : Int}
    (small : (10 : ℚ) ^ least * unit ≤ 1) :
    (10 : ℚ) ^ ((Nat.toDigits 10
        ((ratioAt rank least).1 / (ratioAt rank least).2)).length - 1 + least) * unit ≤
      scaled rank := by
  obtain ⟨lower, upper⟩ := below_bracket rank least
  rw [Decimal.value_mk] at lower upper
  generalize (ratioAt rank least).1 / (ratioAt rank least).2 = whole at lower upper ⊢
  have atLeastOne : (1 : ℚ) ≤ scaled rank := by
    exact_mod_cast Nat.one_le_iff_ne_zero.mpr (strictMono_scaled nonzero).ne_bot
  have wholePositive : 0 < whole := by
    rw [Nat.pos_iff_ne_zero]
    rintro rfl
    rw [zero_add, Nat.cast_one, one_mul] at upper
    linarith
  have nonempty := Nat.length_toDigits_pos (b := 10) (n := whole)
  have few : ((10 ^ ((Nat.toDigits 10 whole).length - 1) : Nat) : ℚ) ≤ whole := by
    exact_mod_cast pow_length_toDigits_le wholePositive
  calc (10 : ℚ) ^ ((Nat.toDigits 10 whole).length - 1 + least) * unit =
        (10 ^ ((Nat.toDigits 10 whole).length - 1) : Nat) * 10 ^ least * unit := by
        rw [zpow_add₀ (by norm_num), Nat.cast_pow, ← zpow_natCast, Nat.cast_sub nonempty,
          Nat.cast_one, Nat.cast_ofNat]
    _ ≤ whole * 10 ^ least * unit :=
        mul_le_mul_of_nonneg_right
          (mul_le_mul_of_nonneg_right few (ten_zpow_pos least).le) (Nat.cast_nonneg unit)
    _ ≤ scaled rank := lower

theorem unit_le_ten_pow : unit ≤ 10 ^ 330 := by
  decide +kernel

/-- A positive magnitude has a leading digit at its leading exponent. -/
theorem leadingExponent_le
    {rank : Nat}
    (nonzero : 0 < rank) :
    (10 : ℚ) ^ leadingExponent rank * unit ≤ scaled rank := by
  have leading := ten_zpow_length_le nonzero (ten_zpow_neg_mul_unit_le_one 330 unit_le_ten_pow)
  rw [leadingExponent]
  convert leading using 3
  dsimp only
  rw [sub_add]
  norm_num

/-- The midpoints around a rank are far apart, also around a power of two, where the rank below is
twice as near. -/
theorem scaled_lt_mul_gap
    {rank : Nat}
    (nonzero : 0 < rank) :
    2 * scaled rank < 10 ^ 16 * (scaled (rank + 1) - scaled (rank - 1)) := by
  obtain ⟨step, significand, rfl, normal, bounded⟩ := exists_significand rank
  have next : step = 0 ∨ Nat.pow 2 52 ≤ significand + 1 := normal.imp_right Nat.le_succ_of_le
  rw [Nat.add_assoc, scaled_significand next bounded, scaled_significand normal bounded.le]
  have size := pow_fraction
  have power : 0 < 2 ^ step := by positivity
  by_cases inner : step = 0 ∨ Nat.pow 2 52 ≤ significand - 1
  · have one : 0 < significand := by
      rcases inner with rfl | large
      · omega
      · omega
    rw [show step * Nat.pow 2 52 + significand - 1 = step * Nat.pow 2 52 + (significand - 1) by
      omega, scaled_significand inner (by omega), ← Nat.sub_mul,
      show significand + 1 - (significand - 1) = 2 by omega]
    calc 2 * (significand * 2 ^ step) = (2 * significand) * 2 ^ step := by ring
      _ < (2 * 10 ^ 16) * 2 ^ step := Nat.mul_lt_mul_of_pos_right (by omega) power
      _ = 10 ^ 16 * (2 * 2 ^ step) := by ring
  · obtain ⟨high, low⟩ := not_or.mp inner
    obtain ⟨before, rfl⟩ := Nat.exists_eq_succ_of_ne_zero high
    obtain rfl : significand = Nat.pow 2 52 := by omega
    rw [show before.succ * Nat.pow 2 52 + Nat.pow 2 52 - 1 =
        before * Nat.pow 2 52 + (2 * Nat.pow 2 52 - 1) by rw [size]; omega,
      scaled_significand (.inr (by omega)) (by omega), Nat.pow_succ]
    rw [size] at *
    omega

/-- Around a positive magnitude some decimal of seventeen digits is rounded to it. -/
theorem roundsTo_seventeen
    {rank : Nat}
    (nonzero : 0 < rank) :
    let exponent := leadingExponent rank - 16
    let below := (ratioAt rank exponent).1 / (ratioAt rank exponent).2
    RoundsTo rank (Decimal.value ⟨below, exponent⟩ * unit) ∨
      RoundsTo rank (Decimal.value ⟨below + 1, exponent⟩ * unit) := by
  intro exponent below
  obtain ⟨lower, upper⟩ := below_bracket rank exponent
  have fine : (10 : ℚ) ^ exponent * unit * 10 ^ 16 ≤ scaled rank := by
    have leading := leadingExponent_le nonzero
    rw [show leadingExponent rank = exponent + 16 by omega, zpow_add₀ (by norm_num)] at leading
    calc (10 : ℚ) ^ exponent * unit * 10 ^ 16 = 10 ^ exponent * 10 ^ 16 * unit :=
          mul_right_comm _ _ _
      _ ≤ scaled rank := leading
  have apart : (2 * scaled rank : ℚ) < 10 ^ 16 * (scaled (rank + 1) - scaled (rank - 1)) := by
    have gap := scaled_lt_mul_gap nonzero
    have ordered : scaled (rank - 1) ≤ scaled (rank + 1) := strictMono_scaled.monotone (by omega)
    rw [← Nat.cast_sub ordered]
    exact_mod_cast gap
  have next : Decimal.value ⟨below + 1, exponent⟩ * unit =
      Decimal.value ⟨below, exponent⟩ * unit + 10 ^ exponent * unit := by
    rw [Decimal.value_mk, Decimal.value_mk, Nat.cast_succ]
    ring
  have before : (scaled (rank - 1) : ℚ) < scaled rank := by
    exact_mod_cast strictMono_scaled (Nat.sub_one_lt (by omega))
  have after : (scaled rank : ℚ) < scaled (rank + 1) := by
    exact_mod_cast scaled_lt_succ rank
  have strictly : ∀ units : ℚ, (scaled (rank - 1) + scaled rank : ℚ) < 2 * units →
      2 * units < (scaled rank + scaled (rank + 1) : ℚ) → RoundsTo rank units := by
    intro units low high
    rw [RoundsTo]
    split
    · exact ⟨low.le, high.le⟩
    · exact ⟨low, high⟩
  by_cases near : (scaled (rank - 1) + scaled rank : ℚ) <
      2 * (Decimal.value ⟨below, exponent⟩ * unit)
  · exact .inl (strictly _ near (by linarith))
  · refine .inr (strictly _ (by linarith) ?_)
    rw [next] at upper ⊢
    linarith

theorem readsAs_of_withDigits?
    {tie : Decimal.Tie}
    {rank : Nat}
    {leading : Int}
    {count : Nat}
    {decimal : Decimal}
    (found : withDigits? tie rank leading count = some decimal) :
    readsAs rank decimal = true := by
  simp only [withDigits?] at found
  generalize leading - count + 1 = exponent at found
  generalize (ratioAt rank exponent).1 / (ratioAt rank exponent).2 = below at found
  generalize low : readsAs rank ⟨below, exponent⟩ = belowReads at found
  generalize high : readsAs rank ⟨below + 1, exponent⟩ = aboveReads at found
  cases belowReads with
  | true =>
      cases aboveReads with
      | true =>
          have either : ∀ digits, digits = below + 1 ∨ digits = below →
              readsAs rank ⟨digits, exponent⟩ = true := by
            rintro digits (rfl | rfl)
            · exact high
            · exact low
          rw [← Option.some.inj found]
          exact either _ (ite_eq_or_eq _ _ _)
      | false =>
          obtain rfl := Option.some.inj found
          exact low
  | false =>
      cases aboveReads with
      | true =>
          obtain rfl := Option.some.inj found
          exact high
      | false => cases found

theorem isSome_withDigits?
    (tie : Decimal.Tie)
    {rank : Nat}
    {leading : Int}
    {count : Nat}
    (reads : readsAs rank ⟨(ratioAt rank (leading - count + 1)).1 /
          (ratioAt rank (leading - count + 1)).2, leading - count + 1⟩ = true ∨
        readsAs rank ⟨(ratioAt rank (leading - count + 1)).1 /
          (ratioAt rank (leading - count + 1)).2 + 1, leading - count + 1⟩ = true) :
    (withDigits? tie rank leading count).isSome = true := by
  simp only [withDigits?]
  generalize leading - count + 1 = exponent at reads ⊢
  generalize (ratioAt rank exponent).1 / (ratioAt rank exponent).2 = below at reads ⊢
  generalize readsAs rank ⟨below, exponent⟩ = belowReads at reads ⊢
  generalize readsAs rank ⟨below + 1, exponent⟩ = aboveReads at reads ⊢
  cases belowReads with
  | true =>
      cases aboveReads with
      | true => rfl
      | false => rfl
  | false =>
      cases aboveReads with
      | true => rfl
      | false => simp at reads

theorem shortest_def :
    shortest = fun tie rank =>
      let leading := leadingExponent rank
      let found := (List.range 17).findSome? fun index =>
        withDigits? tie rank leading (index + 1)
      match found with
      | some decimal =>
          if decimal.digits = 10 then ⟨1, decimal.exponent + 1⟩ else decimal
      | none => ⟨0, 0⟩ :=
  rfl

theorem shortest_eq
    {tie : Decimal.Tie}
    {rank : Nat}
    {decimal : Decimal}
    (found : ((List.range 17).findSome? fun index =>
      withDigits? tie rank (leadingExponent rank) (index + 1)) = some decimal) :
    shortest tie rank =
      if decimal.digits = 10 then ⟨1, decimal.exponent + 1⟩ else decimal := by
  rw [shortest_def]
  simp only [found]

/-- The shortest decimal of a positive magnitude is rounded to it. -/
theorem roundsTo_shortest
    (tie : Decimal.Tie)
    {rank : Nat}
    (nonzero : 0 < rank) :
    RoundsTo rank ((shortest tie rank).value * unit) := by
  have seventeen : (withDigits? tie rank (leadingExponent rank) (16 + 1)).isSome = true := by
    have reads := roundsTo_seventeen nonzero
    simp only [← readsAs_iff] at reads
    apply isSome_withDigits?
    rw [show leadingExponent rank - ((16 + 1 : Nat) : Int) + 1 = leadingExponent rank - 16 by omega]
    exact reads
  have someFound : ((List.range 17).findSome? fun index =>
      withDigits? tie rank (leadingExponent rank) (index + 1)).isSome = true := by
    rw [List.findSome?_isSome_iff]
    exact ⟨16, by decide, seventeen⟩
  obtain ⟨decimal, found⟩ := Option.isSome_iff_exists.mp someFound
  obtain ⟨index, -, reads⟩ := List.exists_of_findSome?_eq_some found
  have rounds := (readsAs_iff rank decimal).mp (readsAs_of_withDigits? reads)
  rw [shortest_eq found]
  split
  · next ten =>
    have same : Decimal.value ⟨1, decimal.exponent + 1⟩ = decimal.value := by
      rw [Decimal.value_mk, Decimal.value, ten, zpow_add_one₀ (by norm_num)]
      norm_num
      ring
    rw [same]
    exact rounds
  · exact rounds

end Double
end FuzzIntake
