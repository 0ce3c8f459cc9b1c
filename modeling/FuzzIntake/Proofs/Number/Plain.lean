import FuzzIntake.Number.Notation
import FuzzIntake.Number.Reading
import FuzzIntake.Proofs.Number.Shortest
import FuzzIntake.Proofs.Text.Trim

/-!
# Doubles in plain notation are read back

Plain notation puts the digits of the shortest decimal around a point.  The reader takes the
digits back as a decimal of the same value, and a decimal that is rounded to a rank is read as
the double of that rank.
-/

namespace FuzzIntake
namespace Double

theorem scaled_ranks_lt : scaled ranks < 10 ^ 400 * unit := by
  decide +kernel

theorem ofRank_of_lt
    {rank : Nat}
    (negative : Bool)
    (inside : rank < ranks) :
    ofRank negative rank = .finite negative ⟨rank, inside⟩ := by
  rw [ofRank, dif_pos inside]

theorem value_lt_ten_zpow
    (digits : Nat)
    (exponent : Int) :
    Decimal.value ⟨digits, exponent⟩ < 10 ^ ((Nat.toDigits 10 digits).length + exponent) := by
  have few : (digits : ℚ) < 10 ^ (Nat.toDigits 10 digits).length := by
    have bound := (Nat.length_toDigits_le_iff (by decide) Nat.length_toDigits_pos).mp
      (Nat.le_refl (Nat.toDigits 10 digits).length)
    exact_mod_cast bound
  rw [Decimal.value_mk, zpow_add₀ (by norm_num), zpow_natCast]
  exact mul_lt_mul_of_pos_right few (ten_zpow_pos exponent)

theorem ten_zpow_le_value
    {digits : Nat}
    (nonzero : 0 < digits)
    (exponent : Int) :
    (10 : ℚ) ^ ((Nat.toDigits 10 digits).length + exponent - 1) ≤
      Decimal.value ⟨digits, exponent⟩ := by
  have someDigits := Nat.length_toDigits_pos (b := 10) (n := digits)
  have many : ((10 ^ ((Nat.toDigits 10 digits).length - 1) : Nat) : ℚ) ≤ digits := by
    exact_mod_cast pow_length_toDigits_le nonzero
  have split : ((Nat.toDigits 10 digits).length + exponent - 1 : Int) =
      ((Nat.toDigits 10 digits).length - 1 : Nat) + exponent := by omega
  rw [Decimal.value_mk, split, zpow_add₀ (by norm_num), zpow_natCast]
  rw [Nat.cast_pow, Nat.cast_ofNat] at many
  exact mul_le_mul_of_nonneg_right many (ten_zpow_pos exponent).le

/-- A decimal that is rounded to a positive rank is at least half the least magnitude. -/
theorem RoundsTo.one_le
    {rank : Nat}
    {units : ℚ}
    (rounds : RoundsTo rank units)
    (nonzero : 0 < rank) :
    1 ≤ 2 * units := by
  have one : (1 : ℚ) ≤ scaled (rank - 1) + scaled rank := by
    exact_mod_cast Nat.le_add_left_of_le
      (Nat.one_le_iff_ne_zero.mpr (strictMono_scaled nonzero).ne_bot)
  exact one.trans rounds.low_le

theorem RoundsTo.digits_pos
    {digits rank : Nat}
    {exponent : Int}
    (rounds : RoundsTo rank (Decimal.value ⟨digits, exponent⟩ * unit))
    (nonzero : 0 < rank) :
    0 < digits := by
  have low := rounds.one_le nonzero
  rw [Nat.pos_iff_ne_zero]
  rintro rfl
  rw [Decimal.value_mk, Nat.cast_zero, zero_mul, zero_mul, mul_zero] at low
  exact absurd low (by norm_num)

/-- A decimal far below the least magnitude is not rounded to a positive rank. -/
theorem RoundsTo.not_tiny
    {digits rank : Nat}
    {exponent : Int}
    (rounds : RoundsTo rank (Decimal.value ⟨digits, exponent⟩ * unit))
    (nonzero : 0 < rank) :
    ¬ ((Nat.toDigits 10 digits).length + exponent < -330) := by
  intro tiny
  have low := rounds.one_le nonzero
  have least : (10 : ℚ) ^ (-330 : Int) * unit ≤ 1 :=
    ten_zpow_neg_mul_unit_le_one 330 unit_le_ten_pow
  have below : Decimal.value ⟨digits, exponent⟩ < 10 ^ (-331 : Int) :=
    (value_lt_ten_zpow digits exponent).trans_le (zpow_le_zpow_right₀ (by norm_num) (by omega))
  have tenth : (10 : ℚ) ^ (-330 : Int) = 10 * 10 ^ (-331 : Int) := by
    rw [← zpow_one_add₀ (by norm_num)]
    rfl
  have scaledDown := mul_lt_mul_of_pos_right below (Nat.cast_pos.mpr unit_pos)
  rw [tenth, mul_assoc] at least
  linarith

/-- A decimal far above the greatest magnitude is not rounded to a finite rank. -/
theorem RoundsTo.not_huge
    {digits rank : Nat}
    {exponent : Int}
    (rounds : RoundsTo rank (Decimal.value ⟨digits, exponent⟩ * unit))
    (nonzero : 0 < rank)
    (inside : rank < ranks) :
    ¬ (400 < (Nat.toDigits 10 digits).length + exponent) := by
  intro huge
  have above : (10 : ℚ) ^ (400 : Int) ≤ Decimal.value ⟨digits, exponent⟩ :=
    (zpow_le_zpow_right₀ (by norm_num) (by omega)).trans
      (ten_zpow_le_value (rounds.digits_pos nonzero) exponent)
  have highest : (scaled rank + scaled (rank + 1) : ℚ) ≤ 2 * scaled ranks := by
    have lower := strictMono_scaled.monotone inside.le
    have upper := strictMono_scaled.monotone (show rank + 1 ≤ ranks from inside)
    have sum : scaled rank + scaled (rank + 1) ≤ 2 * scaled ranks := by omega
    exact_mod_cast sum
  have largest : (scaled ranks : ℚ) < 10 ^ (400 : Int) * unit := by
    exact_mod_cast scaled_ranks_lt
  have scaledUp := mul_le_mul_of_nonneg_right above (Nat.cast_nonneg unit)
  linarith [rounds.le_high]

/-- A decimal that is rounded to a positive finite rank is read as the double of that rank. -/
theorem ofDecimal_of_roundsTo
    {digits rank : Nat}
    {exponent : Int}
    (negative : Bool)
    (nonzero : 0 < rank)
    (inside : rank < ranks)
    (rounds : RoundsTo rank (Decimal.value ⟨digits, exponent⟩ * unit)) :
    ofDecimal negative digits exponent = .finite negative ⟨rank, inside⟩ := by
  rw [ofDecimal]
  simp only [(rounds.digits_pos nonzero).ne', rounds.not_tiny nonzero,
    rounds.not_huge nonzero inside, or_self, if_false]
  rw [Decimal.value_mk] at rounds
  split
  · next sign =>
    have same : (digits * 10 ^ exponent * unit : ℚ) =
        ((digits * Nat.pow 10 exponent.toNat * unit : Nat) : ℚ) / (1 : Nat) := by
      rw [ten_zpow_of_nonneg sign, Nat.pow_eq]
      push_cast
      rw [div_one]
    rw [same] at rounds
    rw [ofRatio, nearestRank_eq_of_roundsTo Nat.one_pos nonzero rounds, ofRank_of_lt]
  · next sign =>
    have same : (digits * 10 ^ exponent * unit : ℚ) =
        ((digits * unit : Nat) : ℚ) / (Nat.pow 10 (-exponent).toNat : Nat) := by
      rw [ten_zpow_of_neg sign, Nat.pow_eq]
      push_cast
      ring
    rw [same] at rounds
    have positive : 0 < Nat.pow 10 (-exponent).toNat := Nat.pow_pos (by decide)
    rw [ofRatio, nearestRank_eq_of_roundsTo positive nonzero rounds, ofRank_of_lt]

/-! ### Digits around a point -/

theorem spanDigits_append
    {digits : List Char}
    (areDigits : ∀ c ∈ digits, c.isDigit = true)
    (rest : List Char)
    (stops : ∀ c ∈ rest.head?, c.isDigit = false) :
    spanDigits (digits ++ rest) = (digits, rest) := by
  have tail : rest.takeWhile Char.isDigit = [] ∧ rest.dropWhile Char.isDigit = rest := by
    cases rest with
    | nil => exact ⟨rfl, rfl⟩
    | cons c others =>
        have noDigit := stops c rfl
        exact ⟨List.takeWhile_cons_of_neg (by simp [noDigit]),
          List.dropWhile_cons_of_neg (by simp [noDigit])⟩
  rw [spanDigits, List.takeWhile_append_of_pos areDigits, List.dropWhile_append_of_pos areDigits,
    tail.1, tail.2, List.append_nil]

/-- Digits around a point. -/
def pointed (whole fraction : List Char) : List Char :=
  if fraction.isEmpty then whole else whole ++ '.' :: fraction

theorem readMagnitude?_pointed
    {whole fraction : List Char}
    (negative : Bool)
    (nonempty : whole ≠ [])
    (wholeDigits : ∀ c ∈ whole, c.isDigit = true)
    (fractionDigits : ∀ c ∈ fraction, c.isDigit = true) :
    readMagnitude? negative (pointed whole fraction) =
      some (ofDecimal negative (digitsValue (whole ++ fraction)) (-fraction.length)) := by
  have filled : whole.isEmpty = false := by simpa using nonempty
  cases fraction with
  | nil =>
      have span := spanDigits_append wholeDigits [] (by simp)
      rw [List.append_nil] at span
      simp [pointed, readMagnitude?, span, filled]
  | cons c others =>
      have span := spanDigits_append wholeDigits ('.' :: c :: others) (by simp)
      have spanFraction := spanDigits_append fractionDigits [] (by simp)
      rw [List.append_nil] at spanFraction
      simp [pointed, readMagnitude?, span, spanFraction, filled]

theorem digitsValue_eq (digits : List Char) :
    digitsValue digits = Nat.ofDigitChars 10 digits 0 := rfl

theorem isDigit_of_mem_text
    {decimal : Decimal}
    {c : Char}
    (present : c ∈ decimal.text) :
    c.isDigit = true :=
  Nat.isDigit_of_mem_toDigits (by decide) (by decide) present

theorem digitsValue_text (decimal : Decimal) : digitsValue decimal.text = decimal.digits :=
  Nat.ofDigitChars_ten_toDigits

theorem isDigit_of_mem_zeros
    {count : Nat}
    {c : Char}
    (present : c ∈ List.replicate count '0') :
    c.isDigit = true := by
  rw [List.eq_of_mem_replicate present]
  decide

/-- The digits around the point denote the decimal that they are written for. -/
theorem positional_spec (decimal : Decimal) :
    decimal.positional.1 ≠ [] ∧
      (∀ c ∈ decimal.positional.1, c.isDigit = true) ∧
      (∀ c ∈ decimal.positional.2, c.isDigit = true) ∧
      Decimal.value ⟨digitsValue (decimal.positional.1 ++ decimal.positional.2),
          -decimal.positional.2.length⟩ = decimal.value := by
  have nonempty : decimal.text ≠ [] := Nat.toDigits_ne_nil
  by_cases sign : 0 ≤ decimal.exponent
  · simp only [Decimal.positional, if_pos sign]
    refine ⟨by simp [nonempty], ?_, by simp, ?_⟩
    · intro c present
      rcases List.mem_append.mp present with shown | zero
      · exact isDigit_of_mem_text shown
      · exact isDigit_of_mem_zeros zero
    · have value : digitsValue (decimal.text ++ List.replicate decimal.exponent.toNat '0') =
          decimal.digits * 10 ^ decimal.exponent.toNat := by
        rw [digitsValue_eq, Nat.ofDigitChars_append, ← digitsValue_eq, digitsValue_text,
          Nat.ofDigitChars_replicate_zero]
        exact Nat.mul_comm _ _
      rw [List.append_nil, value, Decimal.value_mk, Decimal.value, ten_zpow_of_nonneg sign]
      simp
  · have exponent : (-((-decimal.exponent).toNat : Int)) = decimal.exponent := by omega
    have places : 0 < (-decimal.exponent).toNat := by omega
    by_cases short : (-decimal.exponent).toNat < decimal.text.length
    · simp only [Decimal.positional, if_neg sign, if_pos short]
      refine ⟨?_, ?_, ?_, ?_⟩
      · intro none
        rw [List.take_eq_nil_iff] at none
        rcases none with few | empty
        · omega
        · exact nonempty empty
      · exact fun c present => isDigit_of_mem_text (List.mem_of_mem_take present)
      · exact fun c present => isDigit_of_mem_text (List.mem_of_mem_drop present)
      · rw [List.take_append_drop, digitsValue_text, List.length_drop, Decimal.value_mk,
          Decimal.value, show decimal.text.length - (decimal.text.length -
            (-decimal.exponent).toNat) = (-decimal.exponent).toNat by omega, exponent]
    · simp only [Decimal.positional, if_neg sign, if_neg short]
      refine ⟨by simp, by simp, ?_, ?_⟩
      · intro c present
        rcases List.mem_append.mp present with zero | shown
        · exact isDigit_of_mem_zeros zero
        · exact isDigit_of_mem_text shown
      · have value : digitsValue (['0'] ++ (List.replicate
            ((-decimal.exponent).toNat - decimal.text.length) '0' ++ decimal.text)) =
              decimal.digits := by
          rw [digitsValue_eq, Nat.ofDigitChars_append, Nat.ofDigitChars_append,
            Nat.ofDigitChars_replicate_zero]
          exact digitsValue_text decimal
        rw [value, List.length_append, List.length_replicate,
          Nat.sub_add_cancel (Nat.le_of_not_lt short), exponent]

theorem toLower_of_isDigit
    {c : Char}
    (isDigit : c.isDigit = true) :
    c.toLower = c := by
  rw [Char.isDigit_iff_toNat] at isDigit
  have small : c.toNat ≤ 57 := isDigit.2
  refine dif_neg fun upper => ?_
  have large : 65 ≤ c.toNat := upper.1
  omega

theorem readUnsigned?_of_isDigit
    {c : Char}
    {rest : List Char}
    (negative : Bool)
    (isDigit : c.isDigit = true) :
    readUnsigned? negative (c :: rest) = readMagnitude? negative (c :: rest) := by
  have unnamed : ∀ letter letters, letter.isDigit = false →
      (c :: rest).map Char.toLower ≠ letter :: letters := by
    intro letter letters noDigit same
    rw [List.map_cons, toLower_of_isDigit isDigit] at same
    rw [(List.cons.inj same).1, noDigit] at isDigit
    cases isDigit
  rw [readUnsigned?, if_neg, if_neg]
  · exact unnamed 'n' ['a', 'n'] rfl
  · rintro (short | long)
    · exact unnamed 'i' ['n', 'f'] rfl short
    · exact unnamed 'i' ['n', 'f', 'i', 'n', 'i', 't', 'y'] rfl long

theorem read?_signed
    {c : Char}
    {rest : List Char}
    (negative : Bool)
    (isDigit : c.isDigit = true) :
    read? (signed negative (c :: rest)) = readMagnitude? negative (c :: rest) := by
  rw [← readUnsigned?_of_isDigit negative isDigit]
  cases negative with
  | true => rfl
  | false =>
      have noSign : ∀ sign : Char, sign.isDigit = false → c ≠ sign := by
        rintro sign noDigit rfl
        rw [noDigit] at isDigit
        cases isDigit
      have noMinus := noSign '-' rfl
      have noPlus := noSign '+' rfl
      rw [signed, read?]
      · rfl
      · simpa using noMinus
      · simpa using noPlus

/-- A finite double is written as digits around a point, behind its sign. -/
theorem plain_finite (negative : Bool) (rank : Fin ranks) :
    ∃ whole fraction,
      plain (.finite negative rank) = signed negative (pointed whole fraction) ∧
        whole ≠ [] ∧
        (∀ c ∈ whole, c.isDigit = true) ∧
        (∀ c ∈ fraction, c.isDigit = true) ∧
        ofDecimal negative (digitsValue (whole ++ fraction)) (-fraction.length) =
          .finite negative rank := by
  by_cases zero : rank.val = 0
  · refine ⟨['0'], [], ?_, by simp, by simp, by simp, ?_⟩
    · rw [plain, if_pos zero]
      rfl
    · have same : (⟨0, by decide⟩ : Fin ranks) = rank := Fin.ext zero.symm
      rw [ofDecimal, if_pos (.inl rfl), ofRank_of_lt negative (by decide), same]
  · have rounds := roundsTo_shortest .up (Nat.pos_of_ne_zero zero)
    obtain ⟨nonempty, wholeDigits, fractionDigits, value⟩ := positional_spec (shortest .up rank)
    generalize positioned : (shortest .up rank).positional = parts
      at nonempty wholeDigits fractionDigits value
    obtain ⟨whole, fraction⟩ := parts
    rw [← value] at rounds
    refine ⟨whole, fraction, ?_, nonempty, wholeDigits, fractionDigits,
      ofDecimal_of_roundsTo negative (Nat.pos_of_ne_zero zero) rank.isLt rounds⟩
    rw [plain, if_neg zero, positioned]
    rfl

/-- A finite double in plain notation is read back. -/
theorem read?_plain
    {x : Double}
    (finite : x.isFinite = true) :
    read? x.plain = some x := by
  cases x with
  | infinite negative => cases finite
  | nan => cases finite
  | finite negative rank =>
      obtain ⟨whole, fraction, written, nonempty, wholeDigits, fractionDigits, value⟩ :=
        plain_finite negative rank
      have read := readMagnitude?_pointed negative nonempty wholeDigits fractionDigits
      rw [value] at read
      obtain ⟨c, rest, rfl⟩ := List.exists_cons_of_ne_nil nonempty
      obtain ⟨others, shown⟩ : ∃ others, pointed (c :: rest) fraction = c :: others := by
        rw [pointed]
        split
        · exact ⟨rest, rfl⟩
        · exact ⟨rest ++ '.' :: fraction, rfl⟩
      rw [written, shown, read?_signed negative (wholeDigits c List.mem_cons_self), ← shown, read]

/-- Plain notation has no blanks. -/
theorem isBlank_of_mem_plain
    {x : Double}
    (finite : x.isFinite = true) :
    ∀ c ∈ x.plain, Text.isBlank c = false := by
  intro c present
  cases x with
  | infinite negative => cases finite
  | nan => cases finite
  | finite negative rank =>
      obtain ⟨whole, fraction, written, _, wholeDigits, fractionDigits, _⟩ :=
        plain_finite negative rank
      have shown : c = '-' ∨ c ∈ pointed whole fraction := by
        rw [written, signed] at present
        split at present
        · exact List.mem_cons.mp present
        · exact Or.inr present
      rcases shown with rfl | shown
      · rfl
      rw [pointed] at shown
      split at shown
      · exact Text.isBlank_of_isDigit (wholeDigits c shown)
      rcases List.mem_append.mp shown with front | back
      · exact Text.isBlank_of_isDigit (wholeDigits c front)
      rcases List.mem_cons.mp back with rfl | digit
      · rfl
      · exact Text.isBlank_of_isDigit (fractionDigits c digit)

end Double
end FuzzIntake
