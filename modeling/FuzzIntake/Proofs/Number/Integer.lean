import FuzzIntake.Number.Integer

/-!
# Reading whole numbers

A text is read as a number exactly if it is a numeral of that number and the number does not pass
the limit.  In particular the digits of a number are read as that number.
-/

namespace FuzzIntake
namespace Integer

/-- The value of a digit is its distance from zero. -/
theorem digit?_of_isDigit
    {c : Char}
    (isDigit : c.isDigit = true) :
    digit? c = some (c.toNat - 48) := by
  rw [Char.isDigit_iff_toNat] at isDigit
  have lower : '0' ≤ c := Char.le_def.mpr isDigit.1
  have upper : c ≤ '9' := Char.le_def.mpr isDigit.2
  rw [digit?, if_pos ⟨lower, upper⟩]

/-- Digits that follow never make a number smaller. -/
theorem le_ofDigitChars (digits : List Char) (value : Nat) :
    value ≤ Nat.ofDigitChars 10 digits value := by
  induction digits generalizing value with
  | nil => simp
  | cons c rest inductionHypothesis =>
      rw [Nat.ofDigitChars_cons]
      have further := inductionHypothesis (10 * value + (c.toNat - '0'.toNat))
      omega

/-- Digits are read one by one as long as the limit is not passed. -/
theorem extend_of_isDigit
    {limit : Nat}
    (passed : Fault)
    (digits : List Char)
    (value : Nat)
    (areDigits : ∀ c ∈ digits, c.isDigit = true)
    (bounded : Nat.ofDigitChars 10 digits value ≤ limit) :
    extend limit passed value digits = .ok (Nat.ofDigitChars 10 digits value) := by
  induction digits generalizing value with
  | nil => simp [extend]
  | cons c rest inductionHypothesis =>
      rw [Nat.ofDigitChars_cons] at bounded ⊢
      have within : 10 * value + (c.toNat - 48) ≤ limit :=
        Nat.le_trans (le_ofDigitChars rest _) bounded
      rw [extend, digit?_of_isDigit (areDigits c List.mem_cons_self)]
      simp only [within, if_true]
      exact inductionHypothesis _
        (fun other present => areDigits other (List.mem_cons_of_mem c present)) bounded

/-- Only a digit has a value, and it is its distance from zero. -/
theorem digit?_eq_some_iff {c : Char} {value : Nat} :
    digit? c = some value ↔ c.isDigit = true ∧ c.toNat - 48 = value := by
  by_cases isDigit : c.isDigit = true
  · rw [digit?_of_isDigit isDigit]
    simp [isDigit]
  · have outside : ¬ ('0' ≤ c ∧ c ≤ '9') := fun range =>
      isDigit (Char.isDigit_iff_toNat.mpr ⟨Char.le_def.mp range.1, Char.le_def.mp range.2⟩)
    rw [digit?, if_neg outside]
    simp [isDigit]

/-- A number is extended by digits only, and never past the limit. -/
theorem extend_eq_ok_iff
    {limit value number : Nat}
    {passed : Fault}
    {digits : List Char}
    (bounded : value ≤ limit) :
    extend limit passed value digits = .ok number ↔
      (∀ c ∈ digits, c.isDigit = true) ∧ Nat.ofDigitChars 10 digits value = number ∧
        number ≤ limit := by
  constructor
  · intro extended
    induction digits generalizing value with
    | nil =>
        cases extended
        exact ⟨fun _ within => absurd within List.not_mem_nil, Nat.ofDigitChars_nil, bounded⟩
    | cons c rest inductionHypothesis =>
        rw [extend] at extended
        cases found : digit? c with
        | none =>
            rw [found] at extended
            cases extended
        | some d =>
            obtain ⟨isDigit, rfl⟩ := digit?_eq_some_iff.mp found
            rw [found] at extended
            dsimp only at extended
            split at extended
            · next within =>
              obtain ⟨areDigits, same, least⟩ := inductionHypothesis within extended
              rw [Nat.ofDigitChars_cons]
              exact ⟨List.forall_mem_cons.mpr ⟨isDigit, areDigits⟩, same, least⟩
            · cases extended
  · rintro ⟨areDigits, rfl, within⟩
    exact extend_of_isDigit passed digits value areDigits within

/-- A numeral: an optional plus sign and one or more digits. -/
def IsNumeral (text : List Char) (number : Nat) : Prop :=
  ∃ digits, (text = digits ∨ text = '+' :: digits) ∧ digits ≠ [] ∧
    (∀ c ∈ digits, c.isDigit = true) ∧ Nat.ofDigitChars 10 digits 0 = number

/-- The digits of a numeral are what follows its plus sign, or all of it. -/
theorem isNumeral_iff_of_ne_plus
    {c : Char}
    {rest : List Char}
    {number : Nat}
    (noSign : c ≠ '+') :
    IsNumeral (c :: rest) number ↔
      (∀ d ∈ c :: rest, d.isDigit = true) ∧ Nat.ofDigitChars 10 (c :: rest) 0 = number := by
  constructor
  · rintro ⟨digits, rfl | signed, -, spelled⟩
    · exact spelled
    · exact absurd (List.cons.inj signed).1 noSign
  · exact fun spelled => ⟨c :: rest, .inl rfl, List.cons_ne_nil _ _, spelled⟩

theorem isNumeral_plus_iff {rest : List Char} {number : Nat} :
    IsNumeral ('+' :: rest) number ↔
      rest ≠ [] ∧ (∀ d ∈ rest, d.isDigit = true) ∧ Nat.ofDigitChars 10 rest 0 = number := by
  constructor
  · rintro ⟨digits, rfl | signed, nonempty, areDigits, value⟩
    · exact absurd (areDigits '+' List.mem_cons_self) (by decide)
    · obtain rfl := (List.cons.inj signed).2
      exact ⟨nonempty, areDigits, value⟩
  · exact fun spelled => ⟨rest, .inr rfl, spelled⟩

/-- A text is read as a number exactly if it is a numeral of it that keeps to the limit. -/
theorem readNat_eq_ok_iff {limit number : Nat} {text : List Char} :
    readNat limit text = .ok number ↔ IsNumeral text number ∧ number ≤ limit := by
  cases text with
  | nil => simp [readNat, IsNumeral]
  | cons c rest =>
      by_cases sign : c = '+'
      · subst sign
        rw [isNumeral_plus_iff]
        cases rest with
        | nil => simp [readNat]
        | cons d more =>
            rw [readNat, extend_eq_ok_iff (Nat.zero_le _)]
            · simp [and_assoc]
            · simp
      · rw [isNumeral_iff_of_ne_plus sign, readNat, extend_eq_ok_iff (Nat.zero_le _), and_assoc]
        · exact List.cons_ne_nil c rest
        · exact fun same => sign (List.cons.inj same).1
        · exact fun _ same => sign (List.cons.inj same).1

/-- Only digits are written. -/
theorem isDigit_of_mem_writeNat
    {number : Nat}
    {c : Char}
    (present : c ∈ writeNat number) :
    c.isDigit = true :=
  Nat.isDigit_of_mem_toDigits (by decide) (by decide) present

/-- Only digits and the minus sign are written. -/
theorem minus_or_isDigit_of_mem_writeInt
    {number : Int}
    {c : Char}
    (present : c ∈ writeInt number) :
    c = '-' ∨ c.isDigit = true := by
  rw [writeInt] at present
  split at present
  · rcases List.mem_cons.mp present with sign | digit
    · exact Or.inl sign
    · exact Or.inr (isDigit_of_mem_writeNat digit)
  · exact Or.inr (isDigit_of_mem_writeNat present)

/-- A written number is read back, if it does not pass the limit. -/
theorem readNat_writeNat
    {limit number : Nat}
    (bounded : number ≤ limit) :
    readNat limit (writeNat number) = .ok number := by
  have value : Nat.ofDigitChars 10 (writeNat number) 0 = number :=
    Nat.ofDigitChars_ten_toDigits
  have digits : extend limit .tooLarge 0 (writeNat number) = .ok number := by
    have within : Nat.ofDigitChars 10 (writeNat number) 0 ≤ limit := by rwa [value]
    rw [extend_of_isDigit .tooLarge (writeNat number) 0
      (fun c present => isDigit_of_mem_writeNat present) within, value]
  cases written : writeNat number with
  | nil => exact absurd written Nat.toDigits_ne_nil
  | cons c rest =>
      have noSign : c ≠ '+' := by
        rintro rfl
        have isDigit := isDigit_of_mem_writeNat (written ▸ List.mem_cons_self)
        exact absurd isDigit (by decide)
      rw [written] at digits
      rw [readNat] <;> simp_all

/-- Every 64-bit integer is read back. -/
theorem readInt64_writeInt (number : Int64) : readInt64 (writeInt number.toInt) = .ok number := by
  have lower := number.le_toInt
  have upper := number.toInt_lt
  have limit : Nat.pow 2 63 = 2 ^ 63 := rfl
  rw [writeInt]
  split
  · next negative =>
    have value : Nat.ofDigitChars 10 (writeNat number.toInt.natAbs) 0 = number.toInt.natAbs :=
      Nat.ofDigitChars_ten_toDigits
    have digits : extend (Nat.pow 2 63) .tooSmall 0 (writeNat number.toInt.natAbs) =
        .ok number.toInt.natAbs := by
      have within : Nat.ofDigitChars 10 (writeNat number.toInt.natAbs) 0 ≤ Nat.pow 2 63 := by
        omega
      rw [extend_of_isDigit .tooSmall _ 0
        (fun c present => isDigit_of_mem_writeNat present) within, value]
    have magnitude : -(number.toInt.natAbs : Int) = number.toInt := by omega
    rw [readInt64, digits]
    · change Except.ok (Int64.ofInt (-(number.toInt.natAbs : Int))) = _
      rw [magnitude, Int64.ofInt_toInt]
    · exact Nat.toDigits_ne_nil
  · next nonnegative =>
    have magnitude : (number.toInt.natAbs : Int) = number.toInt := by omega
    have read : readNat (Nat.pow 2 63 - 1) (writeNat number.toInt.natAbs) =
        .ok number.toInt.natAbs := readNat_writeNat (by omega)
    have noSign : ∀ digits, writeNat number.toInt.natAbs ≠ '-' :: digits := by
      intro digits signed
      have isDigit := isDigit_of_mem_writeNat (signed ▸ List.mem_cons_self)
      exact absurd isDigit (by decide)
    rw [readInt64, read]
    · change Except.ok (Int64.ofInt (number.toInt.natAbs : Int)) = _
      rw [magnitude, Int64.ofInt_toInt]
    · exact noSign []
    · exact noSign

end Integer
end FuzzIntake
