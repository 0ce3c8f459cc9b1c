import FuzzIntake.Json.Reader
import FuzzIntake.Json.Writer
import FuzzIntake.Proofs.Number.Integer
import Mathlib.Data.List.Basic

/-!
# Written JSON strings and integers are read back

A reader gets a token together with the rest of its text.  A string ends with its
quote, whatever follows.  A number has no end of its own: it is read back if what
follows cannot continue it, which `EndsToken` says.
-/

namespace FuzzIntake

namespace Integer

/-- The digits of a positive number start with another digit than zero. -/
theorem exists_writeNat_of_pos
    {number : Nat}
    (positive : 0 < number) :
    ∃ c rest, writeNat number = c :: rest ∧ c ≠ '0' := by
  induction number using Nat.strongRecOn with
  | ind number inductionHypothesis =>
      by_cases single : number < 10
      · have noZero : ∀ digit < 10, 0 < digit → Nat.digitChar digit ≠ '0' := by decide
        exact ⟨_, [], Nat.toDigits_of_lt_base single, noZero number single positive⟩
      · obtain ⟨c, rest, written, noZero⟩ :=
          inductionHypothesis (number / 10) (by omega) (by omega)
        refine ⟨c, rest ++ [Nat.digitChar (number % 10)], ?_, noZero⟩
        rw [writeNat, Nat.toDigits_of_base_le (by decide) (by omega), ← writeNat, written]
        rfl

end Integer

namespace Json

theorem hexValue?_hexDigit : ∀ n < 16, hexValue? (hexDigit n) = some n := by
  decide

theorem readEscape?_control
    {c : Char}
    (control : c.toNat < 0x20)
    (rest : List Char) :
    readEscape? ('u' :: '0' :: '0' :: hexDigit (c.toNat / 16) :: hexDigit (c.toNat % 16) :: rest) =
      some (c, rest) := by
  have high := hexValue?_hexDigit (c.toNat / 16) (by omega)
  have low := hexValue?_hexDigit (c.toNat % 16) (by omega)
  have zero : hexValue? '0' = some 0 := by decide
  have unit : readUnit? ('0' :: '0' :: hexDigit (c.toNat / 16) :: hexDigit (c.toNat % 16) :: rest) =
      some (c.toNat, rest) := by
    rw [readUnit?, high, low, zero]
    simp only [Option.bind_eq_bind, Option.bind_some, Option.pure_def, Option.some.injEq,
      Prod.mk.injEq, and_true]
    omega
  rw [readEscape?, readCodePoint?, unit]
  simp only [Option.bind_eq_bind, Option.bind_some]
  rw [if_neg (by omega), if_neg (by omega), Char.ofNat_toNat]
  rfl

/-- The characters with an escape of one letter. -/
def shortEscapes : List (Char × Char) :=
  [('"', '"'), ('\\', '\\'), ('\x08', 'b'), ('\x0c', 'f'), ('\n', 'n'), ('\r', 'r'), ('\t', 't')]

/-- A character stands for itself or is escaped, and its escape is read as the character. -/
theorem escapeChar_cases (c : Char) :
    (escapeChar c = [c] ∧ c ≠ '"' ∧ c ≠ '\\' ∧ ¬ c.toNat < 0x20) ∨
      ∃ code, escapeChar c = '\\' :: code ∧
        ∀ rest, readEscape? (code ++ rest) = some (c, rest) := by
  by_cases short : c ∈ shortEscapes.map Prod.fst
  · right
    simp only [shortEscapes, List.map_cons, List.map_nil, List.mem_cons, List.not_mem_nil,
      or_false] at short
    rcases short with rfl | rfl | rfl | rfl | rfl | rfl | rfl <;>
      exact ⟨_, rfl, fun rest => rfl⟩
  · simp only [shortEscapes, List.map_cons, List.map_nil, List.mem_cons, List.not_mem_nil,
      or_false, not_or] at short
    obtain ⟨noQuote, noSlash, others⟩ := short
    by_cases control : c.toNat < 0x20
    · right
      refine ⟨['u', '0', '0', hexDigit (c.toNat / 16), hexDigit (c.toNat % 16)], ?_,
        readEscape?_control control⟩
      simp only [escapeChar, noQuote, noSlash, others, control, if_false, if_true]
    · left
      refine ⟨?_, noQuote, noSlash, control⟩
      simp only [escapeChar, noQuote, noSlash, others, control, if_false]

theorem readChars?_escapeChar
    (c : Char)
    (budget : Nat)
    (rest : List Char) :
    readChars? (budget + 1) (escapeChar c ++ rest) =
      (readChars? budget rest).map fun (cs, rest) => (c :: cs, rest) := by
  rcases escapeChar_cases c with ⟨plain, noQuote, noSlash, noControl⟩ | ⟨code, escaped, decoded⟩
  · rw [plain, List.singleton_append, readChars?, if_neg noQuote, if_neg noSlash, if_neg noControl]
  · rw [escaped, List.cons_append, readChars?, if_neg (by decide), if_pos rfl, decoded]
    rfl

theorem readChars?_flatMap
    (cs : List Char)
    {budget : Nat}
    (enough : cs.length < budget)
    (rest : List Char) :
    readChars? budget (cs.flatMap escapeChar ++ '"' :: rest) = some (cs, rest) := by
  induction cs generalizing budget with
  | nil =>
      obtain ⟨budget, rfl⟩ := Nat.exists_eq_succ_of_ne_zero (Nat.ne_of_gt enough)
      rfl
  | cons c others inductionHypothesis =>
      obtain ⟨budget, rfl⟩ := Nat.exists_eq_succ_of_ne_zero (Nat.ne_zero_of_lt enough)
      rw [List.flatMap_cons, List.append_assoc, readChars?_escapeChar,
        inductionHypothesis (Nat.lt_of_succ_lt_succ enough)]
      rfl

theorem length_le_flatMap_escapeChar (cs : List Char) :
    cs.length ≤ (cs.flatMap escapeChar).length := by
  induction cs with
  | nil => exact Nat.le_refl 0
  | cons c others inductionHypothesis =>
      have nonempty : 0 < (escapeChar c).length := by
        rcases escapeChar_cases c with ⟨plain, _⟩ | ⟨code, escaped, _⟩
        · rw [plain]
          exact Nat.one_pos
        · rw [escaped]
          exact Nat.succ_pos _
      rw [List.flatMap_cons, List.length_append, List.length_cons]
      omega

/-- A written string is read back, whatever follows it. -/
theorem readText?_writeText
    (text : String)
    (rest : List Char) :
    readText? (writeText text ++ rest) = some (text, rest) := by
  have fits := length_le_flatMap_escapeChar text.toList
  rw [writeText, List.cons_append, List.append_assoc, List.singleton_append, readText?,
    readChars?_flatMap]
  · simp only [Option.map_some, String.ofList_toList]
  · rw [List.length_append, List.length_cons]
    omega

/-- What may follow a value: nothing, a separator or a closing bracket. -/
def EndsToken (text : List Char) : Prop :=
  ∀ c ∈ text.head?, c = ',' ∨ c = ']' ∨ c = '\x7d'

/-- What ends a token continues no number: it is no digit, point or exponent. -/
theorem EndsToken.noNumber
    {text : List Char}
    (ends : EndsToken text) :
    ∀ c ∈ text.head?, c.isDigit = false ∧ c ≠ '.' ∧ c ≠ 'e' ∧ c ≠ 'E' := by
  intro c first
  rcases ends c first with rfl | rfl | rfl <;> decide

theorem digit?_of_not_isDigit
    {c : Char}
    (noDigit : c.isDigit = false) :
    Integer.digit? c = none := by
  rw [Integer.digit?, if_neg]
  rintro ⟨lower, upper⟩
  have isDigit : c.isDigit = true :=
    Char.isDigit_iff_toNat.mpr ⟨Char.le_def.mp lower, Char.le_def.mp upper⟩
  rw [isDigit] at noDigit
  cases noDigit

/-- All digits at the front are taken, if the number they make is within the limit. -/
theorem takeDigits_append
    {digits rest : List Char}
    {value : Nat}
    (taken : Nat)
    (areDigits : ∀ c ∈ digits, c.isDigit = true)
    (bounded : Nat.ofDigitChars 10 digits value ≤ significandLimit)
    (stops : ∀ c ∈ rest.head?, c.isDigit = false) :
    takeDigits value taken (digits ++ rest) =
      (Nat.ofDigitChars 10 digits value, taken + digits.length, rest) := by
  induction digits generalizing value taken with
  | nil =>
      cases rest with
      | nil => rfl
      | cons c others =>
          rw [List.nil_append, takeDigits, digit?_of_not_isDigit (stops c rfl)]
          rfl
  | cons c others inductionHypothesis =>
      have next : Nat.ofDigitChars 10 (c :: others) value =
          Nat.ofDigitChars 10 others (10 * value + (c.toNat - 48)) := Nat.ofDigitChars_cons
      rw [next] at bounded ⊢
      have within : 10 * value + (c.toNat - 48) ≤ significandLimit :=
        Nat.le_trans (Integer.le_ofDigitChars others _) bounded
      have step := inductionHypothesis (taken + 1)
        (fun other present => areDigits other (List.mem_cons_of_mem c present)) bounded
      rw [List.cons_append, takeDigits, Integer.digit?_of_isDigit (areDigits c List.mem_cons_self)]
      simp only [within, if_true]
      rw [step, List.length_cons]
      congr 2
      omega

/-- A number without sign is read back as an integer. -/
theorem readUnsigned?_writeNat
    (negative : Bool)
    (number : Nat)
    (bounded : number ≤ significandLimit)
    {rest : List Char}
    (ends : EndsToken rest) :
    readUnsigned? negative (Integer.writeNat number ++ rest) =
      some (ofInteger negative number, rest) := by
  by_cases zero : number = 0
  · subst zero
    have written : Integer.writeNat 0 = ['0'] := rfl
    rw [written, List.singleton_append, readUnsigned?.eq_def]
    cases rest with
    | nil => rfl
    | cons c others =>
        obtain ⟨noDigit, noPoint, noExponent⟩ := ends.noNumber c rfl
        simp only [if_true, noDigit, noPoint, noExponent, Bool.false_eq_true, or_self, if_false]
  · obtain ⟨first, others, written, noZero⟩ :=
      Integer.exists_writeNat_of_pos (Nat.pos_of_ne_zero zero)
    have areDigits : ∀ c ∈ first :: others, c.isDigit = true :=
      fun c present => Integer.isDigit_of_mem_writeNat (written ▸ present)
    have value : Nat.ofDigitChars 10 (first :: others) 0 = number := by
      rw [← written]
      exact Nat.ofDigitChars_ten_toDigits
    have taken := takeDigits_append 0 areDigits (value.symm ▸ bounded)
      (fun c head => (ends.noNumber c head).1)
    rw [value, List.cons_append] at taken
    rw [written, List.cons_append, readUnsigned?.eq_def]
    simp only [noZero, if_false, areDigits first List.mem_cons_self, if_true, taken]
    cases rest with
    | nil => rfl
    | cons c others =>
        obtain ⟨noDigit, noPoint, noExponent⟩ := ends.noNumber c rfl
        simp only [List.takeWhile_cons, List.dropWhile_cons, noDigit, Bool.false_eq_true,
          if_false, List.length_nil, ne_eq, not_true, noExponent, or_self]
        split
        · next point => exact absurd (List.cons.inj point).1 noPoint
        · rfl

/-- An integer of 64 bits is read back. -/
theorem readNumber?_writeInt
    {number : Int}
    (lower : -(Nat.pow 2 63 : Int) ≤ number)
    (upper : number < Nat.pow 2 64)
    {rest : List Char}
    (ends : EndsToken rest) :
    readNumber? (Integer.writeInt number ++ rest) = some (.integer number, rest) := by
  have limits : Nat.pow 2 63 = 9223372036854775808 ∧ Nat.pow 2 64 = 18446744073709551616 ∧
      significandLimit = 18446744073709551615 := ⟨rfl, rfl, rfl⟩
  rw [limits.1] at lower
  rw [limits.2.1] at upper
  by_cases negative : number < 0
  · have fits : ¬ (number.natAbs = 0 ∨ Nat.pow 2 63 < number.natAbs) := by
      rw [limits.1]
      omega
    rw [Integer.writeInt, if_pos negative, List.cons_append, readNumber?,
      readUnsigned?_writeNat true _ (by omega) ends, ofInteger, if_pos rfl, if_neg fits]
    congr 3
    omega
  · obtain ⟨c, others, written⟩ := List.exists_cons_of_ne_nil
      (Nat.toDigits_ne_nil (n := number.natAbs) (b := 10))
    have noSign : c ≠ '-' := by
      rintro rfl
      have present : '-' ∈ Integer.writeNat number.natAbs := by
        rw [Integer.writeNat, written]
        exact List.mem_cons_self
      exact absurd (Integer.isDigit_of_mem_writeNat present) (by decide)
    have read := readUnsigned?_writeNat false number.natAbs (by omega) ends
    rw [Integer.writeInt, if_neg negative]
    rw [Integer.writeNat, written, List.cons_append] at read ⊢
    rw [readNumber?, read, ofInteger, if_neg Bool.false_ne_true]
    · congr 3
      omega
    · simpa using noSign

end Json
end FuzzIntake
