import FuzzIntake.Proofs.Json.Tokens
import FuzzIntake.Proofs.Text.Trim

/-!
# Written JSON values are read back

The text of a value whose numbers are integers of 64 bits is read as that value, if it
nests no deeper than the reader goes.  The reader gets a value together with the rest of
the text, so `ReadsBack` says it for every rest that can follow.  One lemma for each kind
of value takes it from the parts to the whole; the induction over values is at the end.
-/

namespace FuzzIntake
namespace Json

open Text (isBlank)

namespace Value

mutual

/-- All numbers are integers of 64 bits, with or without sign. -/
def isIntegral : Value → Bool
  | .integer number => -(Nat.pow 2 63 : Int) ≤ number ∧ number < Nat.pow 2 64
  | .double _ => false
  | .list items => areIntegral items
  | .record members => haveIntegral members
  | _ => true

/-- Every item has integers of 64 bits only. -/
def areIntegral : List Value → Bool
  | [] => true
  | item :: rest => isIntegral item && areIntegral rest

/-- Every member has integers of 64 bits only. -/
def haveIntegral : List (String × Value) → Bool
  | [] => true
  | (_, value) :: rest => isIntegral value && haveIntegral rest

end

mutual

/-- How many lists and records stand inside each other at most. -/
def nesting : Value → Nat
  | .list items => nestingOfItems items + 1
  | .record members => nestingOfMembers members + 1
  | _ => 0

/-- The deepest nesting of an item. -/
def nestingOfItems : List Value → Nat
  | [] => 0
  | item :: rest => max (nesting item) (nestingOfItems rest)

/-- The deepest nesting of a member. -/
def nestingOfMembers : List (String × Value) → Nat
  | [] => 0
  | (_, value) :: rest => max (nesting value) (nestingOfMembers rest)

end

end Value

/-! ### How the text of a value starts and ends -/

/-- The text of a value starts with a sign, a digit, a letter, a quote or an opening bracket. -/
def StartsValue (text : List Char) : Prop :=
  ∃ c rest, text = c :: rest ∧ isBlank c = false ∧ c ≠ ']'

theorem isBlank_of_minus_or_isDigit
    {c : Char}
    (kind : c = '-' ∨ c.isDigit = true) :
    isBlank c = false := by
  rcases kind with rfl | isDigit
  · rfl
  · exact Text.isBlank_of_isDigit isDigit

theorem exists_writeInt (number : Int) :
    ∃ c rest, Integer.writeInt number = c :: rest ∧ (c = '-' ∨ c.isDigit = true) := by
  have nonempty : Integer.writeInt number ≠ [] := by
    rw [Integer.writeInt]
    split
    · exact List.cons_ne_nil _ _
    · exact Nat.toDigits_ne_nil
  obtain ⟨c, rest, written⟩ := List.exists_cons_of_ne_nil nonempty
  exact ⟨c, rest, written, Integer.minus_or_isDigit_of_mem_writeInt (written ▸ List.mem_cons_self)⟩

theorem startsValue_write
    {value : Value}
    (integral : value.isIntegral = true)
    (rest : List Char) :
    StartsValue (value.write ++ rest) := by
  match value with
  | .integer number =>
      obtain ⟨c, others, written, kind⟩ := exists_writeInt number
      refine ⟨c, others ++ rest, ?_, isBlank_of_minus_or_isDigit kind, ?_⟩
      · rw [Value.write_integer, written, List.cons_append]
      · rintro rfl
        revert kind
        decide
  | .null | .bool true | .bool false | .text _ | .list [] | .list (_ :: _) | .record []
  | .record (_ :: _) => exact ⟨_, _, rfl, rfl, by decide⟩

theorem getLast?_writeItems (items : List Value) :
    (Value.writeItems items).getLast? = some ']' := by
  induction items with
  | nil => rfl
  | cons item others inductionHypothesis =>
      rw [Value.writeItems_cons, List.getLast?_cons, List.getLast?_append, inductionHypothesis]
      rfl

theorem getLast?_writeMembers (members : List (String × Value)) :
    (Value.writeMembers members).getLast? = some '\x7d' := by
  induction members with
  | nil => rfl
  | cons member others inductionHypothesis =>
      rw [Value.writeMembers_cons, List.getLast?_cons, List.getLast?_append, List.getLast?_cons,
        List.getLast?_append, inductionHypothesis]
      rfl

/-- No text of a value ends with a blank. -/
theorem isBlank_of_getLast?_write
    {value : Value}
    (integral : value.isIntegral = true) :
    ∀ c ∈ value.write.getLast?, isBlank c = false := by
  intro c last
  match value with
  | .integer number =>
      rw [Value.write_integer] at last
      exact isBlank_of_minus_or_isDigit
        (Integer.minus_or_isDigit_of_mem_writeInt (List.mem_of_getLast? last))
  | .text text =>
      rw [Value.write_text, writeText, List.getLast?_cons, List.getLast?_append] at last
      cases last
      rfl
  | .list (item :: others) =>
      rw [Value.write_list_cons, List.getLast?_cons, List.getLast?_append,
        getLast?_writeItems] at last
      cases last
      rfl
  | .record (member :: others) =>
      rw [Value.write_record_cons, List.getLast?_cons, List.getLast?_append, List.getLast?_cons,
        List.getLast?_append, getLast?_writeMembers] at last
      cases last
      rfl
  | .null | .bool true | .bool false | .list [] | .record [] =>
      cases last
      rfl

theorem trimChars_write
    {value : Value}
    (integral : value.isIntegral = true) :
    Text.trimChars value.write = value.write := by
  apply Text.trimChars_of_ends
  · intro c first
    obtain ⟨start, rest, starts, solid, _⟩ := startsValue_write integral []
    rw [List.append_nil] at starts
    rw [starts] at first
    cases first
    exact solid
  · exact isBlank_of_getLast?_write integral

/-! ### One step of the reader -/

theorem skipBlanks_cons
    {c : Char}
    (solid : isBlank c = false)
    (rest : List Char) :
    skipBlanks (c :: rest) = c :: rest := by
  rw [skipBlanks, List.dropWhile_cons_of_neg]
  simp only [decide_eq_true_eq]
  rintro (rfl | rfl | rfl | rfl) <;> cases solid

theorem readValue?_number
    {c : Char}
    (starts : c = '-' ∨ c.isDigit = true)
    (solid : isBlank c = false)
    (budget depth : Nat)
    (rest : List Char) :
    readValue? (budget + 1) depth (c :: rest) = readNumber? (c :: rest) := by
  have others : c ≠ 'n' ∧ c ≠ 't' ∧ c ≠ 'f' ∧ c ≠ '"' ∧ c ≠ '[' ∧ c ≠ '\x7b' := by
    refine ⟨?_, ?_, ?_, ?_, ?_, ?_⟩ <;>
      · rintro rfl
        revert starts
        decide
  rw [readValue?, skipBlanks_cons solid]
  split <;> simp_all

theorem readValue?_quote (budget depth : Nat) (rest : List Char) :
    readValue? (budget + 1) depth ('"' :: rest) =
      (readText? ('"' :: rest)).map fun (text, rest) => (.text text, rest) := rfl

/-- What follows an opening bracket and is not blank and no closing bracket is read as items. -/
theorem readValue?_bracket
    {c : Char}
    (solid : isBlank c = false)
    (opened : c ≠ ']')
    (budget depth : Nat)
    (rest : List Char) :
    readValue? (budget + 1) (depth + 1) ('[' :: c :: rest) =
      (readItems? budget depth (c :: rest)).map fun (items, rest) => (.list items, rest) := by
  rw [readValue?, skipBlanks_cons (by decide)]
  simp only [skipBlanks_cons solid]
  split
  · next closes => exact absurd (List.cons.inj closes).1 opened
  · rfl

theorem readValue?_brace (budget depth : Nat) (rest : List Char) :
    readValue? (budget + 1) (depth + 1) ('\x7b' :: '"' :: rest) =
      (readMembers? budget depth ('"' :: rest)).map fun (members, rest) =>
        (.record members, rest) := rfl

section Following

variable {budget depth : Nat} {text following rest : List Char}

/-- An item with the closing bracket behind it is the last one. -/
theorem readItems?_last
    {item : Value}
    (read : readValue? budget depth text = some (item, ']' :: rest)) :
    readItems? (budget + 1) depth text = some ([item], rest) := by
  change Option.bind (readValue? budget depth text) _ = _
  rw [read]
  rfl

/-- An item with a comma behind it comes before the items behind the comma. -/
theorem readItems?_next
    {item : Value}
    {others : List Value}
    (read : readValue? budget depth text = some (item, ',' :: following))
    (remaining : readItems? budget depth following = some (others, rest)) :
    readItems? (budget + 1) depth text = some (item :: others, rest) := by
  change Option.bind (readValue? budget depth text) _ = _
  rw [read]
  change Option.map _ (readItems? budget depth following) = _
  rw [remaining]
  rfl

/-- A member with the closing brace behind it is the last one. -/
theorem readMembers?_last
    {key : String}
    {value : Value}
    (named : readText? (skipBlanks text) = some (key, ':' :: following))
    (read : readValue? budget depth following = some (value, '\x7d' :: rest)) :
    readMembers? (budget + 1) depth text = some ([(key, value)], rest) := by
  change Option.bind (readText? (skipBlanks text)) _ = _
  rw [named]
  change Option.bind (readValue? budget depth following) _ = _
  rw [read]
  rfl

/-- A member with a comma behind it comes before the members behind the comma. -/
theorem readMembers?_next
    {key : String}
    {value : Value}
    {others : List (String × Value)}
    {further : List Char}
    (named : readText? (skipBlanks text) = some (key, ':' :: following))
    (read : readValue? budget depth following = some (value, ',' :: further))
    (remaining : readMembers? budget depth further = some (others, rest)) :
    readMembers? (budget + 1) depth text = some ((key, value) :: others, rest) := by
  change Option.bind (readText? (skipBlanks text)) _ = _
  rw [named]
  change Option.bind (readValue? budget depth following) _ = _
  rw [read]
  change Option.map _ (readMembers? budget depth further) = _
  rw [remaining]
  rfl

end Following

/-! ### The kinds of values -/

/-- With enough budget and depth the text of a value is read as the value. -/
def ReadsBack (value : Value) : Prop :=
  ∀ {budget depth : Nat} {rest : List Char},
    value.nesting ≤ depth →
    value.write.length ≤ budget →
    EndsToken rest →
    readValue? budget depth (value.write ++ rest) = some (value, rest)

/-- With enough budget and depth the items behind an opening bracket are read as they are. -/
def ItemsReadBack (items : List Value) : Prop :=
  ∀ {budget depth : Nat} {rest : List Char},
    Value.nestingOfItems items ≤ depth →
    (Value.writeItems items).length ≤ budget + 1 →
    readItems? budget depth ((Value.writeItems items).tail ++ rest) = some (items, rest)

/-- With enough budget and depth the members behind an opening brace are read as they are. -/
def MembersReadBack (members : List (String × Value)) : Prop :=
  ∀ {budget depth : Nat} {rest : List Char},
    Value.nestingOfMembers members ≤ depth →
    (Value.writeMembers members).length ≤ budget + 1 →
    readMembers? budget depth ((Value.writeMembers members).tail ++ rest) = some (members, rest)

theorem readsBack_null : ReadsBack .null := by
  intro budget depth rest _ enough _
  obtain ⟨budget, rfl⟩ := Nat.exists_eq_add_of_le' (Nat.le_trans (Nat.le_add_left 1 3) enough)
  rfl

theorem readsBack_bool (value : Bool) : ReadsBack (.bool value) := by
  intro budget depth rest _ enough _
  cases value with
  | true =>
      obtain ⟨budget, rfl⟩ := Nat.exists_eq_add_of_le' (Nat.le_trans (Nat.le_add_left 1 3) enough)
      rfl
  | false =>
      obtain ⟨budget, rfl⟩ := Nat.exists_eq_add_of_le' (Nat.le_trans (Nat.le_add_left 1 4) enough)
      rfl

theorem readsBack_text (text : String) : ReadsBack (.text text) := by
  intro budget depth rest _ enough _
  have read := readText?_writeText text rest
  rw [Value.write_text] at enough ⊢
  rw [writeText] at enough read ⊢
  rw [List.length_cons] at enough
  obtain ⟨budget, rfl⟩ := Nat.exists_eq_add_of_le' (Nat.le_trans (Nat.le_add_left 1 _) enough)
  rw [List.cons_append] at read ⊢
  rw [readValue?_quote, read]
  rfl

theorem readsBack_integer
    {number : Int}
    (integral : (Value.integer number).isIntegral = true) :
    ReadsBack (.integer number) := by
  intro budget depth rest _ enough ends
  simp only [Value.isIntegral, decide_eq_true_eq, Bool.and_eq_true, Bool.decide_and] at integral
  obtain ⟨c, others, written, kind⟩ := exists_writeInt number
  have read := readNumber?_writeInt integral.1 integral.2 ends
  rw [Value.write_integer] at enough ⊢
  rw [written, List.length_cons] at enough
  obtain ⟨budget, rfl⟩ := Nat.exists_eq_add_of_le' (Nat.le_trans (Nat.le_add_left 1 _) enough)
  rw [written, List.cons_append] at read ⊢
  rw [readValue?_number kind (isBlank_of_minus_or_isDigit kind), read]

theorem length_pos_writeItems (items : List Value) : 0 < (Value.writeItems items).length := by
  cases items with
  | nil => exact Nat.one_pos
  | cons item others => exact Nat.succ_pos _

theorem length_pos_writeMembers (members : List (String × Value)) :
    0 < (Value.writeMembers members).length := by
  cases members with
  | nil => exact Nat.one_pos
  | cons member others => exact Nat.succ_pos _

theorem endsToken_writeItems (items : List Value) (rest : List Char) :
    EndsToken (Value.writeItems items ++ rest) := by
  intro c first
  cases items with
  | nil =>
      cases first
      simp
  | cons item others =>
      cases first
      simp

theorem endsToken_writeMembers (members : List (String × Value)) (rest : List Char) :
    EndsToken (Value.writeMembers members ++ rest) := by
  intro c first
  cases members with
  | nil =>
      cases first
      simp
  | cons member others =>
      cases first
      simp

theorem itemsReadBack_cons
    {item : Value}
    {others : List Value}
    (itemReads : ReadsBack item)
    (othersRead : others ≠ [] → ItemsReadBack others) :
    ItemsReadBack (item :: others) := by
  intro budget depth rest shallow enough
  rw [Value.nestingOfItems, Nat.max_le] at shallow
  rw [Value.writeItems_cons, List.length_cons, List.length_append] at enough
  have nonempty := length_pos_writeItems others
  obtain ⟨budget, rfl⟩ := Nat.exists_eq_add_of_le' (show 1 ≤ budget by omega)
  have separated := endsToken_writeItems others rest
  have first : readValue? budget depth (item.write ++ (Value.writeItems others ++ rest)) =
      some (item, Value.writeItems others ++ rest) := itemReads shallow.1 (by omega) separated
  rw [Value.writeItems_cons, List.tail_cons, List.append_assoc]
  cases others with
  | nil => exact readItems?_last first
  | cons next others =>
      have remaining : readItems? budget depth
          ((Value.writeItems (next :: others)).tail ++ rest) = some (next :: others, rest) :=
        othersRead (List.cons_ne_nil _ _) shallow.2 (by omega)
      exact readItems?_next first remaining

theorem readsBack_list
    {items : List Value}
    (integral : Value.areIntegral items = true)
    (itemsRead : items ≠ [] → ItemsReadBack items) :
    ReadsBack (.list items) := by
  intro budget depth rest shallow enough _
  rw [Value.nesting] at shallow
  obtain ⟨depth, rfl⟩ := Nat.exists_eq_add_of_le' (Nat.le_trans (Nat.le_add_left 1 _) shallow)
  cases items with
  | nil =>
      obtain ⟨budget, rfl⟩ := Nat.exists_eq_add_of_le' (Nat.le_trans (Nat.le_add_left 1 1) enough)
      rfl
  | cons item others =>
      rw [Value.areIntegral, Bool.and_eq_true] at integral
      rw [Value.write_list_cons, List.length_cons] at enough
      obtain ⟨budget, rfl⟩ := Nat.exists_eq_add_of_le' (Nat.le_trans (Nat.le_add_left 1 _) enough)
      have read : readItems? budget depth ((Value.writeItems (item :: others)).tail ++ rest) =
          some (item :: others, rest) := by
        apply itemsRead (List.cons_ne_nil _ _)
        · exact Nat.le_of_succ_le_succ shallow
        · rw [Value.writeItems_cons, List.length_cons]
          exact enough
      rw [Value.writeItems_cons, List.tail_cons, List.append_assoc] at read
      obtain ⟨c, tail, starts, solid, noBracket⟩ :=
        startsValue_write integral.1 (Value.writeItems others ++ rest)
      rw [starts] at read
      rw [Value.write_list_cons, List.cons_append, List.append_assoc, starts,
        readValue?_bracket solid noBracket, read]
      rfl

theorem membersReadBack_cons
    {key : String}
    {value : Value}
    {others : List (String × Value)}
    (valueReads : ReadsBack value)
    (othersRead : others ≠ [] → MembersReadBack others) :
    MembersReadBack ((key, value) :: others) := by
  intro budget depth rest shallow enough
  rw [Value.nestingOfMembers, Nat.max_le] at shallow
  rw [Value.writeMembers_cons, List.length_cons, List.length_append, List.length_cons,
    List.length_append] at enough
  have nonempty := length_pos_writeMembers others
  obtain ⟨budget, rfl⟩ := Nat.exists_eq_add_of_le' (show 1 ≤ budget by omega)
  have separated := endsToken_writeMembers others rest
  have first : readValue? budget depth (value.write ++ (Value.writeMembers others ++ rest)) =
      some (value, Value.writeMembers others ++ rest) := valueReads shallow.1 (by omega) separated
  have keyReads := readText?_writeText key
    (':' :: (value.write ++ (Value.writeMembers others ++ rest)))
  rw [Value.writeMembers_cons, List.tail_cons, List.append_assoc, List.cons_append,
    List.append_assoc]
  cases others with
  | nil => exact readMembers?_last keyReads first
  | cons next others =>
      have remaining : readMembers? budget depth
          ((Value.writeMembers (next :: others)).tail ++ rest) = some (next :: others, rest) :=
        othersRead (List.cons_ne_nil _ _) shallow.2 (by omega)
      exact readMembers?_next keyReads first remaining

theorem readsBack_record
    {members : List (String × Value)}
    (membersRead : members ≠ [] → MembersReadBack members) :
    ReadsBack (.record members) := by
  intro budget depth rest shallow enough _
  rw [Value.nesting] at shallow
  obtain ⟨depth, rfl⟩ := Nat.exists_eq_add_of_le' (Nat.le_trans (Nat.le_add_left 1 _) shallow)
  cases members with
  | nil =>
      obtain ⟨budget, rfl⟩ := Nat.exists_eq_add_of_le' (Nat.le_trans (Nat.le_add_left 1 1) enough)
      rfl
  | cons member others =>
      rw [Value.write_record_cons, List.length_cons] at enough
      obtain ⟨budget, rfl⟩ := Nat.exists_eq_add_of_le' (Nat.le_trans (Nat.le_add_left 1 _) enough)
      have read : readMembers? budget depth
          ((Value.writeMembers (member :: others)).tail ++ rest) =
            some (member :: others, rest) := by
        apply membersRead (List.cons_ne_nil _ _)
        · exact Nat.le_of_succ_le_succ shallow
        · rw [Value.writeMembers_cons, List.length_cons]
          exact enough
      rw [Value.writeMembers_cons, List.tail_cons] at read
      obtain ⟨tail, starts⟩ : ∃ tail, writeText member.1 ++
          ':' :: (member.2.write ++ Value.writeMembers others) ++ rest = '"' :: tail := ⟨_, rfl⟩
      rw [starts] at read
      rw [Value.write_record_cons, List.cons_append, starts, readValue?_brace, read]
      rfl

mutual

/-- The text of a value with integers only is read as the value. -/
theorem readsBack_of_isIntegral : (value : Value) → value.isIntegral = true → ReadsBack value
  | .null, _ => readsBack_null
  | .bool value, _ => readsBack_bool value
  | .integer _, integral => readsBack_integer integral
  | .double _, integral => nomatch integral
  | .text text, _ => readsBack_text text
  | .list items, integral => readsBack_list integral (itemsReadBack_of_areIntegral items integral)
  | .record members, integral =>
      readsBack_record (membersReadBack_of_haveIntegral members integral)

/-- The items behind an opening bracket are read as they are. -/
theorem itemsReadBack_of_areIntegral :
    (items : List Value) → Value.areIntegral items = true → items ≠ [] → ItemsReadBack items
  | [], _, nonempty => absurd rfl nonempty
  | item :: others, integral, _ =>
      have both := Bool.and_eq_true_iff.mp integral
      itemsReadBack_cons (readsBack_of_isIntegral item both.1)
        (itemsReadBack_of_areIntegral others both.2)

/-- The members behind an opening brace are read as they are. -/
theorem membersReadBack_of_haveIntegral :
    (members : List (String × Value)) → Value.haveIntegral members = true → members ≠ [] →
      MembersReadBack members
  | [], _, nonempty => absurd rfl nonempty
  | (_, value) :: others, integral, _ =>
      have both := Bool.and_eq_true_iff.mp integral
      membersReadBack_cons (readsBack_of_isIntegral value both.1)
        (membersReadBack_of_haveIntegral others both.2)

end

/-- The text of a value is read as its canonical form. -/
theorem read?_toText
    {value : Value}
    (integral : value.isIntegral = true)
    (shallow : value.nesting ≤ nestingLimit) :
    read? value.toText = some value.canonical := by
  have enough : value.write.length ≤ 2 * value.toText.length + 2 := by
    rw [Value.toText, String.length_ofList]
    omega
  have ends : EndsToken [] := fun c first => nomatch first
  have read := readsBack_of_isIntegral value integral shallow enough ends
  rw [List.append_nil] at read
  have chars : value.toText.toList = value.write := String.toList_ofList
  rw [read?, readDocument?, chars, read]
  rfl

end Json
end FuzzIntake
