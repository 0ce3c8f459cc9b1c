import FuzzIntake.Proofs.Json.Canonical

/-!
# What the reader gives

A value that is read nests no deeper than the reader goes, and is in canonical form.
-/

namespace FuzzIntake
namespace Json

/-! ### Numbers -/

theorem nesting_ofInteger (negative : Bool) (significand : Nat) :
    (ofInteger negative significand).nesting = 0 := by
  rw [ofInteger]
  split
  · split <;> rfl
  · rfl

theorem nesting_of_finish?
    {negative : Bool}
    {significand : Nat}
    {exponent : Int}
    {text rest : List Char}
    {value : Value}
    (read : finish? negative significand exponent text = some (value, rest)) :
    value.nesting = 0 := by
  have plain {after : List Char}
      (scaled : (scaleByTen? negative significand exponent).map (fun x => (Value.double x, after)) =
        some (value, rest)) : value.nesting = 0 := by
    obtain ⟨x, -, same⟩ := Option.map_eq_some_iff.mp scaled
    obtain ⟨rfl, -⟩ := Prod.mk.inj same
    rfl
  unfold finish? at read
  split at read
  · exact plain read
  · split at read
    · obtain ⟨⟨down, shown, after⟩, -, read⟩ := Option.bind_eq_some_iff.mp read
      simp only at read
      split at read
      · obtain ⟨-, read⟩ := Option.ite_none_left_eq_some.mp read
        obtain ⟨rfl, -⟩ := Prod.mk.inj (Option.some.inj read)
        rfl
      · obtain ⟨x, -, same⟩ := Option.map_eq_some_iff.mp read
        obtain ⟨rfl, -⟩ := Prod.mk.inj same
        rfl
    · exact plain read

theorem nesting_of_readFraction?
    {negative : Bool}
    {significand raised : Nat}
    {text rest : List Char}
    {value : Value}
    (read : readFraction? negative significand raised text = some (value, rest)) :
    value.nesting = 0 :=
  nesting_of_finish? (Option.ite_none_left_eq_some.mp read).2

theorem nesting_of_readUnsigned?
    {negative : Bool}
    {text rest : List Char}
    {value : Value}
    (read : readUnsigned? negative text = some (value, rest)) :
    value.nesting = 0 := by
  have whole {significand : Nat} {after : List Char}
      (same : some (ofInteger negative significand, after) = some (value, rest)) :
      value.nesting = 0 :=
    (Prod.mk.inj (Option.some.inj same)).1 ▸ nesting_ofInteger negative significand
  cases text with
  | nil => cases read
  | cons first text =>
      rw [readUnsigned?.eq_def] at read
      dsimp only at read
      split at read
      · cases text with
        | nil => exact whole read
        | cons c after =>
            dsimp only at read
            obtain ⟨-, read⟩ := Option.ite_none_left_eq_some.mp read
            split at read
            · exact nesting_of_readFraction? read
            · split at read
              · exact nesting_of_finish? read
              · exact whole read
      · obtain ⟨-, read⟩ := Option.ite_none_right_eq_some.mp read
        split at read
        · exact nesting_of_readFraction? read
        · split at read
          · exact nesting_of_finish? read
          · split at read
            · exact whole read
            · split at read
              · exact nesting_of_finish? read
              · exact whole read

/-- A number is neither a list nor a record. -/
theorem nesting_of_readNumber?
    {text rest : List Char}
    {value : Value}
    (read : readNumber? text = some (value, rest)) :
    value.nesting = 0 := by
  unfold readNumber? at read
  split at read
  · exact nesting_of_readUnsigned? read
  · exact nesting_of_readUnsigned? read

/-! ### Lists and records -/

/-- With this budget the reader goes no deeper than it is allowed. -/
structure KeepsDepth (budget : Nat) : Prop where
  value : ∀ {depth text value rest},
    readValue? budget depth text = some (value, rest) → value.nesting ≤ depth
  items : ∀ {depth text items rest},
    readItems? budget depth text = some (items, rest) → Value.nestingOfItems items ≤ depth
  members : ∀ {depth text members rest},
    readMembers? budget depth text = some (members, rest) →
      Value.nestingOfMembers members ≤ depth

variable {budget depth : Nat} {text rest : List Char}

theorem KeepsDepth.readItems?
    (keeps : KeepsDepth budget)
    {items : List Value}
    (read : readItems? (budget + 1) depth text = some (items, rest)) :
    Value.nestingOfItems items ≤ depth := by
  rw [Json.readItems?] at read
  obtain ⟨⟨item, after⟩, readItem, read⟩ := Option.bind_eq_some_iff.mp read
  have itemWithin := keeps.value readItem
  simp only at read
  split at read
  · obtain ⟨rfl, -⟩ := Prod.mk.inj (Option.some.inj read)
    exact Nat.max_le.mpr ⟨itemWithin, Nat.zero_le _⟩
  · obtain ⟨⟨others, after⟩, readOthers, same⟩ := Option.map_eq_some_iff.mp read
    obtain ⟨rfl, -⟩ := Prod.mk.inj same
    exact Nat.max_le.mpr ⟨itemWithin, keeps.items readOthers⟩
  · cases read

theorem KeepsDepth.readMembers?
    (keeps : KeepsDepth budget)
    {members : List (String × Value)}
    (read : readMembers? (budget + 1) depth text = some (members, rest)) :
    Value.nestingOfMembers members ≤ depth := by
  rw [Json.readMembers?] at read
  obtain ⟨⟨key, after⟩, -, read⟩ := Option.bind_eq_some_iff.mp read
  simp only at read
  split at read
  · obtain ⟨⟨value, after⟩, readValue, read⟩ := Option.bind_eq_some_iff.mp read
    have valueWithin := keeps.value readValue
    simp only at read
    split at read
    · obtain ⟨rfl, -⟩ := Prod.mk.inj (Option.some.inj read)
      exact Nat.max_le.mpr ⟨valueWithin, Nat.zero_le _⟩
    · obtain ⟨⟨others, after⟩, readOthers, same⟩ := Option.map_eq_some_iff.mp read
      obtain ⟨rfl, -⟩ := Prod.mk.inj same
      exact Nat.max_le.mpr ⟨valueWithin, keeps.members readOthers⟩
    · cases read
  · cases read

theorem KeepsDepth.readValue?
    (keeps : KeepsDepth budget)
    {value : Value}
    (read : readValue? (budget + 1) depth text = some (value, rest)) :
    value.nesting ≤ depth := by
  have plain {other : Value} {word : Option (List Char)} (flat : other.nesting = 0)
      (known : word.map (fun rest => (other, rest)) = some (value, rest)) :
      value.nesting ≤ depth := by
    obtain ⟨after, -, same⟩ := Option.map_eq_some_iff.mp known
    obtain ⟨rfl, -⟩ := Prod.mk.inj same
    exact flat ▸ Nat.zero_le depth
  rw [Json.readValue?] at read
  split at read
  · exact plain rfl read
  · exact plain rfl read
  · exact plain rfl read
  · obtain ⟨⟨s, after⟩, -, same⟩ := Option.map_eq_some_iff.mp read
    obtain ⟨rfl, -⟩ := Prod.mk.inj same
    exact Nat.zero_le depth
  · cases depth with
    | zero => cases read
    | succ depth =>
        simp only at read
        split at read
        · obtain ⟨rfl, -⟩ := Prod.mk.inj (Option.some.inj read)
          exact Nat.succ_le_succ (Nat.zero_le depth)
        · obtain ⟨⟨items, after⟩, readItems, same⟩ := Option.map_eq_some_iff.mp read
          obtain ⟨rfl, -⟩ := Prod.mk.inj same
          exact Nat.succ_le_succ (keeps.items readItems)
  · cases depth with
    | zero => cases read
    | succ depth =>
        simp only at read
        split at read
        · obtain ⟨rfl, -⟩ := Prod.mk.inj (Option.some.inj read)
          exact Nat.succ_le_succ (Nat.zero_le depth)
        · obtain ⟨⟨members, after⟩, readMembers, same⟩ := Option.map_eq_some_iff.mp read
          obtain ⟨rfl, -⟩ := Prod.mk.inj same
          exact Nat.succ_le_succ (keeps.members readMembers)
  · exact nesting_of_readNumber? read ▸ Nat.zero_le depth

theorem keepsDepth (budget : Nat) : KeepsDepth budget := by
  induction budget with
  | zero =>
      constructor
      · intro depth text value rest read
        cases read
      · intro depth text items rest read
        cases read
      · intro depth text members rest read
        cases read
  | succ budget inductionHypothesis =>
      exact ⟨inductionHypothesis.readValue?, inductionHypothesis.readItems?,
        inductionHypothesis.readMembers?⟩

/-- A text is read as a value that nests no deeper than the reader goes and is in canonical
form. -/
theorem isStored_of_read?
    {text : String}
    {value : Value}
    (read : read? text = some value) :
    value.nesting ≤ nestingLimit ∧ value.canonical = value := by
  obtain ⟨document, readDocument, rfl⟩ := Option.map_eq_some_iff.mp read
  obtain ⟨⟨whole, rest⟩, readWhole, ended⟩ := Option.bind_eq_some_iff.mp readDocument
  obtain ⟨-, same⟩ := Option.ite_none_right_eq_some.mp ended
  obtain rfl := Option.some.inj same
  exact ⟨Nat.le_trans (Value.nesting_canonical_le whole) ((keepsDepth _).value readWhole),
    Value.canonical_canonical whole⟩

end Json
end FuzzIntake
