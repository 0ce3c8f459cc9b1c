import FuzzIntake.Proofs.Json.RoundTrip

/-!
# Canonical values

A value is canonical when the keys of every record in it ascend.  Canonical form makes every
value canonical, changes none that is, and nests no deeper than the value it is made from.
-/

namespace FuzzIntake
namespace Json
namespace Value

/-- Members in the ascending order of their keys, so that no key is repeated. -/
def AreSorted (members : List (String × Value)) : Prop :=
  members.Pairwise fun earlier later => earlier.1 < later.1

mutual

/-- The keys of every record ascend. -/
def IsCanonical : Value → Prop
  | .list items => AreCanonical items
  | .record members => AreSorted members ∧ HaveCanonical members
  | _ => True

/-- Every item is canonical. -/
def AreCanonical : List Value → Prop
  | [] => True
  | item :: rest => IsCanonical item ∧ AreCanonical rest

/-- Every member has a canonical value. -/
def HaveCanonical : List (String × Value) → Prop
  | [] => True
  | (_, value) :: rest => IsCanonical value ∧ HaveCanonical rest

end

/-! ### Putting a member into its place -/

theorem haveCanonical_iff (members : List (String × Value)) :
    HaveCanonical members ↔ ∀ member ∈ members, member.2.IsCanonical := by
  induction members with
  | nil => exact iff_of_true trivial nofun
  | cons member others inductionHypothesis =>
      rw [HaveCanonical, inductionHypothesis, List.forall_mem_cons]

theorem nestingOfMembers_le_iff (members : List (String × Value)) (depth : Nat) :
    nestingOfMembers members ≤ depth ↔ ∀ member ∈ members, member.2.nesting ≤ depth := by
  induction members with
  | nil => exact iff_of_true (Nat.zero_le _) nofun
  | cons member others inductionHypothesis =>
      rw [nestingOfMembers, Nat.max_le, inductionHypothesis, List.forall_mem_cons]

/-- A sorted list with a member put into it holds that member and some of its own. -/
theorem eq_or_mem_of_mem_insertMember
    {key : String}
    {value : Value}
    {sorted : List (String × Value)}
    {member : String × Value}
    (present : member ∈ insertMember key value sorted) :
    member = (key, value) ∨ member ∈ sorted := by
  induction sorted with
  | nil => exact .inl (List.mem_singleton.mp present)
  | cons held others inductionHypothesis =>
      rw [insertMember] at present
      split at present
      · exact List.mem_cons.mp present
      · split at present
        · exact (List.mem_cons.mp present).imp_right (List.mem_cons_of_mem held)
        · rcases List.mem_cons.mp present with rfl | behind
          · exact .inr List.mem_cons_self
          · exact (inductionHypothesis behind).imp_right (List.mem_cons_of_mem held)

theorem areSorted_insertMember
    {sorted : List (String × Value)}
    (ascending : AreSorted sorted)
    (key : String)
    (value : Value) :
    AreSorted (insertMember key value sorted) := by
  induction sorted with
  | nil => exact List.pairwise_singleton _ _
  | cons held others inductionHypothesis =>
      obtain ⟨below, othersAscend⟩ := List.pairwise_cons.mp ascending
      rw [insertMember]
      split
      · next before =>
          refine List.pairwise_cons.mpr ⟨List.forall_mem_cons.mpr ⟨before, ?_⟩, ascending⟩
          exact fun other behind => String.lt_trans before (below other behind)
      · next notBefore =>
          split
          · next same => exact List.pairwise_cons.mpr ⟨same ▸ below, othersAscend⟩
          · next different =>
              refine List.pairwise_cons.mpr
                ⟨fun other present => ?_, inductionHypothesis othersAscend⟩
              rcases eq_or_mem_of_mem_insertMember present with rfl | behind
              · exact Std.lt_of_le_of_ne (String.not_lt.mp notBefore) (Ne.symm different)
              · exact below other behind

/-- A member with the last key is put at the end. -/
theorem insertMember_of_last
    {key : String}
    {sorted : List (String × Value)}
    (last : ∀ member ∈ sorted, member.1 < key)
    (value : Value) :
    insertMember key value sorted = sorted ++ [(key, value)] := by
  induction sorted with
  | nil => rfl
  | cons held others inductionHypothesis =>
      obtain ⟨before, othersBefore⟩ := List.forall_mem_cons.mp last
      have different : key ≠ held.1 := fun same => String.lt_irrefl key (same ▸ before)
      rw [insertMember, if_neg (String.lt_asymm before), if_neg different,
        inductionHypothesis othersBefore, List.cons_append]

/-! ### Canonical form -/

mutual

/-- Canonical form is canonical. -/
theorem isCanonical_canonical : (value : Value) → value.canonical.IsCanonical
  | .null | .bool _ | .integer _ | .double _ | .text _ => trivial
  | .list items => areCanonical_canonicalItems items
  | .record members => canonicalMembers_isCanonical members [] List.Pairwise.nil trivial

/-- The items of a list in canonical form are canonical. -/
theorem areCanonical_canonicalItems :
    (items : List Value) → AreCanonical (canonicalItems items)
  | [] => trivial
  | item :: others => ⟨isCanonical_canonical item, areCanonical_canonicalItems others⟩

/-- Members put into a sorted list one after the other leave it sorted and canonical. -/
theorem canonicalMembers_isCanonical :
    (members : List (String × Value)) → (sorted : List (String × Value)) → AreSorted sorted →
      HaveCanonical sorted → IsCanonical (.record (canonicalMembers sorted members))
  | [], _, ascending, canonical => ⟨ascending, canonical⟩
  | (key, value) :: others, sorted, ascending, canonical => by
      refine canonicalMembers_isCanonical others _ (areSorted_insertMember ascending key _) ?_
      refine (haveCanonical_iff _).mpr fun member present => ?_
      rcases eq_or_mem_of_mem_insertMember present with rfl | held
      · exact isCanonical_canonical value
      · exact (haveCanonical_iff sorted).mp canonical member held

end

mutual

/-- A canonical value is its own canonical form. -/
theorem canonical_of_isCanonical : (value : Value) → value.IsCanonical → value.canonical = value
  | .null, _ | .bool _, _ | .integer _, _ | .double _, _ | .text _, _ => rfl
  | .list items, canonical => congrArg list (canonicalItems_of_areCanonical items canonical)
  | .record members, ⟨ascending, canonical⟩ =>
      congrArg record (canonicalMembers_of_haveCanonical members [] ascending canonical)

/-- Canonical items stay as they are. -/
theorem canonicalItems_of_areCanonical :
    (items : List Value) → AreCanonical items → canonicalItems items = items
  | [], _ => rfl
  | item :: others, ⟨itemCanonical, othersCanonical⟩ =>
      congrArg₂ List.cons (canonical_of_isCanonical item itemCanonical)
        (canonicalItems_of_areCanonical others othersCanonical)

/-- Canonical members that ascend are put one behind the other. -/
theorem canonicalMembers_of_haveCanonical :
    (members sorted : List (String × Value)) → AreSorted (sorted ++ members) →
      HaveCanonical members → canonicalMembers sorted members = sorted ++ members
  | [], sorted, _, _ => (List.append_nil sorted).symm
  | (key, value) :: others, sorted, ascending, ⟨valueCanonical, othersCanonical⟩ => by
      have last : ∀ member ∈ sorted, member.1 < key := fun member present =>
        (List.pairwise_append.mp ascending).2.2 member present (key, value) List.mem_cons_self
      rw [canonicalMembers, canonical_of_isCanonical value valueCanonical,
        insertMember_of_last last]
      rw [List.append_cons sorted (key, value) others] at ascending ⊢
      exact canonicalMembers_of_haveCanonical others _ ascending othersCanonical

end

/-- Canonical form is made once. -/
theorem canonical_canonical (value : Value) : value.canonical.canonical = value.canonical :=
  canonical_of_isCanonical value.canonical (isCanonical_canonical value)

mutual

/-- Canonical form nests no deeper than the value. -/
theorem nesting_canonical_le : (value : Value) → value.canonical.nesting ≤ value.nesting
  | .null | .bool _ | .integer _ | .double _ | .text _ => Nat.le_refl _
  | .list items => Nat.succ_le_succ (nestingOfItems_canonicalItems_le items)
  | .record members =>
      Nat.succ_le_succ
        (nestingOfMembers_canonicalMembers_le members [] (Nat.zero_le _) (Nat.le_refl _))

/-- Items in canonical form nest no deeper than the items. -/
theorem nestingOfItems_canonicalItems_le :
    (items : List Value) → nestingOfItems (canonicalItems items) ≤ nestingOfItems items
  | [] => Nat.le_refl _
  | item :: others =>
      Nat.max_le.mpr
        ⟨Nat.le_trans (nesting_canonical_le item) (Nat.le_max_left _ _),
          Nat.le_trans (nestingOfItems_canonicalItems_le others) (Nat.le_max_right _ _)⟩

/-- Members put into a list nest no deeper than the list and the members. -/
theorem nestingOfMembers_canonicalMembers_le :
    (members sorted : List (String × Value)) → {depth : Nat} →
      nestingOfMembers sorted ≤ depth → nestingOfMembers members ≤ depth →
        nestingOfMembers (canonicalMembers sorted members) ≤ depth
  | [], _, _, sortedWithin, _ => sortedWithin
  | (key, value) :: others, sorted, depth, sortedWithin, membersWithin => by
      rw [nestingOfMembers, Nat.max_le] at membersWithin
      refine nestingOfMembers_canonicalMembers_le others _ ?_ membersWithin.2
      refine (nestingOfMembers_le_iff _ _).mpr fun member present => ?_
      rcases eq_or_mem_of_mem_insertMember present with rfl | held
      · exact Nat.le_trans (nesting_canonical_le value) membersWithin.1
      · exact (nestingOfMembers_le_iff sorted depth).mp sortedWithin member held

end

end Value
end Json
end FuzzIntake
