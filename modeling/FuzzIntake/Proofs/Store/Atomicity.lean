import FuzzIntake.Proofs.Store.Regrouping

/-!
# Plans that fail leave no trace

A store in memory is asked to write plans, told to fail groups and closed, in any order.
Its rows and its journal are at every moment those of the plans it has written, one after
the other: a plan that fails, at whatever group, leaves behind only one failure less to
come, and a closed store does not even count what it refuses.
-/

namespace FuzzIntake
namespace LocalStore

/-- What a store in memory can be asked or told. -/
inductive Request
  | apply (plan : Plan)
  | injectFailures (group : RowGroup) (times : Nat)
  | close

/-- The store after a request. -/
def serve (store : LocalStore) : Request → LocalStore
  | .apply plan => (store.apply plan).2
  | .injectFailures group times => store.injectFailures group times
  | .close => store.close

/-- The plan that a request has written, if it has written one. -/
def written (store : LocalStore) : Request → List Plan
  | .apply plan => if (store.apply plan).1.isOk then [plan] else []
  | _ => []

/-- The store after requests one after the other; also the plans they have written. -/
def run : List Request → LocalStore → List Plan × LocalStore
  | [], store => ([], store)
  | request :: rest, store =>
      let (plans, last) := run rest (store.serve request)
      (store.written request ++ plans, last)

/-- The first group with rows that a store is told to fail. -/
structure IsFirstToFail (store : LocalStore) (plan : Plan) (group : RowGroup) : Prop where
  hasRows : 0 < plan.rows group
  isTold : 0 < store.failures group
  isFirst : ∃ earlier later, RowGroup.order = earlier ++ group :: later ∧
    ∀ other ∈ earlier, plan.rows other = 0 ∨ store.failures other = 0

/-! ## One plan -/

/-- What a store can make of a plan. -/
inductive Attempt (plan : Plan) (store : LocalStore) :
    Except StoreError Receipt → LocalStore → Prop
  /-- The store is closed. -/
  | refuse :
      store.closed = true →
      Attempt plan store (.error .closed) store
  /-- A group is told to fail. -/
  | fail {group : RowGroup} :
      store.closed = false → store.IsFirstToFail plan group →
      Attempt plan store (.error (.group group "injected failure"))
        ({ store with plansTaken := store.plansTaken + 1 }.injectFailures group
          (store.failures group - 1))
  /-- No group of the plan is told to fail. -/
  | commit :
      store.closed = false →
      (∀ group, plan.rows group = 0 ∨ store.failures group = 0) →
      Attempt plan store (.ok (plan.receipt (store.tables.nextFuzzers plan.fuzzers)))
        (store.commit plan)

/-- The group that fails is the first one that has rows and is told to fail. -/
theorem failingGroup?_eq (store : LocalStore) (plan : Plan) :
    store.failingGroup? plan =
      RowGroup.order.find? fun group => 0 < plan.rows group && 0 < store.failures group := by
  unfold failingGroup? Plan.groups
  rw [List.find?_filter]
  simp only [decide_eq_true_eq, Bool.decide_and]

/-- A group that a store fails at is the first to fail. -/
theorem isFirstToFail_of_failingGroup?
    {store : LocalStore}
    {plan : Plan}
    {group : RowGroup}
    (failing : store.failingGroup? plan = some group) :
    store.IsFirstToFail plan group := by
  rw [failingGroup?_eq, List.find?_eq_some_iff_append] at failing
  obtain ⟨fails, earlier, later, cut, pass⟩ := failing
  simp only [Bool.and_eq_true, decide_eq_true_eq] at fails
  refine ⟨fails.1, fails.2, earlier, later, cut, fun other before => ?_⟩
  have passes := pass other before
  simp only [Bool.not_eq_true', Bool.and_eq_false_iff, decide_eq_false_iff_not,
    Nat.not_lt, Nat.le_zero] at passes
  exact passes

/-- A plan at which no group fails has no group that has rows and is told to fail. -/
theorem passes_of_failingGroup?
    {store : LocalStore}
    {plan : Plan}
    (passing : store.failingGroup? plan = none)
    (group : RowGroup) :
    plan.rows group = 0 ∨ store.failures group = 0 := by
  rw [failingGroup?_eq, List.find?_eq_none] at passing
  have passes := passing group (by cases group <;> simp [RowGroup.order])
  simp only [Bool.and_eq_true, decide_eq_true_eq, not_and, Nat.not_lt, Nat.le_zero] at passes
  rcases Nat.eq_zero_or_pos (plan.rows group) with rowless | filled
  · exact .inl rowless
  · exact .inr (passes filled)

/-- A store refuses a plan, fails at one of its groups or writes it. -/
theorem attempt_of_apply
    {plan : Plan}
    {store next : LocalStore}
    {answer : Except StoreError Receipt}
    (applied : store.apply plan = (answer, next)) :
    Attempt plan store answer next := by
  unfold apply at applied
  split at applied
  · next closed =>
      obtain ⟨rfl, rfl⟩ := Prod.mk.inj applied
      exact .refuse closed
  · next opened =>
      have isOpen : store.closed = false := by simpa using opened
      have unchanged : failingGroup? { store with plansTaken := store.plansTaken + 1 } plan =
          store.failingGroup? plan := rfl
      simp only [unchanged] at applied
      cases failing : store.failingGroup? plan with
      | some group =>
          simp only [failing, Prod.mk.injEq] at applied
          obtain ⟨rfl, rfl⟩ := applied
          exact .fail isOpen (isFirstToFail_of_failingGroup? failing)
      | none =>
          simp only [failing, Prod.mk.injEq] at applied
          obtain ⟨rfl, rfl⟩ := applied
          exact .commit isOpen (passes_of_failingGroup? failing)

/-! ## Any requests -/

/-- A request leaves the rows and the journal of the plan it has written, if any. -/
theorem rows_serve (store : LocalStore) (request : Request) :
    (store.serve request).tables =
        (store.written request).foldl (fun tables plan => tables.applyPlan plan) store.tables ∧
      (store.serve request).journal =
        store.journal ++ (store.written request).flatMap Plan.groups := by
  cases request with
  | injectFailures group times => exact ⟨rfl, (List.append_nil _).symm⟩
  | close => exact ⟨rfl, (List.append_nil _).symm⟩
  | apply plan =>
      obtain ⟨⟨answer, next⟩, applied⟩ : ∃ result, store.apply plan = result := ⟨_, rfl⟩
      simp only [serve, written, applied]
      cases attempt_of_apply applied with
      | refuse closed => exact ⟨rfl, (List.append_nil _).symm⟩
      | fail opened first => exact ⟨rfl, (List.append_nil _).symm⟩
      | commit opened passes =>
          simp only [Except.isOk, Except.toBool, if_true, List.flatMap_singleton]
          exact ⟨rfl, rfl⟩

/-- Requests leave the rows and the journal of the plans they have written. -/
theorem rows_run (requests : List Request) (store : LocalStore) :
    (store.run requests).2.tables =
        (store.run requests).1.foldl (fun tables plan => tables.applyPlan plan) store.tables ∧
      (store.run requests).2.journal =
        store.journal ++ (store.run requests).1.flatMap Plan.groups := by
  induction requests generalizing store with
  | nil => exact ⟨rfl, (List.append_nil _).symm⟩
  | cons request rest inductionHypothesis =>
      obtain ⟨tables, journal⟩ := store.rows_serve request
      obtain ⟨restTables, restJournal⟩ := inductionHypothesis (store.serve request)
      unfold run
      refine ⟨?_, ?_⟩
      · rw [restTables, tables, ← List.foldl_append]
      · rw [restJournal, journal, List.append_assoc, ← List.flatMap_append]

/-- Only closing a store closes it, and nothing opens it again. -/
theorem closed_run (requests : List Request) (store : LocalStore) :
    (store.run requests).2.closed = true ↔ store.closed = true ∨ .close ∈ requests := by
  induction requests generalizing store with
  | nil => simp [run]
  | cons request rest inductionHypothesis =>
      change (run rest (store.serve request)).2.closed = true ↔ _
      rw [inductionHypothesis, List.mem_cons]
      cases request with
      | injectFailures group times => simp [serve, injectFailures]
      | close => simp [serve, close]
      | apply plan =>
          obtain ⟨⟨answer, next⟩, applied⟩ : ∃ result, store.apply plan = result := ⟨_, rfl⟩
          have same : next.closed = store.closed := by
            cases attempt_of_apply applied with
            | refuse closed => rfl
            | fail opened first => rfl
            | commit opened passes => rfl
          simp [serve, applied, same]

/--
After any requests to a new store its rows are those of the plans it has written, group by
group, and its journal lists their groups.  Whatever plan comes next: a store that was
closed refuses it and stays as it is; otherwise it is counted, and written exactly if no
group with rows is told to fail.  If it is not, the first such group is named, rows and
journal stay as they are, and of the failures to come only that group's are one less.
-/
theorem run_keeps_written_plans (requests : List Request) :
    let plans := (LocalStore.empty.run requests).1
    let store := (LocalStore.empty.run requests).2
    store.tables =
        plans.foldl (fun tables plan => plan.groups.foldl (Tables.applyGroup plan) tables)
          Tables.empty ∧
      store.journal = plans.flatMap Plan.groups ∧
      ∀ plan answer next, store.apply plan = (answer, next) →
        (answer = .error .closed ↔ .close ∈ requests) ∧
        (.close ∈ requests → next = store) ∧
        (.close ∉ requests → next.plansTaken = store.plansTaken + 1) ∧
        ((∃ receipt, answer = .ok receipt) ↔
          .close ∉ requests ∧ ∀ group, plan.rows group = 0 ∨ store.failures group = 0) ∧
        ∀ group detail, answer = .error (.group group detail) →
          store.IsFirstToFail plan group ∧
          next.tables = store.tables ∧
          next.journal = store.journal ∧
          next.failures group + 1 = store.failures group ∧
          ∀ other, other ≠ group → next.failures other = store.failures other := by
  intro plans store
  obtain ⟨tables, journal⟩ := rows_run requests .empty
  have closed : store.closed = true ↔ .close ∈ requests :=
    (closed_run requests .empty).trans (or_iff_right Bool.false_ne_true)
  refine ⟨tables, journal, fun plan answer next applied => ?_⟩
  rw [← closed]
  clear_value store
  cases attempt_of_apply applied with
  | refuse refused => simp [refused]
  | @fail group opened first =>
      have told := first.isTold
      have someFails : ¬ ∀ other, plan.rows other = 0 ∨ store.failures other = 0 := by
        intro passes
        have hasRows := first.hasRows
        have passed := passes group
        omega
      refine ⟨by simp [opened], by simp [opened], fun _ => rfl, by simp [someFails], ?_⟩
      rintro other detail same
      obtain ⟨rfl, -⟩ := StoreError.group.inj (Except.error.inj same)
      refine ⟨first, rfl, rfl, ?_, fun other different => ?_⟩
      · simp only [injectFailures, if_true]
        omega
      · simp only [injectFailures, different, if_false]
  | commit opened passes =>
      refine ⟨by simp [opened], by simp [opened], fun _ => rfl, ?_, ?_⟩
      · exact ⟨fun _ => ⟨by simp [opened], passes⟩, fun _ => ⟨_, rfl⟩⟩
      · rintro group detail same
        exact nomatch same

end LocalStore
end FuzzIntake
