import FuzzIntake.Proofs.Store.Regrouping
import Mathlib.Algebra.GroupWithZero.Nat

/-!
# Splitting operations by group

Plans are joined group by group, and the plan of operations that follow others is joined to the
plan of those.  Every operation is one row of one group.  So a plan has a row for each of its
operations, none of them is lost, and the rows of a group come in the order of arrival with what
their operations carry.  Only a batch without operations is kept from its store.
-/

namespace FuzzIntake

namespace Operation

/-- The group in which an operation is written. -/
def rowGroup : Operation → RowGroup
  | .createFuzzer => .programs
  | .fuzzerProgram _ _ => .programs
  | .testProgram _ _ => .programs
  | .execution _ => .executions
  | .updateFeedback _ _ => .feedback
  | .delete _ => .deletes

/-- The program that an operation inserts. -/
def programRow? : Operation → Option ProgramRow
  | .fuzzerProgram program fuzzerId => some ⟨program, fuzzerId⟩
  | .testProgram program fuzzerId => some ⟨program, fuzzerId⟩
  | _ => none

/-- The run that an operation inserts. -/
def executionRow? : Operation → Option ExecutionRow
  | .execution run =>
      some ⟨run.program, run.categoryId,
        ⟨run.feedback, run.intermediateCode, run.coverage, run.flags⟩⟩
  | _ => none

/-- The feedback that an operation sets. -/
def feedbackRow? : Operation → Option FeedbackRow
  | .updateFeedback program feedback => some ⟨program, feedback⟩
  | _ => none

/-- The program that an operation deletes. -/
def deleted? : Operation → Option String
  | .delete program => some program
  | _ => none

end Operation

/-- Every group has its place in the order. -/
theorem RowGroup.mem_order (group : RowGroup) : group ∈ RowGroup.order := by
  cases group <;> decide

namespace Plan

/-- Two plans joined group by group. -/
def append (first second : Plan) : Plan where
  fuzzers := first.fuzzers + second.fuzzers
  programs := first.programs ++ second.programs
  executions := first.executions ++ second.executions
  feedback := first.feedback ++ second.feedback
  deletes := first.deletes ++ second.deletes

/-- The number of rows in all groups. -/
def size (plan : Plan) : Nat :=
  (RowGroup.order.map plan.rows).sum

/-- A plan holds operations, each of them as one row of its group, and nothing else. -/
structure Holds (plan : Plan) (operations : List Operation) : Prop where
  fuzzers : plan.fuzzers = operations.countP Operation.requestsFuzzer
  programs : plan.programs = operations.filterMap Operation.programRow?
  executions : plan.executions = operations.filterMap Operation.executionRow?
  feedback : plan.feedback = operations.filterMap Operation.feedbackRow?
  deletes : plan.deletes = operations.filterMap Operation.deleted?
  rows : ∀ group, plan.rows group =
    operations.countP fun operation => operation.rowGroup = group
  size : plan.size = operations.length
  groups : plan.groups.Sublist RowGroup.order ∧
    ∀ group, group ∈ plan.groups ↔ 0 < plan.rows group
  isEmpty : plan.isEmpty = true ↔ operations = []

/-! ## Joining plans -/

@[simp] theorem empty_append (plan : Plan) : empty.append plan = plan := by
  simp [append, empty]

@[simp] theorem append_empty (plan : Plan) : plan.append empty = plan := by
  simp [append, empty]

theorem append_assoc (first second third : Plan) :
    (first.append second).append third = first.append (second.append third) := by
  simp [append, Nat.add_assoc]

@[simp] theorem rows_append (first second : Plan) (group : RowGroup) :
    (first.append second).rows group = first.rows group + second.rows group := by
  cases group with
  | programs =>
      simp only [rows, append, List.length_append]
      omega
  | executions => exact List.length_append
  | feedback => exact List.length_append
  | deletes => exact List.length_append

@[simp] theorem size_append (first second : Plan) :
    (first.append second).size = first.size + second.size := by
  simp only [size, RowGroup.order, List.map_cons, List.map_nil, List.sum_cons, List.sum_nil,
    rows_append]
  omega

/-- A plan with one more operation is joined to the plan of that operation. -/
theorem add_eq_append (plan : Plan) (operation : Operation) :
    plan.add operation = plan.append (ofOperations [operation]) := by
  cases operation <;> simp [add, append, ofOperations, empty]

/-- Operations that are added to a plan are joined to it as a plan of their own. -/
theorem foldl_add (operations : List Operation) (plan : Plan) :
    operations.foldl add plan = plan.append (ofOperations operations) := by
  induction operations generalizing plan with
  | nil => exact plan.append_empty.symm
  | cons operation rest inductionHypothesis =>
      have single : ofOperations (operation :: rest) =
          (ofOperations [operation]).append (ofOperations rest) :=
        inductionHypothesis (empty.add operation)
      rw [List.foldl_cons, inductionHypothesis, single, add_eq_append, append_assoc]

/-- The plan of operations after others is joined to the plan of the others. -/
theorem ofOperations_append (before after : List Operation) :
    ofOperations (before ++ after) = (ofOperations before).append (ofOperations after) := by
  rw [ofOperations, List.foldl_append, foldl_add]
  rfl

theorem ofOperations_cons (operation : Operation) (rest : List Operation) :
    ofOperations (operation :: rest) =
      (ofOperations [operation]).append (ofOperations rest) :=
  ofOperations_append [operation] rest

/-! ## The rows of operations -/

/-- An operation is one row of its group. -/
theorem rows_singleton (operation : Operation) (group : RowGroup) :
    (ofOperations [operation]).rows group = if operation.rowGroup = group then 1 else 0 := by
  cases operation <;> cases group <;> rfl

/-- An operation is one row in all. -/
theorem size_singleton (operation : Operation) : (ofOperations [operation]).size = 1 := by
  cases operation <;> rfl

theorem rows_ofOperations (operations : List Operation) (group : RowGroup) :
    (ofOperations operations).rows group =
      operations.countP fun operation => operation.rowGroup = group := by
  induction operations with
  | nil => cases group <;> rfl
  | cons operation rest inductionHypothesis =>
      rw [ofOperations_cons, rows_append, rows_singleton, inductionHypothesis, List.countP_cons,
        Nat.add_comm]
      simp only [decide_eq_true_eq]

theorem size_ofOperations (operations : List Operation) :
    (ofOperations operations).size = operations.length := by
  induction operations with
  | nil => rfl
  | cons operation rest inductionHypothesis =>
      rw [ofOperations_cons, size_append, size_singleton, inductionHypothesis, List.length_cons,
        Nat.add_comm]

/-- The groups of a plan are those with rows. -/
theorem mem_groups_iff (plan : Plan) (group : RowGroup) :
    group ∈ plan.groups ↔ 0 < plan.rows group := by
  rw [groups, List.mem_filter, decide_eq_true_eq]
  exact and_iff_right group.mem_order

/-- A plan asks for nothing if it has no rows. -/
theorem isEmpty_iff_size (plan : Plan) : plan.isEmpty = true ↔ plan.size = 0 := by
  simp only [isEmpty, size, RowGroup.order, rows, List.map_cons, List.map_nil, List.sum_cons,
    List.sum_nil, Bool.and_eq_true, beq_iff_eq, List.isEmpty_iff, ← List.length_eq_zero_iff]
  omega

/-- Rows that are joined with their plans are those of the operations, in the order of arrival. -/
theorem filterMap_of_joins
    {ρ : Type}
    {kept : Plan → List ρ}
    {row? : Operation → Option ρ}
    (rowless : kept empty = [])
    (single : ∀ operation, kept (ofOperations [operation]) = (row? operation).toList)
    (joins : ∀ first second, kept (first.append second) = kept first ++ kept second)
    (operations : List Operation) :
    kept (ofOperations operations) = operations.filterMap row? := by
  induction operations with
  | nil => exact rowless
  | cons operation rest inductionHypothesis =>
      rw [ofOperations_cons, joins, single, inductionHypothesis, List.filterMap_cons]
      cases row? operation <;> rfl

/-- The plan of operations holds them. -/
theorem holds_ofOperations (operations : List Operation) :
    (ofOperations operations).Holds operations where
  fuzzers := fuzzers_ofOperations operations
  programs := by
    apply filterMap_of_joins rfl _ fun _ _ => rfl
    intro operation
    cases operation <;> rfl
  executions := by
    apply filterMap_of_joins rfl _ fun _ _ => rfl
    intro operation
    cases operation <;> rfl
  feedback := by
    apply filterMap_of_joins rfl _ fun _ _ => rfl
    intro operation
    cases operation <;> rfl
  deletes := by
    apply filterMap_of_joins rfl _ fun _ _ => rfl
    intro operation
    cases operation <;> rfl
  rows := rows_ofOperations operations
  size := size_ofOperations operations
  groups := ⟨List.filter_sublist, mem_groups_iff _⟩
  isEmpty := by
    rw [isEmpty_iff_size, size_ofOperations, List.length_eq_zero_iff]

end Plan

/-! ## What reaches a store -/

/-- A store and the plans that reached it. -/
structure Recorded (σ : Type) where
  /-- The store. -/
  store : σ
  /-- The plans that reached the store, oldest first. -/
  plans : List Plan

instance {σ : Type} [PlanStore σ] : PlanStore (Recorded σ) where
  apply plan recorded :=
    let (answer, store) := PlanStore.apply plan recorded.store
    (answer, ⟨store, recorded.plans ++ [plan]⟩)
  close recorded := { recorded with store := PlanStore.close recorded.store }

variable {σ : Type} [PlanStore σ]

/-- A batch without operations is written without its store. -/
theorem Batch.writeTo_nil (worker : Nat) (store : σ) :
    (⟨[]⟩ : Batch).writeTo worker store = (.ok .empty, store) :=
  rfl

/-- A batch with operations is answered by its store, which takes the plan of the operations. -/
theorem Batch.writeTo_of_ne_nil
    {batch : Batch}
    (filled : batch.operations ≠ [])
    (worker : Nat)
    (store : σ) :
    batch.writeTo worker store =
      (((PlanStore.apply (Plan.ofOperations batch.operations) store).1.mapError
          fun source => ⟨worker, batch.size, source⟩),
        (PlanStore.apply (Plan.ofOperations batch.operations) store).2) := by
  have asks : ¬ (Plan.ofOperations batch.operations).isEmpty = true := by
    rwa [(Plan.holds_ofOperations batch.operations).isEmpty]
  rw [writeTo, if_neg asks]

/--
The plan of operations holds each of them as one row of its group, in the order of arrival.  The
plan of two lists of operations joins their plans.  A batch with operations reaches its store, as
its plan and once, and has the answer of the store; a batch without operations does not reach it.
-/
theorem Plan.splits_operations
    (before after : List Operation)
    (worker : Nat)
    (recorded : Recorded σ) :
    (ofOperations before).Holds before ∧
      ofOperations (before ++ after) = (ofOperations before).append (ofOperations after) ∧
      (⟨before⟩ : Batch).writeTo worker recorded =
        if before = [] then
          (.ok .empty, recorded)
        else
          let plan := ofOperations before
          let (answer, store) := PlanStore.apply plan recorded.store
          (answer.mapError fun source => ⟨worker, before.length, source⟩,
            ⟨store, recorded.plans ++ [plan]⟩) := by
  refine ⟨holds_ofOperations before, ofOperations_append before after, ?_⟩
  by_cases nothing : before = []
  · subst nothing
    rw [Batch.writeTo_nil, if_pos rfl]
  · rw [Batch.writeTo_of_ne_nil nothing, if_neg nothing]
    rfl

end FuzzIntake
