import FuzzIntake.Proofs.Data.List
import FuzzIntake.Proofs.Store.Commutation
import FuzzIntake.Store.BatchWrite
import FuzzIntake.Store.Local

/-!
# Regrouping does not change what is stored

A batch is written group by group, so its operations reach the tables in another
order than they arrived in.  Every pair that changes places commutes unless a run
follows feedback for its program, or a program or run follows the deletion of its
program.  Where no such pair arrives, every way of cutting the operations into
batches leaves the tables and hands out the fuzzers that the operations leave and
hand out one by one.
-/

namespace FuzzIntake

/--
Whether an operation may arrive before another one without the two changing places
in a common batch.
-/
def Operation.MayPrecede : Operation → Operation → Prop
  | .updateFeedback program _, .execution run => run.program ≠ program
  | .delete program, .fuzzerProgram other _ => other ≠ program
  | .delete program, .testProgram other _ => other ≠ program
  | .delete program, .execution run => run.program ≠ program
  | _, _ => True

/-- Whether an operation asks for a new fuzzer. -/
def Operation.requestsFuzzer : Operation → Bool
  | .createFuzzer => true
  | _ => false

namespace Plan

/-- Whether the write of an operation may be moved behind the writes of a plan. -/
def MayPrecede (plan : Plan) : Operation → Prop
  | .fuzzerProgram program _ => ∀ deleted ∈ plan.deletes, program ≠ deleted
  | .testProgram program _ => ∀ deleted ∈ plan.deletes, program ≠ deleted
  | .execution run =>
      (∀ change ∈ plan.feedback, run.program ≠ change.program) ∧
        ∀ deleted ∈ plan.deletes, run.program ≠ deleted
  | _ => True

/-- A plan that takes one more operation may precede what both of them may precede. -/
theorem MayPrecede.add
    {plan : Plan}
    {earlier later : Operation}
    (allowed : plan.MayPrecede later)
    (ordered : earlier.MayPrecede later) :
    (plan.add earlier).MayPrecede later := by
  cases later <;> cases earlier <;>
    simp_all [MayPrecede, Plan.add, Operation.MayPrecede, or_imp]

end Plan

namespace Tables

/-- A group without rows writes nothing. -/
theorem applyGroup_of_rows_eq_zero
    {plan : Plan}
    {group : RowGroup}
    (empty : plan.rows group = 0)
    (tables : Tables) :
    applyGroup plan tables group = tables := by
  cases group <;> simp_all [Plan.rows, applyGroup, List.length_eq_zero_iff]

/-- A plan is written group by group: programs, runs, feedback, deletions. -/
theorem applyPlan_eq (plan : Plan) (tables : Tables) :
    tables.applyPlan plan =
      plan.deletes.foldl deleteProgram
        (plan.feedback.foldl setFeedback
          (plan.executions.foldl insertExecution
            (plan.programs.foldl insertProgram (tables.addFuzzers plan.fuzzers)))) := by
  change plan.groups.foldl (applyGroup plan) tables =
    RowGroup.order.foldl (applyGroup plan) tables
  rw [Plan.groups, List.foldl_filter]
  congr 1
  funext written group
  split
  · rfl
  · rename_i rowless
    rw [applyGroup_of_rows_eq_zero]
    simpa using rowless

/-- The insert of a program moves behind runs, feedback and deletions of other programs. -/
theorem insertProgram_behind
    (row : ProgramRow)
    {executions : List ExecutionRow}
    {feedback : List FeedbackRow}
    {deletes : List String}
    (kept : ∀ deleted ∈ deletes, row.program ≠ deleted)
    (tables : Tables) :
    deletes.foldl deleteProgram
        (feedback.foldl setFeedback
          (executions.foldl insertExecution (tables.insertProgram row))) =
      (deletes.foldl deleteProgram
        (feedback.foldl setFeedback
          (executions.foldl insertExecution tables))).insertProgram row := by
  rw [List.foldl_of_commutes (insertProgram · row) fun _ _ _ => rfl,
    List.foldl_of_commutes (insertProgram · row) fun _ _ _ => rfl,
    List.foldl_of_commutes (insertProgram · row) fun deleted present written =>
      insertProgram_deleteProgram written (kept deleted present)]

/-- The write of an operation that a plan may precede can wait until the plan is written.  A request
for a fuzzer moves behind all four groups, a row behind those it does not meet. -/
theorem applyPlan_add
    {plan : Plan}
    {operation : Operation}
    (allowed : plan.MayPrecede operation)
    (tables : Tables) :
    tables.applyPlan (plan.add operation) = (tables.applyPlan plan).perform operation := by
  rw [applyPlan_eq, applyPlan_eq]
  cases operation with
  | createFuzzer =>
      simp only [Plan.add, perform, ← addFuzzers_addFuzzers]
      rw [List.foldl_of_commutes (addFuzzers · 1) fun _ _ _ => rfl,
        List.foldl_of_commutes (addFuzzers · 1) fun _ _ _ => rfl,
        List.foldl_of_commutes (addFuzzers · 1) fun _ _ _ => rfl,
        List.foldl_of_commutes (addFuzzers · 1) fun _ _ _ => rfl]
  | fuzzerProgram program fuzzerId =>
      simp only [Plan.add, perform, List.foldl_append, List.foldl_cons, List.foldl_nil]
      exact insertProgram_behind ⟨program, fuzzerId⟩ allowed _
  | testProgram program fuzzerId =>
      simp only [Plan.add, perform, List.foldl_append, List.foldl_cons, List.foldl_nil]
      exact insertProgram_behind ⟨program, fuzzerId⟩ allowed _
  | execution run =>
      obtain ⟨noFeedback, noDelete⟩ := allowed
      simp only [Plan.add, perform, List.foldl_append, List.foldl_cons, List.foldl_nil]
      rw [List.foldl_of_commutes (insertExecution · _) fun change present written =>
          insertExecution_setFeedback written (noFeedback change present),
        List.foldl_of_commutes (insertExecution · _) fun deleted present written =>
          insertExecution_deleteProgram written (noDelete deleted present)]
  | updateFeedback program feedback =>
      simp only [Plan.add, perform, List.foldl_append, List.foldl_cons, List.foldl_nil]
      rw [List.foldl_of_commutes (setFeedback · _) fun deleted _ written =>
          setFeedback_deleteProgram written _ deleted]
  | delete program =>
      simp only [Plan.add, perform, List.foldl_append, List.foldl_cons, List.foldl_nil]

/-- Operations that may precede each other can be added to a plan or performed one by one. -/
theorem applyPlan_foldl_add
    {operations : List Operation}
    {plan : Plan}
    (orderly : operations.Pairwise Operation.MayPrecede)
    (allowed : ∀ operation ∈ operations, plan.MayPrecede operation)
    (tables : Tables) :
    tables.applyPlan (operations.foldl Plan.add plan) =
      operations.foldl perform (tables.applyPlan plan) := by
  induction operations generalizing plan with
  | nil => rfl
  | cons operation rest inductionHypothesis =>
      obtain ⟨first, later⟩ := List.pairwise_cons.mp orderly
      have restAllowed : ∀ other ∈ rest, (plan.add operation).MayPrecede other := by
        intro other present
        exact (allowed other (List.mem_cons_of_mem operation present)).add
          (first other present)
      rw [List.foldl_cons, List.foldl_cons, inductionHypothesis later restAllowed,
        applyPlan_add (allowed operation List.mem_cons_self)]

/-- A whole batch of such operations is written as if each were performed on arrival. -/
theorem applyPlan_ofOperations
    {operations : List Operation}
    (orderly : operations.Pairwise Operation.MayPrecede)
    (tables : Tables) :
    tables.applyPlan (Plan.ofOperations operations) = operations.foldl perform tables := by
  apply applyPlan_foldl_add orderly
  intro operation _
  cases operation <;> simp [Plan.MayPrecede, Plan.empty]

/-- Only requests for fuzzers change the number of fuzzers. -/
theorem fuzzers_foldl_perform (operations : List Operation) (tables : Tables) :
    (operations.foldl perform tables).fuzzers =
      tables.fuzzers + operations.countP Operation.requestsFuzzer := by
  induction operations generalizing tables with
  | nil => rfl
  | cons operation rest inductionHypothesis =>
      rw [List.foldl_cons, inductionHypothesis, List.countP_cons]
      cases operation <;> simp [perform, Operation.requestsFuzzer]
      omega

/-- The numbers of several fuzzers continue where the first ones end. -/
theorem nextFuzzers_add
    {tables later : Tables}
    {first : Nat}
    (advanced : later.fuzzers = tables.fuzzers + first)
    (second : Nat) :
    tables.nextFuzzers (first + second) =
      tables.nextFuzzers first ++ later.nextFuzzers second := by
  simp only [nextFuzzers, List.range_add, List.map_append, List.map_map, advanced]
  congr 1
  apply List.map_congr_left
  intro index _
  simp only [Function.comp_apply]
  omega

end Tables

/-- The requests for fuzzers of a plan are those of its operations. -/
theorem Plan.fuzzers_ofOperations (operations : List Operation) :
    (Plan.ofOperations operations).fuzzers = operations.countP Operation.requestsFuzzer := by
  have counted : ∀ plan : Plan, (operations.foldl Plan.add plan).fuzzers =
      plan.fuzzers + operations.countP Operation.requestsFuzzer := by
    induction operations with
    | nil => intro plan; rfl
    | cons operation rest inductionHypothesis =>
        intro plan
        rw [List.foldl_cons, inductionHypothesis, List.countP_cons]
        cases operation <;> simp [Plan.add, Operation.requestsFuzzer]
        omega
  rw [ofOperations, counted]
  simp [Plan.empty]

/-- An open store that is not told to fail. -/
structure LocalStore.IsReady (store : LocalStore) : Prop where
  /-- The store takes plans. -/
  opened : store.closed = false
  /-- No group is told to fail. -/
  unharmed : ∀ group, store.failures group = 0

namespace LocalStore

/-- An open store that has written a plan. -/
def commit (plan : Plan) (store : LocalStore) : LocalStore :=
  { store with
    plansTaken := store.plansTaken + 1
    tables := store.tables.applyPlan plan
    journal := store.journal ++ plan.groups }

/-- A ready store writes every plan. -/
theorem IsReady.apply_eq
    {store : LocalStore}
    (ready : store.IsReady)
    (plan : Plan) :
    store.apply plan =
      (.ok (plan.receipt (store.tables.nextFuzzers plan.fuzzers)), store.commit plan) := by
  have noFailure : failingGroup? { store with plansTaken := store.plansTaken + 1 } plan = none := by
    simp [failingGroup?, ready.unharmed]
  rw [apply, if_neg (by simp [ready.opened])]
  simp only [noFailure]
  rfl

/-- A ready store stays ready. -/
theorem IsReady.commit
    {store : LocalStore}
    (ready : store.IsReady)
    (plan : Plan) :
    (store.commit plan).IsReady :=
  ⟨ready.opened, ready.unharmed⟩

end LocalStore

namespace Batch

/-- Write batches one after the other to a store in the name of a worker; also the results. -/
def writeAll {σ : Type} [PlanStore σ] (worker : Nat) :
    List Batch → σ → List (Except BatchFailure Receipt) × σ
  | [], store => ([], store)
  | batch :: rest, store =>
      let (result, store) := batch.writeTo worker store
      let (results, store) := writeAll worker rest store
      (result :: results, store)

/-- The numbers of the fuzzers that successful writes handed out, in order. -/
def fuzzerIds (results : List (Except BatchFailure Receipt)) : List Int :=
  results.flatMap fun
    | .ok receipt => receipt.fuzzerIds
    | .error _ => []

/--
A ready store writes a batch, and the batch hands out the next fuzzers; a batch
without operations leaves the store alone, which comes to the same.
-/
theorem writeTo_of_isReady
    {store : LocalStore}
    (ready : store.IsReady)
    (worker : Nat)
    (batch : Batch) :
    ∃ receipt after, batch.writeTo worker store = (.ok receipt, after) ∧
      receipt.fuzzerIds =
        store.tables.nextFuzzers (batch.operations.countP Operation.requestsFuzzer) ∧
      after.tables = store.tables.applyPlan (Plan.ofOperations batch.operations) ∧
      after.IsReady := by
  rw [← Plan.fuzzers_ofOperations]
  generalize planned : Plan.ofOperations batch.operations = plan
  cases rowless : plan.isEmpty with
  | true =>
      refine ⟨.empty, store, ?_, ?_, ?_, ready⟩
      · simp only [writeTo, planned, rowless, if_true]
      · have none : plan.fuzzers = 0 := by simp_all [Plan.isEmpty]
        simp [none, Tables.nextFuzzers, Receipt.empty]
      · simp_all [Plan.isEmpty, Tables.applyPlan_eq]
  | false =>
      refine ⟨plan.receipt (store.tables.nextFuzzers plan.fuzzers), store.commit plan,
        ?_, rfl, rfl, ready.commit plan⟩
      simp only [writeTo, planned, rowless]
      change ((store.apply plan).1.mapError _, (store.apply plan).2) = _
      rw [ready.apply_eq]
      rfl

/--
A ready store writes all batches of an orderly sequence as if each operation were
performed on arrival.
-/
theorem writeAll_of_orderly
    {store : LocalStore}
    (ready : store.IsReady)
    (worker : Nat)
    {batches : List Batch}
    (orderly : (batches.flatMap Batch.operations).Pairwise Operation.MayPrecede) :
    (∀ result ∈ (writeAll worker batches store).1, ∃ receipt, result = .ok receipt) ∧
      fuzzerIds (writeAll worker batches store).1 =
        store.tables.nextFuzzers
          ((batches.flatMap Batch.operations).countP Operation.requestsFuzzer) ∧
      (writeAll worker batches store).2.tables =
        (batches.flatMap Batch.operations).foldl Tables.perform store.tables := by
  induction batches generalizing store with
  | nil => simp [writeAll, fuzzerIds, Tables.nextFuzzers]
  | cons batch rest inductionHypothesis =>
      rw [List.flatMap_cons] at orderly ⊢
      obtain ⟨batchOrderly, restOrderly, _⟩ := List.pairwise_append.mp orderly
      obtain ⟨receipt, after, written, numbered, stored, afterReady⟩ :=
        writeTo_of_isReady ready worker batch
      rw [Tables.applyPlan_ofOperations batchOrderly] at stored
      obtain ⟨restSucceed, restNumbered, restStored⟩ :=
        inductionHypothesis afterReady restOrderly
      have advanced : after.tables.fuzzers = store.tables.fuzzers +
          batch.operations.countP Operation.requestsFuzzer := by
        rw [stored, Tables.fuzzers_foldl_perform]
      simp only [writeAll, written]
      refine ⟨?_, ?_, ?_⟩
      · intro result present
        rcases List.mem_cons.mp present with rfl | inRest
        · exact ⟨receipt, rfl⟩
        · exact restSucceed result inRest
      · rw [List.countP_append, Tables.nextFuzzers_add advanced, ← restNumbered, ← numbered]
        rfl
      · rw [restStored, stored, List.foldl_append]

/--
Two ways of cutting an orderly sequence of operations into batches store the same:
every batch is written, both leave the tables that the operations leave one by one,
and both hand out the same fuzzers.
-/
theorem writeAll_eq_of_same_operations
    {store : LocalStore}
    (ready : store.IsReady)
    (worker : Nat)
    {operations : List Operation}
    (orderly : operations.Pairwise Operation.MayPrecede)
    {left right : List Batch}
    (leftCut : left.flatMap Batch.operations = operations)
    (rightCut : right.flatMap Batch.operations = operations) :
    (∀ result ∈ (writeAll worker left store).1, ∃ receipt, result = .ok receipt) ∧
      (writeAll worker left store).2.tables = (writeAll worker right store).2.tables ∧
      fuzzerIds (writeAll worker left store).1 = fuzzerIds (writeAll worker right store).1 ∧
      (writeAll worker left store).2.tables =
        operations.foldl Tables.perform store.tables := by
  obtain ⟨leftSucceeds, leftNumbered, leftStored⟩ :=
    writeAll_of_orderly ready worker (leftCut.symm ▸ orderly)
  obtain ⟨_, rightNumbered, rightStored⟩ :=
    writeAll_of_orderly ready worker (rightCut.symm ▸ orderly)
  rw [leftCut] at leftNumbered leftStored
  rw [rightCut] at rightNumbered rightStored
  exact ⟨leftSucceeds, leftStored.trans rightStored.symm,
    leftNumbered.trans rightNumbered.symm, leftStored⟩

/-- One batch and two batches around a deletion store the same. -/
theorem writeAll_one_batch_or_two :
    LocalStore.empty.IsReady ∧
      [Operation.delete "a", .testProgram "b" 1, .createFuzzer, .updateFeedback "b" none,
        .delete "b"].Pairwise Operation.MayPrecede ∧
      (writeAll 0 [⟨[.delete "a", .testProgram "b" 1, .createFuzzer, .updateFeedback "b" none,
          .delete "b"]⟩] LocalStore.empty).2.tables =
        (writeAll 0 [⟨[.delete "a", .testProgram "b" 1]⟩,
          ⟨[.createFuzzer, .updateFeedback "b" none, .delete "b"]⟩] LocalStore.empty).2.tables := by
  have ready : LocalStore.empty.IsReady := ⟨rfl, fun _ => rfl⟩
  have orderly : [Operation.delete "a", .testProgram "b" 1, .createFuzzer,
      .updateFeedback "b" none, .delete "b"].Pairwise Operation.MayPrecede := by
    simp [Operation.MayPrecede]
  exact ⟨ready, orderly, (writeAll_eq_of_same_operations ready 0 orderly rfl rfl).2.1⟩

end Batch
end FuzzIntake
