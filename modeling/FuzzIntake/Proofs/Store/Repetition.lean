import FuzzIntake.Proofs.Store.Regrouping
import FuzzIntake.Proofs.Store.Reporters

/-!
# Operations that come again

An operation performed again directly after itself leaves the rows as they are; only what is
counted tells the difference.  Operations that are delivered again therefore store what they
store when each of them comes once, however the two are cut into batches.
-/

namespace FuzzIntake

namespace Operation

/-- Operations in order, each as often again after itself as its number says. -/
def delivered (deliveries : List (Operation × Nat)) : List Operation :=
  deliveries.flatMap fun delivery => List.replicate (delivery.2 + 1) delivery.1

/-- An operation may arrive before itself. -/
theorem mayPrecede_self (operation : Operation) : operation.MayPrecede operation := by
  cases operation <;> exact trivial

/-- Operations that may precede each other still do when some of them come again. -/
theorem pairwise_delivered
    {deliveries : List (Operation × Nat)}
    (orderly : (deliveries.map Prod.fst).Pairwise MayPrecede) :
    (delivered deliveries).Pairwise MayPrecede := by
  rw [List.pairwise_map] at orderly
  refine List.pairwise_flatMap.mpr ⟨?_, orderly.imp ?_⟩
  · intro delivery _
    exact List.pairwise_replicate.mpr (.inr delivery.1.mayPrecede_self)
  · intro earlier later ordered first isFirst second isSecond
    rwa [List.eq_of_mem_replicate isFirst, List.eq_of_mem_replicate isSecond]

end Operation

namespace Tables

/-- Tables with the same runs and the same programs of the same fuzzers, whatever they count. -/
structure SameRows (left right : Tables) : Prop where
  reporters : left.reporters = right.reporters
  executions : left.executions = right.executions

variable {left right : Tables}

theorem SameRows.refl (tables : Tables) : tables.SameRows tables :=
  ⟨rfl, rfl⟩

theorem SameRows.trans
    {middle : Tables}
    (first : left.SameRows middle)
    (second : middle.SameRows right) :
    left.SameRows right :=
  ⟨first.reporters.trans second.reporters, first.executions.trans second.executions⟩

/-- The insert of a program leaves the fuzzer of one that is there. -/
theorem reporters_insertProgram (tables : Tables) (row : ProgramRow) :
    (tables.insertProgram row).reporters =
      tables.reporters.insertIfNew row.program row.fuzzerId := by
  apply Std.ExtTreeMap.ext_getElem?
  intro program
  have inserted := getElem?_reporters_foldl_insertProgram [row] tables program
  rw [List.foldl_cons, List.foldl_nil] at inserted
  rw [inserted]
  exact (Statement.getElem?_changeReporters_insertPrograms [row] tables.reporters program).symm

theorem reporters_deleteProgram (tables : Tables) (program : String) :
    (tables.deleteProgram program).reporters = tables.reporters.erase program := by
  unfold reporters deleteProgram
  apply Std.ExtTreeMap.ext_getElem?
  intro other
  simp only [Std.ExtTreeMap.getElem?_map, Std.ExtTreeMap.getElem?_erase]
  split
  · rfl
  · rfl

/-- An operation makes the same rows of the same rows. -/
theorem SameRows.perform
    (same : left.SameRows right)
    (operation : Operation) :
    (left.perform operation).SameRows (right.perform operation) := by
  obtain ⟨reporters, executions⟩ := same
  have inserted (row : ProgramRow) :
      (left.insertProgram row).SameRows (right.insertProgram row) :=
    ⟨by rw [reporters_insertProgram, reporters_insertProgram, reporters], executions⟩
  cases operation with
  | createFuzzer => exact ⟨reporters, executions⟩
  | fuzzerProgram program fuzzerId => exact inserted ⟨program, fuzzerId⟩
  | testProgram program fuzzerId => exact inserted ⟨program, fuzzerId⟩
  | execution run => exact ⟨reporters, by simp only [Tables.perform, insertExecution, executions]⟩
  | updateFeedback program feedback =>
      exact ⟨reporters, by simp only [Tables.perform, setFeedback, executions]⟩
  | delete program =>
      refine ⟨?_, by simp only [Tables.perform, deleteProgram, executions]⟩
      simp only [Tables.perform, reporters_deleteProgram, reporters]

/-! ## Once more is as good as once -/

/-- A program that was just inserted is there, and its fuzzer stays. -/
theorem sameRows_insertProgram_again (tables : Tables) (row : ProgramRow) :
    ((tables.insertProgram row).insertProgram row).SameRows (tables.insertProgram row) := by
  refine ⟨?_, rfl⟩
  rw [reporters_insertProgram, reporters_insertProgram]
  apply Std.ExtTreeMap.ext_getElem?
  intro program
  have present : row.program ∈ tables.reporters.insertIfNew row.program row.fuzzerId :=
    Std.ExtTreeMap.mem_insertIfNew_self
  rw [Std.ExtTreeMap.getElem?_insertIfNew, if_neg fun absent => absent.2 present]

theorem insertExecution_again (tables : Tables) (row : ExecutionRow) :
    (tables.insertExecution row).insertExecution row = tables.insertExecution row := by
  simp only [insertExecution, Tables.mk.injEq, true_and]
  apply Std.ExtTreeMap.ext_getElem?
  intro key
  simp only [Std.ExtTreeMap.getElem?_insert]
  split
  · rfl
  · rfl

theorem setFeedback_again (tables : Tables) (row : FeedbackRow) :
    (tables.setFeedback row).setFeedback row = tables.setFeedback row := by
  simp only [setFeedback, Tables.mk.injEq, true_and]
  apply Std.ExtTreeMap.ext_getElem?
  intro key
  simp only [Std.ExtTreeMap.getElem?_map, Option.map_map]
  congr 1
  funext record
  simp only [Function.comp_apply]
  split
  · rfl
  · rfl

/-- What was just deleted has nothing left to delete. -/
theorem sameRows_deleteProgram_again (tables : Tables) (program : String) :
    ((tables.deleteProgram program).deleteProgram program).SameRows
      (tables.deleteProgram program) := by
  constructor
  · rw [reporters_deleteProgram, reporters_deleteProgram]
    apply Std.ExtTreeMap.ext_getElem?
    intro other
    simp only [Std.ExtTreeMap.getElem?_erase]
    split
    · rfl
    · rfl
  · unfold deleteProgram
    apply Std.ExtTreeMap.ext_getElem?
    intro key
    simp only [Std.ExtTreeMap.getElem?_filter', Option.filter_filter, Bool.and_self]

/-- An operation performed again directly after itself leaves the rows as they are. -/
theorem sameRows_perform_again (tables : Tables) (operation : Operation) :
    ((tables.perform operation).perform operation).SameRows (tables.perform operation) := by
  cases operation with
  | createFuzzer => exact ⟨rfl, rfl⟩
  | fuzzerProgram program fuzzerId => exact tables.sameRows_insertProgram_again _
  | testProgram program fuzzerId => exact tables.sameRows_insertProgram_again _
  | execution run =>
      simp only [Tables.perform, insertExecution_again]
      exact .refl _
  | updateFeedback program feedback =>
      simp only [Tables.perform, setFeedback_again]
      exact .refl _
  | delete program => exact tables.sameRows_deleteProgram_again program

/-- What is absorbed when it is written once more is absorbed however often it is written. -/
theorem sameRows_foldl_replicate
    {α : Type}
    (write : Tables → α → Tables)
    {item : α}
    (congruent : ∀ {left right : Tables}, left.SameRows right →
      (write left item).SameRows (write right item))
    (absorbed : ∀ tables, (write (write tables item) item).SameRows (write tables item))
    (tables : Tables)
    (again : Nat) :
    ((List.replicate (again + 1) item).foldl write tables).SameRows (write tables item) := by
  induction again with
  | zero => exact .refl _
  | succ again inductionHypothesis =>
      rw [List.replicate_succ', List.foldl_append]
      exact (congruent inductionHypothesis).trans (absorbed tables)

/-- Operations that come again leave the rows that they leave once, one after the other. -/
theorem sameRows_foldl_delivered
    (deliveries : List (Operation × Nat))
    (same : left.SameRows right) :
    ((Operation.delivered deliveries).foldl Tables.perform left).SameRows
      ((deliveries.map Prod.fst).foldl Tables.perform right) := by
  induction deliveries generalizing left right with
  | nil => exact same
  | cons delivery rest inductionHypothesis =>
      rw [Operation.delivered, List.flatMap_cons, List.foldl_append, List.map_cons,
        List.foldl_cons]
      apply inductionHypothesis
      have once := sameRows_foldl_replicate perform (fun same => same.perform delivery.1)
        (fun tables => tables.sameRows_perform_again delivery.1) left delivery.2
      exact once.trans (same.perform delivery.1)

end Tables

namespace Batch

/--
Operations that are delivered again, each directly after itself, are stored as if each of
them had come once, whatever the batches: every batch is written, and the programs, their
fuzzers and the runs are the same.  Where nobody asks for a fuzzer, none is handed out.
-/
theorem writeAll_sameRows_of_delivered
    {store : LocalStore}
    (ready : store.IsReady)
    (worker : Nat)
    {deliveries : List (Operation × Nat)}
    (orderly : (deliveries.map Prod.fst).Pairwise Operation.MayPrecede)
    {once again : List Batch}
    (onceCut : once.flatMap Batch.operations = deliveries.map Prod.fst)
    (againCut : again.flatMap Batch.operations = Operation.delivered deliveries) :
    (∀ result ∈ (writeAll worker once store).1 ++ (writeAll worker again store).1,
        ∃ receipt, result = .ok receipt) ∧
      (writeAll worker again store).2.tables.SameRows (writeAll worker once store).2.tables ∧
      ((∀ delivery ∈ deliveries, delivery.1.requestsFuzzer = false) →
        (writeAll worker once store).2.tables.fuzzers = store.tables.fuzzers ∧
          (writeAll worker again store).2.tables.fuzzers = store.tables.fuzzers) := by
  obtain ⟨onceSucceeds, -, onceStored⟩ :=
    writeAll_of_orderly ready worker (onceCut.symm ▸ orderly)
  obtain ⟨againSucceeds, -, againStored⟩ :=
    writeAll_of_orderly ready worker (againCut.symm ▸ Operation.pairwise_delivered orderly)
  rw [onceCut] at onceStored
  rw [againCut] at againStored
  refine ⟨?_, ?_, fun noRequest => ⟨?_, ?_⟩⟩
  · intro result present
    rcases List.mem_append.mp present with inOnce | inAgain
    · exact onceSucceeds result inOnce
    · exact againSucceeds result inAgain
  · rw [onceStored, againStored]
    exact Tables.sameRows_foldl_delivered deliveries (.refl store.tables)
  · rw [onceStored, Tables.fuzzers_foldl_perform, List.countP_eq_zero.mpr, Nat.add_zero]
    intro operation present
    obtain ⟨delivery, isDelivered, rfl⟩ := List.mem_map.mp present
    rw [noRequest delivery isDelivered]
    exact Bool.false_ne_true
  · rw [againStored, Tables.fuzzers_foldl_perform, List.countP_eq_zero.mpr, Nat.add_zero]
    intro operation present
    obtain ⟨delivery, isDelivered, isOperation⟩ := List.mem_flatMap.mp present
    rw [List.eq_of_mem_replicate isOperation, noRequest delivery isDelivered]
    exact Bool.false_ne_true

/-- A run, its feedback and a deletion come again within a batch and across two. -/
theorem writeAll_sameRows_across_batches :
    let run : Execution := ⟨"a", 1, 2, none, "", .nan, []⟩
    let deliveries : List (Operation × Nat) :=
      [(.testProgram "a" 1, 1), (.execution run, 0), (.updateFeedback "a" (some .null), 2),
        (.delete "b", 1)]
    let once : List Batch := [⟨deliveries.map Prod.fst⟩]
    let again : List Batch :=
      [⟨[.testProgram "a" 1]⟩,
        ⟨[.testProgram "a" 1, .execution run, .updateFeedback "a" (some .null),
          .updateFeedback "a" (some .null)]⟩,
        ⟨[.updateFeedback "a" (some .null), .delete "b"]⟩, ⟨[.delete "b"]⟩]
    LocalStore.empty.IsReady ∧
      (deliveries.map Prod.fst).Pairwise Operation.MayPrecede ∧
      once.flatMap Batch.operations = deliveries.map Prod.fst ∧
      again.flatMap Batch.operations = Operation.delivered deliveries ∧
      (writeAll 0 again LocalStore.empty).2.tables.SameRows
        (writeAll 0 once LocalStore.empty).2.tables := by
  intro run deliveries once again
  have ready : LocalStore.empty.IsReady := ⟨rfl, fun _ => rfl⟩
  have orderly : (deliveries.map Prod.fst).Pairwise Operation.MayPrecede := by
    simp [deliveries, Operation.MayPrecede]
  have onceCut : once.flatMap Batch.operations = deliveries.map Prod.fst := rfl
  have againCut : again.flatMap Batch.operations = Operation.delivered deliveries := rfl
  exact ⟨ready, orderly, onceCut, againCut,
    (writeAll_sameRows_of_delivered ready 0 orderly onceCut againCut).2.1⟩

end Batch
end FuzzIntake
