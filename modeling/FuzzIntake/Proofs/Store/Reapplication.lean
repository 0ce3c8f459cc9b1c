import FuzzIntake.Proofs.Store.ClosedForm
import FuzzIntake.Proofs.Store.Repetition
import Mathlib.Algebra.GroupWithZero.Nat

/-!
# Plans that are written again

Whoever does not know whether a plan was written may write it again: a plan that is written
any number of times in a row leaves the runs, the programs and their fuzzers that it leaves
once.  Its own deletions and its own feedback have acted by then, and nothing it inserts
escapes them the second time either.
-/

namespace FuzzIntake

namespace Plan

/-- What a plan leaves under the key of a run it leaves of what it left. -/
theorem runAfter?_runAfter? (plan : Plan) (key : RunKey) (held : Option ExecutionRecord) :
    plan.runAfter? key (plan.runAfter? key held) = plan.runAfter? key held := by
  unfold runAfter?
  split
  · rfl
  · cases plan.lastRun? key with
    | some last => rfl
    | none =>
        cases held with
        | none => rfl
        | some record =>
            cases plan.lastFeedback? key.1 with
            | none => rfl
            | some feedback => rfl

end Plan

namespace Tables

variable {left right : Tables}

/-- A plan leaves the fuzzer of a program that is there, unless the program is deleted. -/
theorem getElem?_reporters_applyPlan (plan : Plan) (tables : Tables) (program : String) :
    (tables.applyPlan plan).reporters[program]? =
      if program ∈ plan.deletes then none
      else tables.reporters[program]?.or (plan.firstReporter? program) := by
  unfold reporters
  rw [Std.ExtTreeMap.getElem?_map, Std.ExtTreeMap.getElem?_map, getElem?_programs_applyPlan,
    Plan.programAfter?]
  split
  · rfl
  · rw [Option.map_map, Option.map_or, Option.map_map]
    congr 1
    exact Option.map_id'

/-- A plan makes the same rows of the same rows. -/
theorem SameRows.applyPlan
    (same : left.SameRows right)
    (plan : Plan) :
    (left.applyPlan plan).SameRows (right.applyPlan plan) := by
  constructor
  · ext1 program
    rw [getElem?_reporters_applyPlan, getElem?_reporters_applyPlan, same.reporters]
  · ext1 key
    rw [getElem?_executions_applyPlan, getElem?_executions_applyPlan, same.executions]

/-- A plan written again directly after itself leaves the rows as they are. -/
theorem sameRows_applyPlan_again (tables : Tables) (plan : Plan) :
    ((tables.applyPlan plan).applyPlan plan).SameRows (tables.applyPlan plan) := by
  constructor
  · ext1 program
    rw [getElem?_reporters_applyPlan, getElem?_reporters_applyPlan]
    split
    · rfl
    · rw [Option.or_assoc, Option.or_self]
  · ext1 key
    rw [getElem?_executions_applyPlan, getElem?_executions_applyPlan, Plan.runAfter?_runAfter?]

/-- A plan hands out its fuzzers every time it is written. -/
theorem fuzzers_foldl_applyPlan (plans : List Plan) (tables : Tables) :
    (plans.foldl (fun tables plan => tables.applyPlan plan) tables).fuzzers =
      tables.fuzzers + (plans.map Plan.fuzzers).sum := by
  induction plans generalizing tables with
  | nil => rfl
  | cons plan rest inductionHypothesis =>
      rw [List.foldl_cons, inductionHypothesis, fuzzers_applyPlan, List.map_cons, List.sum_cons,
        Nat.add_assoc]

end Tables

namespace LocalStore

variable {store : LocalStore}

/-- A ready store writes a plan as often as it is asked to. -/
theorem IsReady.written_replicate
    (ready : store.IsReady)
    (plan : Plan)
    (times : Nat) :
    (store.run (List.replicate times (.apply plan))).1 = List.replicate times plan := by
  induction times generalizing store with
  | zero => rfl
  | succ times inductionHypothesis =>
      have rest := inductionHypothesis (ready.commit plan)
      simp only [List.replicate_succ, run, serve, written, ready.apply_eq, rest]
      rfl

/--
An open store that is not told to fail writes a plan as often as it is asked to, and its runs,
its programs and their fuzzers are those that the plan leaves once, whatever the plan inserts,
changes and deletes.  A plan that asks for no fuzzer hands out none, however often it comes.
-/
theorem sameRows_run_replicate
    (ready : store.IsReady)
    (plan : Plan)
    (again : Nat) :
    let requests := List.replicate (again + 1) (Request.apply plan)
    (store.run requests).1 = List.replicate (again + 1) plan ∧
      (store.run requests).2.tables.SameRows (store.apply plan).2.tables ∧
      (store.run requests).2.tables.fuzzers =
        store.tables.fuzzers + (again + 1) * plan.fuzzers := by
  intro requests
  have written : (store.run requests).1 = List.replicate (again + 1) plan :=
    ready.written_replicate plan (again + 1)
  have rows := (rows_run requests store).1
  rw [written] at rows
  refine ⟨written, ?_, ?_⟩
  · have once : (store.apply plan).2.tables = store.tables.applyPlan plan := by
      rw [ready.apply_eq]
      rfl
    rw [rows, once]
    exact Tables.sameRows_foldl_replicate (fun tables plan => tables.applyPlan plan)
      (fun same => same.applyPlan plan)
      (fun tables => tables.sameRows_applyPlan_again plan) store.tables again
  · rw [rows, Tables.fuzzers_foldl_applyPlan, List.map_replicate, List.sum_replicate_nat]

/--
A plan that comes three times inserts, runs and changes two programs and deletes one of them,
of which the store holds the other.
-/
theorem sameRows_run_thrice :
    let run : ExecutionRecord := ⟨none, "", .nan, []⟩
    let plan : Plan :=
      ⟨0, [⟨"a", 1⟩, ⟨"b", 2⟩, ⟨"b", 3⟩], [⟨"a", 1, run⟩, ⟨"b", 1, run⟩, ⟨"b", 1, run⟩],
        [⟨"a", some .null⟩, ⟨"b", some .null⟩], ["a"]⟩
    let store : LocalStore :=
      { LocalStore.empty with tables := (Tables.empty.addFuzzers 4).insertProgram ⟨"b", 1⟩ }
    let last := (store.run (List.replicate 3 (Request.apply plan))).2
    store.IsReady ∧
      last.tables.SameRows (store.apply plan).2.tables ∧
      last.tables.fuzzers = 4 ∧
      ["a", "b"].map (fun program => last.tables.programs[program]?) = [none, some ⟨1, 7⟩] := by
  intro run plan store last
  have ready : store.IsReady := ⟨rfl, fun _ => rfl⟩
  obtain ⟨-, sameRows, fuzzers⟩ := sameRows_run_replicate ready plan 2
  exact ⟨ready, sameRows, fuzzers, rfl⟩

end LocalStore
end FuzzIntake
