import FuzzIntake.Proofs.Lane.Crashes
import Mathlib.Data.List.DropRight

/-!
# The dead letters that are kept

A queue of dead letters keeps the last ones that fit, in the order in which they were pushed, and
counts all others.  In a run of a pool every batch that is given up is counted and pushed, so the
letters that are kept and those that were pushed out are at every moment as many as the batches
given up, whatever the capacity and whichever stores crash.
-/

namespace FuzzIntake
namespace DeadLetters

/-! ## One more letter -/

/-- To make room is to let go of as many of the oldest letters as there are too many. -/
theorem makeRoom_eq
    (capacity : Nat)
    (letters : List DeadLetter)
    (evicted : Nat) :
    makeRoom capacity letters evicted =
      (letters.drop (letters.length + 1 - capacity),
        evicted + min letters.length (letters.length + 1 - capacity)) := by
  induction letters generalizing evicted with
  | nil => simp [makeRoom]
  | cons oldest rest inductionHypothesis =>
      rw [makeRoom]
      split
      · next full =>
          have surplus : (oldest :: rest).length + 1 - capacity =
              rest.length + 1 - capacity + 1 := by
            rw [List.length_cons]
            omega
          rw [inductionHypothesis, surplus, List.drop_succ_cons, List.length_cons]
          congr 1
          omega
      · next free =>
          have noSurplus : (oldest :: rest).length + 1 - capacity = 0 := by
            rw [List.length_cons]
            omega
          rw [noSurplus, List.drop_zero, Nat.min_zero, Nat.add_zero]

/-- A queue that keeps the last letters that fit of those that were pushed, and counts the
others. -/
structure KeepsLast (queue : DeadLetters) (limit : Nat) (pushed : List DeadLetter) : Prop where
  /-- The room of the queue. -/
  capacity : queue.capacity = limit
  /-- The last letters are kept, in the order in which they were pushed. -/
  letters : queue.letters = pushed.rtake (min limit pushed.length)
  /-- As many letters are kept as fit. -/
  length : queue.letters.length = min limit pushed.length
  /-- All other letters were pushed out. -/
  evicted : queue.evicted = pushed.length - min limit pushed.length

variable {queue : DeadLetters} {limit : Nat} {pushed : List DeadLetter}

/-- A queue without letters keeps the last ones of none. -/
theorem keepsLast_new (limit : Nat) : (new limit).KeepsLast limit [] where
  capacity := rfl
  letters := (List.rtake_nil _).symm
  length := (Nat.min_zero limit).symm
  evicted := (Nat.zero_sub _).symm

/-- A queue keeps the last letters when one more is pushed.  Without room no letter is kept, and
every one is counted. -/
theorem KeepsLast.push
    (keeps : queue.KeepsLast limit pushed)
    (letter : DeadLetter) :
    (queue.push letter).KeepsLast limit (pushed ++ [letter]) := by
  have length : (pushed ++ [letter]).length = pushed.length + 1 := List.length_append
  obtain rfl := keeps.capacity
  rw [DeadLetters.push.eq_def]
  split
  · next noRoom =>
      have nothing : queue.letters = [] := by simpa [noRoom] using keeps.letters
      have counted : queue.evicted = pushed.length := by simpa [noRoom] using keeps.evicted
      constructor
      · rfl
      · simp [noRoom, nothing]
      · simp [noRoom, nothing]
      · simp [noRoom, counted]
  · next room =>
      have surplus := keeps.length
      rw [makeRoom_eq]
      constructor
      · rfl
      · rw [length, List.rtake_concat letter (Nat.pos_of_ne_zero room), ← keeps.letters, surplus]
      · rw [length, List.length_append, List.length_drop, surplus, List.length_singleton]
        omega
      · rw [length, keeps.evicted, surplus]
        dsimp only
        omega

/-- A queue keeps the last letters when more of them are pushed. -/
theorem KeepsLast.foldl_push
    (keeps : queue.KeepsLast limit pushed)
    (later : List DeadLetter) :
    (later.foldl DeadLetters.push queue).KeepsLast limit (pushed ++ later) := by
  induction later generalizing queue pushed with
  | nil => rwa [List.append_nil]
  | cons letter rest inductionHypothesis =>
      rw [List.append_cons]
      exact inductionHypothesis (keeps.push letter)

/-- The letters that are kept and those pushed out are all that were pushed. -/
theorem KeepsLast.length_add_evicted (keeps : queue.KeepsLast limit pushed) :
    queue.letters.length + queue.evicted = pushed.length := by
  rw [keeps.length, keeps.evicted]
  omega

end DeadLetters

namespace Warehouse

/-! ## The letters of a pool -/

/-- A warehouse that has been closed reports the letters that it keeps. -/
theorem IsBalanced.deadLetters_of_report?
    {workers capacity : Nat}
    {books : Books}
    {warehouse : Warehouse}
    {report : ClosingReport}
    (balanced : warehouse.IsBalanced workers capacity books)
    (reported : warehouse.report? = some report) :
    report.deadLetters = warehouse.pool.deadLetters.letters.length := by
  have closing := balanced.closing
  rw [IsClosing, closing_of_report? reported] at closing
  exact closing.2.2

/-- Whatever the capacity, a queue keeps the last letters that fit, in the order in which they were
pushed, and counts all others.  So it is with the batches that a pool gives up, whichever stores
crash: at every moment, and so when the pool has been closed, the letters that are kept and those
that were pushed out are as many as the batches given up, and the report of a closed pool tells how
many are kept. -/
theorem keeps_last_letters (capacity : Nat) :
    (∀ pushed : List DeadLetter,
      (pushed.foldl DeadLetters.push (DeadLetters.new capacity)).KeepsLast capacity pushed) ∧
    ∀ workers shared retry incidents register last,
      (new workers shared retry capacity).endure? incidents = some (register, last) →
        last.pool.deadLetters.KeepsLast capacity register.books.letters ∧
        last.pool.tally.deadLettered = register.books.letters.length ∧
        last.pool.deadLetters.letters.length + last.pool.deadLetters.evicted =
          last.pool.tally.deadLettered ∧
        ∀ report, last.report? = some report →
          report.deadLetters = last.pool.deadLetters.letters.length := by
  have keeps (pushed) := (DeadLetters.keepsLast_new capacity).foldl_push pushed
  refine ⟨keeps, fun workers shared retry incidents register last endured => ?_⟩
  have balanced := (isUpheld_of_endure? endured).balanced
  have kept : last.pool.deadLetters.KeepsLast capacity register.books.letters := by
    rw [balanced.deadLetters]
    exact keeps register.books.letters
  refine ⟨kept, balanced.deadLettered, ?_, fun report => balanced.deadLetters_of_report?⟩
  rw [kept.length_add_evicted, balanced.deadLettered]

/-- One worker, whose store fails twice: the second batch that is given up pushes out the letter of
the first one. -/
def crowdedOut : List Incident :=
  let fails : Incident := .meet (.event (.touchStore 0 (LocalStore.injectFailures · .deletes 2)))
  [fails, .meet (.call ⟨[.delete "a"]⟩), .meet (.call ⟨[.delete "b"]⟩),
    .meet (.event (.act 0 (.start 0))), .meet (.event (.act 0 (.finish 0))),
    .meet (.event (.act 0 (.start 0))), .meet (.event (.act 0 (.finish 0))),
    .meet (.event (.shutdown [])), .meet (.event (.act 0 .drain))]

/-- Of two dead letters one is kept, the other is pushed out, and two batches were given up. -/
theorem keeps_last_letters_of_crowdedOut :
    ∃ register last,
      (new 1 false ⟨1, ⟨0⟩⟩ 1).endure? crowdedOut = some (register, last) ∧
      last.report? = some ⟨0, 0, 1⟩ ∧
      last.pool.tally.deadLettered = 2 ∧
      last.pool.deadLetters.letters.map (fun letter => letter.operations.map Operation.laneKey) =
        [["b"]] ∧
      last.pool.deadLetters.KeepsLast 1 register.books.letters ∧
      last.pool.deadLetters.letters.length + last.pool.deadLetters.evicted = 2 := by
  have evaluated : ((new 1 false ⟨1, ⟨0⟩⟩ 1).endure? crowdedOut).map (fun reached =>
        (reached.2.report?, reached.2.pool.tally.deadLettered,
          reached.2.pool.deadLetters.letters.map fun letter =>
            letter.operations.map Operation.laneKey)) =
      some (some ⟨0, 0, 1⟩, 2, [["b"]]) := by decide +kernel
  obtain ⟨⟨register, last⟩, endured, facts⟩ := Option.map_eq_some_iff.mp evaluated
  simp only [Prod.mk.injEq] at facts
  obtain ⟨reported, deadLettered, letters⟩ := facts
  obtain ⟨-, runs⟩ := keeps_last_letters 1
  obtain ⟨keeps, -, total, -⟩ := runs _ _ _ _ _ _ endured
  exact ⟨register, last, endured, reported, deadLettered, letters, keeps,
    total.trans deadLettered⟩

end Warehouse
end FuzzIntake
