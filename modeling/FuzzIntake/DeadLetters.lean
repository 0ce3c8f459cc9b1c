import FuzzIntake.Operation

/-!
# Dead letters

A batch that is given up becomes a dead letter.  The queue of dead letters is
bounded: a new letter pushes out the oldest ones, and a queue without room only
counts what it lost.
-/

namespace FuzzIntake

/-- A batch that was given up. -/
structure DeadLetter where
  /-- The worker the batch belonged to. -/
  worker : Nat
  /-- How often the batch was tried. -/
  attempts : Nat
  /-- Why the last attempt failed. -/
  error : String
  /-- The operations of the batch. -/
  operations : List Operation
deriving BEq, Repr

/-- A bounded queue of dead letters. -/
structure DeadLetters where
  /-- The most letters that are kept. -/
  capacity : Nat
  /-- The letters, oldest first. -/
  letters : List DeadLetter
  /-- How many letters were pushed out. -/
  evicted : Nat
deriving BEq, Repr

namespace DeadLetters

/-- A queue without letters. -/
def new (capacity : Nat) : DeadLetters :=
  ⟨capacity, [], 0⟩

/-- Push out the oldest letters until there is room for one more, and count them. -/
def makeRoom (capacity : Nat) : (letters : List DeadLetter) → (evicted : Nat) →
    List DeadLetter × Nat
  | [], evicted => ([], evicted)
  | oldest :: rest, evicted =>
      if capacity ≤ rest.length + 1 then
        makeRoom capacity rest (evicted + 1)
      else
        (oldest :: rest, evicted)

/-- Add a letter, pushing out the oldest ones until there is room. -/
def push (queue : DeadLetters) (letter : DeadLetter) : DeadLetters :=
  if queue.capacity = 0 then
    { queue with evicted := queue.evicted + 1 }
  else
    let (letters, evicted) := makeRoom queue.capacity queue.letters queue.evicted
    { queue with letters := letters ++ [letter], evicted := evicted }

end DeadLetters
end FuzzIntake
