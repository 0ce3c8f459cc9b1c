import FuzzIntake.Operation

/-!
# The operation queue

A bounded queue in front of the flush loop.  Senders that find it full stand in
line and are served in the order they came.
-/

namespace FuzzIntake

/-- A bounded queue of operations. -/
structure Queue where
  /-- The most operations it holds. -/
  capacity : Nat
  /-- The operations, oldest first. -/
  items : List Operation
  /-- The senders that wait for room, first come first. -/
  line : List Nat
deriving BEq, Repr

namespace Queue

/-- The capacities that a queue can be given: some room, counted in 61 bits. -/
def isCapacity (capacity : Nat) : Bool :=
  decide (0 < capacity ∧ capacity < Nat.pow 2 61)

/-- A queue without operations; there is always room for one. -/
def new (capacity : Nat) : Queue :=
  ⟨max capacity 1, [], []⟩

/-- Whether there is room for one more operation. -/
def hasRoom (queue : Queue) : Bool :=
  decide (queue.items.length < queue.capacity)

/-- Add an operation at the end. -/
def add (queue : Queue) (operation : Operation) : Queue :=
  { queue with items := queue.items ++ [operation] }

/-- Leave the line. -/
def leave (queue : Queue) (sender : Nat) : Queue :=
  { queue with line := queue.line.filter (· != sender) }

/-- Add an operation if there is room and nobody else's turn comes first. -/
def send? (queue : Queue) (sender : Nat) (operation : Operation) : Option Queue :=
  if queue.hasRoom ∧ (queue.line = [] ∨ queue.line.head? = some sender) then
    some ((queue.leave sender).add operation)
  else
    none

/-- Join the end of the line, if not in it yet. -/
def stand? (queue : Queue) (sender : Nat) : Option Queue :=
  if sender ∈ queue.line then none else some { queue with line := queue.line ++ [sender] }

/-- Add an operation without waiting. -/
def trySend? (queue : Queue) (operation : Operation) : Option Queue :=
  if queue.hasRoom ∧ queue.line = [] then some (queue.add operation) else none

/-- Add operations without waiting until one does not fit; also how many were added. -/
def sendAll (queue : Queue) : List Operation → Nat × Queue
  | [] => (0, queue)
  | operation :: rest =>
      match queue.trySend? operation with
      | none => (0, queue)
      | some queue =>
          let (count, queue) := queue.sendAll rest
          (count + 1, queue)

/-- Take the oldest operation. -/
def pop? (queue : Queue) : Option (Operation × Queue) :=
  match queue.items with
  | [] => none
  | operation :: rest => some (operation, { queue with items := rest })

end Queue
end FuzzIntake
