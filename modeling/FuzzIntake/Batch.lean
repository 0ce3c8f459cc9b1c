import FuzzIntake.Operation

/-!
# Batches

Operations travel in batches, and a whole batch goes where its first operation
goes.
-/

namespace FuzzIntake

/-- A group of operations in the order of arrival. -/
structure Batch where
  /-- The operations. -/
  operations : List Operation
deriving BEq, Repr

namespace Batch

/-- The number of operations. -/
def size (batch : Batch) : Nat :=
  batch.operations.length

/-- A batch without operations. -/
def isEmpty (batch : Batch) : Bool :=
  batch.operations.isEmpty

/-- The routing key of the first operation, which the whole batch follows. -/
def laneKey (batch : Batch) : String :=
  (batch.operations.head?.map Operation.laneKey).getD ""

end Batch

end FuzzIntake
