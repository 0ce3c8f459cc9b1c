import FuzzIntake.Batch
import FuzzIntake.Instant

/-!
# Accumulators

An accumulator collects one batch.  It gives the batch away when it reaches the
size in the limits, and when its first operation has reached the age.
-/

namespace FuzzIntake

/-- When a batch is given away. -/
structure BatchLimits where
  /-- The size at which a batch is complete; sizes zero and one are the same. -/
  maxSize : Nat
  /-- The age of the first operation at which a batch is due. -/
  maxAge : Span
deriving DecidableEq, Repr

/-- Batches of 400 operations, or what arrived in a tenth of a second. -/
def BatchLimits.standard : BatchLimits :=
  ⟨400, Span.ofMillis 100⟩

/--
Whether a whole batch can be addressed: an operation takes 128 bytes, and a block
of memory has fewer than `2 ^ 63` of them.
-/
def BatchLimits.areFeasible (limits : BatchLimits) : Bool :=
  decide (limits.maxSize * 128 < Nat.pow 2 63)

/-- A batch in progress. -/
structure Accumulator where
  /-- When the batch is given away. -/
  limits : BatchLimits
  /-- The operations so far. -/
  held : List Operation
  /-- When the first of them arrived. -/
  openedAt : Option Instant
deriving BEq, Repr

namespace Accumulator

/-- No batch in progress. -/
def new (limits : BatchLimits) : Accumulator :=
  ⟨limits, [], none⟩

/-- Give away what is held. -/
def take (accumulator : Accumulator) : Batch × Accumulator :=
  (⟨accumulator.held⟩, { accumulator with held := [], openedAt := none })

/-- Add an operation; the batch is given away when it reaches its size. -/
def push (accumulator : Accumulator) (operation : Operation) (now : Instant) :
    Option Batch × Accumulator :=
  let grown :=
    { accumulator with
      held := accumulator.held ++ [operation]
      openedAt := if accumulator.held.isEmpty then some now else accumulator.openedAt }
  if accumulator.limits.maxSize ≤ grown.held.length then
    let (batch, rest) := grown.take
    (some batch, rest)
  else
    (none, grown)

/-- Give the batch away if its first operation has reached the age. -/
def takeDue (accumulator : Accumulator) (now : Instant) : Option Batch × Accumulator :=
  match accumulator.openedAt with
  | none => (none, accumulator)
  | some first =>
      if accumulator.limits.maxAge.nanos ≤ (Instant.until first now).nanos then
        let (batch, rest) := accumulator.take
        (some batch, rest)
      else
        (none, accumulator)

/-- The time left until the batch is due. -/
def timeLeft (accumulator : Accumulator) (now : Instant) : Option Span :=
  accumulator.openedAt.map fun first =>
    Instant.until now (first.after accumulator.limits.maxAge)

/--
Whether a clock can show when the batch in progress, if there is one, is due.  If it cannot,
asking for the time left is a crash.
-/
def showsDeadline (accumulator : Accumulator) : Bool :=
  accumulator.openedAt.all fun first => (first.after accumulator.limits.maxAge).isShown

end Accumulator
end FuzzIntake
