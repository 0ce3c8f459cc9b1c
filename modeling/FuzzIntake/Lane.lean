import FuzzIntake.Instant
import FuzzIntake.Store.BatchWrite

/-!
# Lanes

Every worker has a lane of its own: a short buffer of batches, and the batch it
is writing.
-/

namespace FuzzIntake

/-- The most batches a lane buffers. -/
def laneRoom : Nat :=
  4

/-- What a lane is doing. -/
inductive LanePhase
  | idle
  /-- Writing a batch; the store answers at an instant. -/
  | applying (batch : Batch) (attempt : Nat) (due : Instant)
  /-- Pausing until an instant after a failed attempt. -/
  | pausing (batch : Batch) (attempt : Nat) (error : BatchFailure) (resumeAt : Instant)
  | dead
deriving BEq, Repr

/-- The lane of one worker. -/
structure Lane where
  /-- The batches waiting, oldest first. -/
  buffer : List Batch
  /-- What the lane is doing. -/
  phase : LanePhase
deriving BEq, Repr

/-- A lane with nothing to do. -/
def Lane.empty : Lane :=
  ⟨[], .idle⟩

end FuzzIntake
