import FuzzIntake.Batch.Accumulator
import FuzzIntake.Queue

/-!
# Settings

The settings of the parts of an intake, with the values they have when nothing
else is asked for.
-/

namespace FuzzIntake

/-- How often a failing batch is tried. -/
structure RetrySchedule where
  /-- All attempts, the first included; zero means one. -/
  maxAttempts : Nat
  /-- The pause before another attempt. -/
  backoff : Span
deriving DecidableEq, Repr

/-- Three attempts, a fifth of a second apart. -/
def RetrySchedule.standard : RetrySchedule :=
  ⟨3, Span.ofMillis 200⟩

/-- How one member of a consumer group reads a stream. -/
structure ConsumerSettings where
  /-- The stream. -/
  stream : String
  /-- The consumer group. -/
  group : String
  /-- The member's name within the group. -/
  consumer : String
  /-- The most entries per read. -/
  readCount : Nat
  /-- The longest a read waits for new entries. -/
  readBlock : Span
  /-- The pause after a failed read or acknowledgement. -/
  errorBackoff : Span
deriving DecidableEq, Repr

/-- Reads of 100 entries that wait for five seconds, and pauses of one second. -/
def ConsumerSettings.standard : ConsumerSettings where
  stream := "stream:fuzz:updates"
  group := "g_fuzz"
  consumer := "c_sync_1"
  readCount := 100
  readBlock := Span.ofSeconds 5
  errorBackoff := Span.ofSeconds 1

/-- The settings of a whole intake. -/
structure IntakeSettings where
  /-- The room of the operation queue; zero means one. -/
  queueCapacity : Nat
  /-- When batches are given away. -/
  batch : BatchLimits
  /-- How often failing batches are tried. -/
  retry : RetrySchedule
  /-- The most dead letters that are kept. -/
  deadLetterCapacity : Nat
  /-- How the streams are read. -/
  consumer : ConsumerSettings
deriving DecidableEq, Repr

/-- A queue of ten thousand operations and 1024 dead letters. -/
def IntakeSettings.standard : IntakeSettings where
  queueCapacity := 10000
  batch := .standard
  retry := .standard
  deadLetterCapacity := 1024
  consumer := .standard

/-- Whether the queue and the batches can be as large as the settings ask. -/
def IntakeSettings.areFeasible (settings : IntakeSettings) : Bool :=
  Queue.isCapacity (max settings.queueCapacity 1) && settings.batch.areFeasible

end FuzzIntake
