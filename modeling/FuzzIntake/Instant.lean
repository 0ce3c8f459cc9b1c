import FuzzIntake.Span

/-!
# Instants

Points in time, and the spans between them.
-/

namespace FuzzIntake

/-- A point in time, in nanoseconds since an arbitrary origin. -/
abbrev Instant : Type :=
  Nat

/-- The instant a span after another one. -/
def Instant.after (start : Instant) (span : Span) : Instant :=
  start + span.nanos

/--
Whether a clock can show an instant, counted from the clock's origin: the whole seconds are
counted in 63 bits.
-/
def Instant.isShown (instant : Instant) : Bool :=
  decide (instant < Nat.pow 2 63 * Span.nanosPerSecond)

/-- The span from one instant to a later one, nothing if it is not later. -/
def Instant.until (start finish : Instant) : Span :=
  ⟨finish - start⟩

end FuzzIntake
