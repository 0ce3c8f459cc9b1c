import FuzzIntake.Instant

/-!
# Virtual time

A rehearsal runs a system in virtual time: computation takes no time, and the
clock only moves when nothing can happen at the present instant.  `settle` lets
everything happen that can, and `advance` moves the clock from alarm to alarm up
to a target.
-/

namespace FuzzIntake

/-- Systems that can be run in virtual time. -/
class Rehearsable (σ : Type) where
  /-- The present instant. -/
  now : σ → Instant
  /-- Move the clock. -/
  setNow : Instant → σ → σ
  /-- The system after the first thing that can happen now, if anything can. -/
  step? : σ → Option σ
  /-- The instants at which something moves on by itself. -/
  alarms : σ → List Instant

namespace Rehearsal

variable {σ : Type} [Rehearsable σ]

/-- The most things that happen at one instant, and the most instants passed in one go. -/
def stepLimit : Nat :=
  10000000

/-- Let at most `budget` things happen at the present instant. -/
def settleWithin : (budget : Nat) → σ → σ
  | 0, system => system
  | budget + 1, system =>
      match Rehearsable.step? system with
      | none => system
      | some system => settleWithin budget system

/-- Let everything happen that can happen at the present instant. -/
def settle (system : σ) : σ :=
  settleWithin stepLimit system

/-- The earliest alarm after the present instant and up to `target`. -/
def nextAlarm? (system : σ) (target : Instant) : Option Instant :=
  ((Rehearsable.alarms system).filter fun alarm =>
    Rehearsable.now system < alarm && alarm ≤ target).min?

/-- Move through at most `budget` alarms, then to the target. -/
def advanceWithin : (budget : Nat) → (target : Instant) → σ → σ
  | 0, _, system => system
  | budget + 1, target, system =>
      match nextAlarm? system target with
      | none => Rehearsable.setNow (max target (Rehearsable.now system)) system
      | some alarm => advanceWithin budget target (settle (Rehearsable.setNow alarm system))

/-- Move the clock forward, letting everything happen that falls due. -/
def advance (span : Span) (system : σ) : σ :=
  settle (advanceWithin stepLimit (Instant.after (Rehearsable.now system) span) system)

/-- Move from alarm to alarm until `reached` holds or no alarm is left. -/
def runWithin (reached : σ → Bool) : (budget : Nat) → σ → σ
  | 0, system => system
  | budget + 1, system =>
      if reached system then
        system
      else
        let later := (Rehearsable.alarms system).filter fun alarm =>
          Rehearsable.now system < alarm
        match later.min? with
        | none => system
        | some alarm => runWithin reached budget (settle (Rehearsable.setNow alarm system))

/-- Run until `reached` holds. -/
def runUntil (reached : σ → Bool) (system : σ) : σ :=
  runWithin reached stepLimit (settle system)

end Rehearsal
end FuzzIntake
