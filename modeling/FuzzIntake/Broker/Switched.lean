import FuzzIntake.Broker.Local

/-!
# Crashing brokers

A broker in memory that can be told to crash the readers of the next reads.
-/

namespace FuzzIntake

/-- A broker in memory behind a switch. -/
structure SwitchedBroker where
  /-- The broker. -/
  broker : LocalBroker
  /-- How many of the next reads crash their reader. -/
  crashes : Nat

/-- A broker without streams. -/
def SwitchedBroker.empty : SwitchedBroker :=
  ⟨.empty, 0⟩

end FuzzIntake
