import FuzzIntake.Entry

/-!
# Brokers

A broker holds streams of entries.  The members of a consumer group share a
stream: every entry is handed to one member, who acknowledges it when it is dealt
with.  Entries that were handed out and not acknowledged can be read again.
-/

namespace FuzzIntake

/-- Why a broker did not answer. -/
inductive BrokerError
  | connect (detail : String)
  | groupSetup (detail : String)
  | read (detail : String)
  | acknowledge (detail : String)
  | closed
deriving DecidableEq, Repr

/-- The wording of a broker error. -/
def BrokerError.message : BrokerError → String
  | .connect detail => "connect failed: " ++ detail
  | .groupSetup detail => "consumer group setup failed: " ++ detail
  | .read detail => "stream read failed: " ++ detail
  | .acknowledge detail => "ack failed: " ++ detail
  | .closed => "broker closed"

/-- An entry as it is handed to a member. -/
structure Delivery where
  /-- The id of the entry. -/
  id : String
  /-- The fields of the entry. -/
  fields : Fields
deriving DecidableEq, Repr

/-- Whether asking for a group created it. -/
inductive GroupOutcome
  | created
  | existing
deriving DecidableEq, Repr

/-- The start of a read that asks for entries never handed out. -/
def freshEntries : String :=
  ">"

/-- The start of a read that asks for everything handed out and not acknowledged. -/
def ownHistory : String :=
  "0"

end FuzzIntake
