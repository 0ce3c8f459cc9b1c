import FuzzIntake.Intake
import FuzzIntake.Rehearsal.Clock

/-!
# Rehearsing the intake

An intake in virtual time.  Of the actions that are possible at an instant the
first in a fixed order happens: consumers before the flush loop, and the flush
loop before the lanes.
-/

namespace FuzzIntake
namespace Intake

/-- The actions of the intake in the order in which they are tried. -/
def candidates (intake : Intake) : List Action :=
  (List.range intake.sources.length).flatMap
      (fun source =>
        .halt source :: Consumer.moves.map (.consume source) ++
          [.enqueue source, .stand source]) ++
    [.stopFlush, .look, .receive, .runDry, .lapse] ++
    intake.warehouse.actions.map .work ++
    [.submit, .refuse, .release, .collect, .gather, .close, .finish]

instance : Rehearsable Intake where
  now := now
  setNow instant intake := { intake with now := instant }
  step? intake := intake.candidates.findSome? intake.act?
  alarms intake := intake.alarms

/-- Whether the intake has ended. -/
def isFinished (intake : Intake) : Bool :=
  intake.stage == .finished

/-- Whether the intake has started and not ended. -/
def isUnderWay (intake : Intake) : Bool :=
  intake.stage != .ready && intake.stage != .finished

/-- Cancel the token of an intake, started at the latest now, and run until it has ended. -/
def shutDown (intake : Intake) : Intake :=
  Rehearsal.runUntil isFinished intake.start.cancel

/-- Change a source and let everything happen that can. -/
def changeSource (intake : Intake) (index : Nat) (change : Source → Source) : Intake :=
  Rehearsal.settle { intake with sources := intake.sources.modify index change }

/-- Change the store of a worker and let everything happen that can. -/
def changeStore (intake : Intake) (worker : Nat)
    (change : SwitchedStore → SwitchedStore) : Intake :=
  Rehearsal.settle { intake with warehouse := intake.warehouse.changeStore worker change }

end Intake
end FuzzIntake
