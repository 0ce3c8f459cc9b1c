import FuzzIntake.Plan

/-!
# Stores

A store takes one plan per batch and writes all of it or nothing.  After it is
closed it refuses every plan.
-/

namespace FuzzIntake

/-- Why a store did not write a plan. -/
inductive StoreError
  | connect (detail : String)
  | group (group : RowGroup) (detail : String)
  | transaction (detail : String)
  | closed
deriving DecidableEq, Repr

/-- The wording of a store error. -/
def StoreError.message : StoreError → String
  | .connect detail => "connect failed: " ++ detail
  | .group failing detail => failing.name ++ " write failed: " ++ detail
  | .transaction detail => "transaction failed: " ++ detail
  | .closed => "store closed"

/-- States that take plans. -/
class PlanStore (σ : Type) where
  /-- Write a plan, or fail and leave the rows as they were. -/
  apply : Plan → σ → Except StoreError Receipt × σ
  /-- Refuse every later plan. -/
  close : σ → σ

end FuzzIntake
