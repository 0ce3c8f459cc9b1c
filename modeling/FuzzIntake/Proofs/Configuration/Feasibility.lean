import FuzzIntake.Proofs.Batch.Deadline
import FuzzIntake.Proofs.Configuration.Validation

/-!
# Configurations that an intake can run with

Validation looks for values that are too small.  A queue, a batch or a batch age can also be
too large: then the intake cannot be built, or its flush loop crashes at the first operation
that does not complete a batch.  An accepted configuration runs exactly if none of the three
is.
-/

namespace FuzzIntake

/-! ## Settings -/

namespace IntakeSettings

/-- An intake can be built, and from one instant to another its flush loop comes to no crash. -/
structure CanRun (settings : IntakeSettings) (start horizon : Instant) : Prop where
  built : settings.areFeasible = true
  running : Conveyor.NeverCrashes settings.batch settings.queueCapacity start horizon

variable {settings : IntakeSettings} {start horizon : Instant}

/-- The queue must have room that is counted in 61 bits, and a batch fewer than `2 ^ 63` bytes. -/
theorem areFeasible_iff :
    settings.areFeasible = true ↔
      settings.queueCapacity < Nat.pow 2 61 ∧ settings.batch.maxSize * 128 < Nat.pow 2 63 := by
  unfold areFeasible Queue.isCapacity BatchLimits.areFeasible
  rw [Bool.and_eq_true, decide_eq_true_eq, decide_eq_true_eq, Nat.max_lt]
  have positive : 0 < max settings.queueCapacity 1 :=
    Nat.lt_of_lt_of_le Nat.one_pos (Nat.le_max_right _ _)
  have unit : 1 < Nat.pow 2 61 := by decide
  simp only [positive, unit, true_and, and_true]

/-- Settings can be run with exactly if they keep to three limits. -/
theorem canRun_iff
    (started : start ≤ horizon)
    (lasting : 0 < settings.batch.maxAge.nanos) :
    settings.CanRun start horizon ↔
      settings.queueCapacity < Nat.pow 2 61 ∧ settings.batch.maxSize * 128 < Nat.pow 2 63 ∧
        (settings.batch.maxSize ≤ 1 ∨ (horizon.after settings.batch.maxAge).isShown = true) := by
  have never := Conveyor.neverCrashes_iff started lasting settings.queueCapacity
  constructor
  · intro run
    have built := areFeasible_iff.mp run.built
    exact ⟨built.1, built.2, never.mp run.running⟩
  · rintro ⟨room, bytes, deadline⟩
    exact ⟨areFeasible_iff.mpr ⟨room, bytes⟩, never.mpr deadline⟩

end IntakeSettings

/-! ## Configurations -/

namespace Configuration

/-- If the age of a batch is a span, an intake has its queue and batches from the configuration. -/
theorem exists_intakeSettings
    {config : Configuration}
    {timeout : Span}
    (derived : config.batchTimeout = .ok timeout) :
    ∃ settings, config.intakeSettings = .ok settings ∧
      settings.queueCapacity = config.queueCapacity.toNat ∧
      settings.batch = ⟨config.batch.size.toNat, timeout⟩ := by
  unfold intakeSettings batchLimits
  rw [derived]
  exact ⟨_, rfl, rfl, rfl⟩

/--
The settings of an accepted configuration can be derived, and an intake can run with them from
one instant to another exactly if its queue counts its room in 61 bits, a batch has fewer than
`2 ^ 63` bytes, and one operation completes a batch or the clock can show when a batch is due
that is opened at the end.
-/
theorem accepted_canRun_iff
    {config : Configuration}
    {start horizon : Instant}
    (accepted : config.validate = .ok ())
    (started : start ≤ horizon) :
    ∃ settings, config.intakeSettings = .ok settings ∧
      config.batchTimeout = .ok settings.batch.maxAge ∧
      (settings.CanRun start horizon ↔
        config.queueCapacity.toNat < Nat.pow 2 61 ∧
          config.batch.size.toNat * 128 < Nat.pow 2 63 ∧
          (config.batch.size = 1 ∨ (horizon.after settings.batch.maxAge).isShown = true)) := by
  have valid := validate_eq_ok_iff.mp accepted
  obtain ⟨timeout, derived, lasting⟩ := valid.timeout
  obtain ⟨settings, found, room, batch⟩ := exists_intakeSettings derived
  have single : config.batch.size.toNat ≤ 1 ↔ config.batch.size = 1 := by
    have positive : config.batch.size.toNat ≠ 0 := fun zero =>
      valid.size (UInt64.toNat_inj.mp zero)
    rw [← UInt64.toNat_inj]
    change _ ↔ config.batch.size.toNat = 1
    omega
  refine ⟨settings, found, ?_, ?_⟩
  · rw [batch, derived]
  · rw [IntakeSettings.canRun_iff started (by rw [batch]; exact Nat.pos_of_ne_zero lasting), room,
      batch]
    simp only [single]

/-- An intake with the standard configuration runs for a century. -/
theorem accepted_canRun_iff_standard :
    ∃ settings, standard.intakeSettings = .ok settings ∧
      settings.CanRun 0 ((0 : Instant).after (Span.ofSeconds 3155760000)) := by
  have accepted : standard.validate = .ok () := Except.eq_ok_of_toOption (by decide +kernel)
  have age : standard.batchTimeout = .ok ⟨100000000⟩ := Except.eq_ok_of_toOption (by decide +kernel)
  obtain ⟨settings, derived, timeout, runs⟩ := accepted_canRun_iff accepted
    (show (0 : Instant) ≤ (0 : Instant).after (Span.ofSeconds 3155760000) from Nat.zero_le _)
  refine ⟨settings, derived, runs.mpr ⟨by decide, by decide, .inr ?_⟩⟩
  rw [age] at timeout
  rw [← Except.ok.inj timeout]
  decide

/-- The standard configuration with a queue of `2 ^ 61` operations. -/
def withWidestQueue : Configuration :=
  { standard with queueCapacity := 2305843009213693952 }

/-- The standard configuration with batches of `2 ^ 56` operations. -/
def withLargestBatch : Configuration :=
  { standard with batch := { BatchSection.standard with size := 72057594037927936 } }

/-- The standard configuration with batches that may age for ten million million million seconds. -/
def withOldestBatch : Configuration :=
  { standard with
    batch := { BatchSection.standard with timeoutSecs := Double.ofNat 10000000000000000000 } }

/-- An intake with the configuration cannot run even for an instant. -/
def CannotRun (config : Configuration) : Prop :=
  ∃ settings, config.intakeSettings = .ok settings ∧ ¬ settings.CanRun 0 0

/-- Beyond one of the limits, an intake cannot run. -/
theorem cannotRun_of_beyond
    {config : Configuration}
    {timeout : Span}
    (derived : config.batchTimeout = .ok timeout)
    (lasting : 0 < timeout.nanos)
    (beyond : ¬ (config.queueCapacity.toNat < Nat.pow 2 61 ∧
      config.batch.size.toNat * 128 < Nat.pow 2 63 ∧
      (config.batch.size.toNat ≤ 1 ∨ ((0 : Instant).after timeout).isShown = true))) :
    config.CannotRun := by
  obtain ⟨settings, found, room, batch⟩ := exists_intakeSettings derived
  refine ⟨settings, found, fun run => beyond ?_⟩
  rw [IntakeSettings.canRun_iff (Nat.le_refl 0) (by rw [batch]; exact lasting), room, batch] at run
  exact run

/-- Three configurations are accepted that no intake can run with, each for a limit of its own. -/
theorem accepts_what_cannot_run :
    (withWidestQueue.validate = .ok () ∧ withWidestQueue.CannotRun) ∧
    (withLargestBatch.validate = .ok () ∧ withLargestBatch.CannotRun) ∧
    (withOldestBatch.validate = .ok () ∧ withOldestBatch.CannotRun) := by
  have tenth : withWidestQueue.batchTimeout = .ok ⟨100000000⟩ ∧
      withLargestBatch.batchTimeout = .ok ⟨100000000⟩ :=
    ⟨Except.eq_ok_of_toOption (by decide +kernel), Except.eq_ok_of_toOption (by decide +kernel)⟩
  have eternal : withOldestBatch.batchTimeout = .ok (.ofSeconds 10000000000000000000) :=
    Except.eq_ok_of_toOption (by decide +kernel)
  refine ⟨⟨Except.eq_ok_of_toOption (by decide +kernel), ?_⟩,
    ⟨Except.eq_ok_of_toOption (by decide +kernel), ?_⟩,
    Except.eq_ok_of_toOption (by decide +kernel), ?_⟩
  · exact cannotRun_of_beyond tenth.1 (by decide) (by decide)
  · exact cannotRun_of_beyond tenth.2 (by decide) (by decide)
  · exact cannotRun_of_beyond eternal (by decide) (by decide)

end Configuration
end FuzzIntake
