import FuzzIntake.Proofs.Configuration.Validation
import FuzzIntake.Proofs.Number.Seconds

/-!
# What is derived from an accepted configuration

Validation converts both numbers of seconds itself, and the settings that are derived later
convert them again.  The two agree: a configuration is accepted exactly if its texts, sources and
counts are sound and both numbers become spans, the age of a batch one that is not empty; and then
everything can be derived, with the bounds that the parts of an intake rely on.
-/

namespace FuzzIntake

/-- Settings that every part of an intake can work with. -/
structure IntakeSettings.AreSound (settings : IntakeSettings) : Prop where
  size : 1 ≤ settings.batch.maxSize
  age : 0 < settings.batch.maxAge.nanos
  attempts : 1 ≤ settings.retry.maxAttempts
  capacity : 1 ≤ settings.queueCapacity

/-- A range of connections that has one. -/
structure DatabaseSettings.AreSound (settings : DatabaseSettings) : Prop where
  connections : 1 ≤ settings.maxConnections
  range : settings.minConnections ≤ settings.maxConnections

namespace Configuration

/-- Settings that are sound as far as texts, sources and counts go. -/
structure HasSoundParts (config : Configuration) : Prop where
  group : Text.isBlankText config.group = false
  consumer : Text.isBlankText config.consumer = false
  stream : Text.isBlankText config.stream = false
  url : Text.isBlankText config.database.url = false
  sources : config.sources ≠ []
  labelled : ∀ source ∈ config.sources, source.label ≠ "" ∧ source.url ≠ ""
  workers : config.database.workers ≠ 0
  connections : config.database.poolMax ≠ 0 ∧ config.database.poolMin ≤ config.database.poolMax
  size : config.batch.size ≠ 0
  attempts : config.batch.maxAttempts ≠ 0
  capacity : config.queueCapacity ≠ 0

variable {config : Configuration}

/-- A number of seconds is derived as the span that measures it. -/
theorem spanOf_eq_ok_iff {key : String} {seconds : Double} {span : Span} :
    spanOf key seconds = .ok span ↔ span.Measures seconds := by
  rw [spanOf, Except.mapError_eq_ok_iff, Span.ofDouble_eq_ok_iff]

/-- A valid configuration has sound parts and two numbers of seconds that become spans. -/
theorem isValid_iff :
    config.IsValid ↔ config.HasSoundParts ∧
      (∃ timeout : Span, timeout.Measures config.batch.timeoutSecs ∧ timeout.nanos ≠ 0) ∧
      ∃ wait : Span, wait.Measures config.database.acquireTimeoutSecs := by
  constructor
  · intro valid
    refine ⟨⟨valid.group, valid.consumer, valid.stream, valid.url, valid.sources, valid.labelled,
      valid.workers, valid.connections, valid.size, valid.attempts, valid.capacity⟩, ?_, ?_⟩
    · obtain ⟨timeout, derived, lasting⟩ := valid.timeout
      exact ⟨timeout, spanOf_eq_ok_iff.mp derived, lasting⟩
    · obtain ⟨wait, derived⟩ := valid.wait
      exact ⟨wait, spanOf_eq_ok_iff.mp derived⟩
  · rintro ⟨parts, ⟨timeout, measured, lasting⟩, wait, waited⟩
    exact ⟨parts.group, parts.consumer, parts.stream, parts.url, parts.sources, parts.labelled,
      parts.workers, parts.connections, parts.size, parts.attempts, parts.capacity,
      ⟨timeout, spanOf_eq_ok_iff.mpr measured, lasting⟩, wait, spanOf_eq_ok_iff.mpr waited⟩

/-- The settings of the intake are derived from a valid configuration and are sound. -/
theorem IsValid.exists_intakeSettings (valid : config.IsValid) :
    ∃ intake, config.intakeSettings = .ok intake ∧ config.batchLimits = .ok intake.batch ∧
      intake.batch.maxAge.Measures config.batch.timeoutSecs ∧ intake.AreSound := by
  obtain ⟨timeout, derived, lasting⟩ := valid.timeout
  have measured := spanOf_eq_ok_iff.mp derived
  rw [intakeSettings, batchLimits, derived]
  refine ⟨_, rfl, rfl, measured, ?_, Nat.pos_of_ne_zero lasting, ?_, ?_⟩
  · exact Nat.pos_of_ne_zero (UInt64.toNat_inj.not.mpr valid.size)
  · exact Nat.pos_of_ne_zero (UInt32.toNat_inj.not.mpr valid.attempts)
  · exact Nat.pos_of_ne_zero (UInt64.toNat_inj.not.mpr valid.capacity)

/-- The settings of the database are derived from a valid configuration and are sound. -/
theorem IsValid.exists_databaseSettings (valid : config.IsValid) :
    ∃ database, config.databaseSettings = .ok database ∧
      config.acquireTimeout = .ok database.acquireTimeout ∧
      database.acquireTimeout.Measures config.database.acquireTimeoutSecs ∧
      database.AreSound := by
  obtain ⟨wait, derived⟩ := valid.wait
  have measured := spanOf_eq_ok_iff.mp derived
  rw [databaseSettings, derived]
  refine ⟨_, rfl, rfl, measured, ?_, valid.connections.2⟩
  exact UInt32.le_iff_toNat_le.mpr
    (Nat.pos_of_ne_zero (UInt32.toNat_inj.not.mpr valid.connections.1))

/--
A configuration is accepted exactly if its texts, sources and counts are sound and both numbers of
seconds become spans, the age of a batch one that is not empty.  From an accepted configuration
everything can be derived: the settings of the intake with the limits of its batches, and those of
the database with the wait for a connection, all within the bounds that their users rely on.
-/
theorem validate_covers_derived (config : Configuration) :
    (config.validate = .ok () ↔ config.HasSoundParts ∧
      (∃ timeout : Span, timeout.Measures config.batch.timeoutSecs ∧ timeout.nanos ≠ 0) ∧
      ∃ wait : Span, wait.Measures config.database.acquireTimeoutSecs) ∧
    (config.validate = .ok () → ∃ intake database,
      config.intakeSettings = .ok intake ∧ config.batchLimits = .ok intake.batch ∧
      config.databaseSettings = .ok database ∧
      config.acquireTimeout = .ok database.acquireTimeout ∧
      intake.batch.maxAge.Measures config.batch.timeoutSecs ∧
      database.acquireTimeout.Measures config.database.acquireTimeoutSecs ∧
      intake.AreSound ∧ database.AreSound ∧ 1 ≤ config.database.workers) := by
  rw [validate_eq_ok_iff]
  refine ⟨isValid_iff, fun valid => ?_⟩
  obtain ⟨intake, derived, limits, age, sound⟩ := valid.exists_intakeSettings
  obtain ⟨database, reached, waits, wait, range⟩ := valid.exists_databaseSettings
  have workers : 1 ≤ config.database.workers :=
    UInt64.le_iff_toNat_le.mpr (Nat.pos_of_ne_zero (UInt64.toNat_inj.not.mpr valid.workers))
  exact ⟨intake, database, derived, limits, reached, waits, age, wait, sound, range, workers⟩

end Configuration
end FuzzIntake
