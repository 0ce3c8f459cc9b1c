import FuzzIntake.Configuration
import FuzzIntake.Proofs.Data.Except

/-!
# Valid configurations

Validation is a list of checks, and a configuration is accepted exactly if none of them finds
fault.  What is derived from an accepted configuration is read off the checks.
-/

namespace FuzzIntake
namespace Configuration

/-- A configuration that no check finds fault with. -/
structure IsValid (config : Configuration) : Prop where
  group : Text.isBlankText config.group = false
  consumer : Text.isBlankText config.consumer = false
  stream : Text.isBlankText config.stream = false
  url : Text.isBlankText config.database.url = false
  sources : config.sources ≠ []
  labelled : ∀ source ∈ config.sources, source.label ≠ "" ∧ source.url ≠ ""
  workers : config.database.workers ≠ 0
  connections : config.database.poolMax ≠ 0 ∧ config.database.poolMin ≤ config.database.poolMax
  size : config.batch.size ≠ 0
  attempts : config.batch.maxAttempts ≠ 0
  capacity : config.queueCapacity ≠ 0
  timeout : ∃ timeout, config.batchTimeout = .ok timeout ∧ timeout.nanos ≠ 0
  wait : ∃ wait, config.acquireTimeout = .ok wait

variable {config : Configuration}

/-! ## One check after the other -/

theorem refuse_eq_ok_iff (faulty : Bool) (key detail : String) :
    refuse faulty key detail = .ok () ↔ faulty = false := by
  unfold refuse
  cases faulty with
  | true => simp
  | false => simp

theorem checkTexts_eq_ok_iff :
    config.checkTexts = .ok () ↔
      Text.isBlankText config.group = false ∧ Text.isBlankText config.consumer = false ∧
        Text.isBlankText config.stream = false ∧
        Text.isBlankText config.database.url = false := by
  unfold checkTexts
  simp only [Except.check_eq_ok_iff, refuse_eq_ok_iff]

theorem checkSources_eq_ok_iff :
    config.checkSources = .ok () ↔
      config.sources ≠ [] ∧ ∀ source ∈ config.sources, source.label ≠ "" ∧ source.url ≠ "" := by
  unfold checkSources
  simp only [Except.check_eq_ok_iff, refuse_eq_ok_iff]
  simp

theorem checkCounts_eq_ok_iff :
    config.checkCounts = .ok () ↔
      config.database.workers ≠ 0 ∧
        (config.database.poolMax ≠ 0 ∧ config.database.poolMin ≤ config.database.poolMax) ∧
        config.batch.size ≠ 0 ∧ config.batch.maxAttempts ≠ 0 ∧ config.queueCapacity ≠ 0 := by
  unfold checkCounts
  simp only [Except.check_eq_ok_iff, refuse_eq_ok_iff]
  simp

theorem checkSpans_eq_ok_iff :
    config.checkSpans = .ok () ↔
      (∃ timeout, config.batchTimeout = .ok timeout ∧ timeout.nanos ≠ 0) ∧
        ∃ wait, config.acquireTimeout = .ok wait := by
  unfold checkSpans
  rw [Except.bind_eq_ok_iff]
  constructor
  · rintro ⟨timeout, derived, checks⟩
    rw [Except.check_eq_ok_iff, refuse_eq_ok_iff, Except.bind_eq_ok_iff] at checks
    obtain ⟨lasting, wait, waited, -⟩ := checks
    exact ⟨⟨timeout, derived, beq_eq_false_iff_ne.mp lasting⟩, wait, waited⟩
  · rintro ⟨⟨timeout, derived, lasting⟩, wait, waited⟩
    refine ⟨timeout, derived, ?_⟩
    rw [Except.check_eq_ok_iff, refuse_eq_ok_iff, Except.bind_eq_ok_iff]
    exact ⟨beq_eq_false_iff_ne.mpr lasting, wait, waited, rfl⟩

/-- A configuration is accepted exactly if no check finds fault with it. -/
theorem validate_eq_ok_iff : config.validate = .ok () ↔ config.IsValid := by
  unfold validate
  simp only [Except.check_eq_ok_iff, checkTexts_eq_ok_iff, checkSources_eq_ok_iff,
    checkCounts_eq_ok_iff, checkSpans_eq_ok_iff]
  constructor
  · rintro ⟨⟨group, consumer, stream, url⟩, ⟨sources, labelled⟩,
      ⟨workers, connections, size, attempts, capacity⟩, timeout, wait⟩
    exact ⟨group, consumer, stream, url, sources, labelled, workers, connections, size, attempts,
      capacity, timeout, wait⟩
  · intro valid
    exact ⟨⟨valid.group, valid.consumer, valid.stream, valid.url⟩,
      ⟨valid.sources, valid.labelled⟩,
      ⟨valid.workers, valid.connections, valid.size, valid.attempts, valid.capacity⟩,
      valid.timeout, valid.wait⟩

end Configuration
end FuzzIntake
