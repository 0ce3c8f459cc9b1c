import FuzzIntake.Configuration.Overrides
import FuzzIntake.Proofs.Configuration.Validation
import FuzzIntake.Proofs.Number.Integer

/-!
# Variables and their settings

Every override has one variable and one setting.  Reading the overrides therefore comes down to
the first setting, in the order they are read, whose variable is no text of a value: the settings
before it take the values of their variables, and everything else is as before.  If there is no
such setting the reading is complete, and another one changes nothing.
-/

namespace FuzzIntake
namespace Configuration

/-! ## Settings with a variable -/

/-- The kinds of values that variables have. -/
inductive Kind
  | text
  | sources
  | word
  | halfWord
  | double

/-- The values of a kind. -/
def Kind.Value : Kind → Type
  | .text => String
  | .sources => List LabelledSource
  | .word => UInt64
  | .halfWord => UInt32
  | .double => Double

/-- Whether a text denotes a value: blanks around it do not count. -/
def Kind.Denotes : (kind : Kind) → String → kind.Value → Prop
  | .text, raw, value => Text.trim raw = value
  | .sources, raw, value => LabelledSource.ofSetting raw = .ok value
  | .word, raw, value => Integer.IsNumeral (Text.trimChars raw.toList) (UInt64.toNat value)
  | .halfWord, raw, value => Integer.IsNumeral (Text.trimChars raw.toList) (UInt32.toNat value)
  | .double, raw, value => Double.read? (Text.trimChars raw.toList) = some value

/-- The settings that a variable can override. -/
inductive Setting
  | group
  | consumer
  | stream
  | sources
  | url
  | workers
  | poolMin
  | poolMax
  | connectRetries
  | connectBackoffMs
  | size
  | timeoutSecs
  | maxAttempts
  | queueCapacity
deriving DecidableEq

namespace Setting

/-- All settings with a variable, in the order the variables are read. -/
def all : List Setting :=
  [.group, .consumer, .stream, .sources, .url, .workers, .poolMin, .poolMax, .connectRetries,
    .connectBackoffMs, .size, .timeoutSecs, .maxAttempts, .queueCapacity]

/-- The variable of a setting. -/
def key : Setting → String
  | .group => "GROUP"
  | .consumer => "CONSUMER"
  | .stream => "STREAM_NAME"
  | .sources => "STREAMS"
  | .url => "PG_DSN"
  | .workers => "DB_WORKER_THREADS"
  | .poolMin => "DB_POOL_MIN"
  | .poolMax => "DB_POOL_MAX"
  | .connectRetries => "VRIG_PG_CONNECT_RETRIES"
  | .connectBackoffMs => "VRIG_PG_CONNECT_BACKOFF_MS"
  | .size => "BATCH_SIZE"
  | .timeoutSecs => "BATCH_TIMEOUT"
  | .maxAttempts => "BATCH_MAX_ATTEMPTS"
  | .queueCapacity => "QUEUE_CAPACITY"

/-- The kind of a setting's values. -/
def kind : Setting → Kind
  | .group | .consumer | .stream | .url => .text
  | .sources => .sources
  | .workers | .connectBackoffMs | .size | .queueCapacity => .word
  | .poolMin | .poolMax | .connectRetries | .maxAttempts => .halfWord
  | .timeoutSecs => .double

/-- The value of a setting. -/
def get : (setting : Setting) → Configuration → setting.kind.Value
  | .group, config => config.group
  | .consumer, config => config.consumer
  | .stream, config => config.stream
  | .sources, config => config.sources
  | .url, config => config.database.url
  | .workers, config => config.database.workers
  | .poolMin, config => config.database.poolMin
  | .poolMax, config => config.database.poolMax
  | .connectRetries, config => config.database.connectRetries
  | .connectBackoffMs, config => config.database.connectBackoffMs
  | .size, config => config.batch.size
  | .timeoutSecs, config => config.batch.timeoutSecs
  | .maxAttempts, config => config.batch.maxAttempts
  | .queueCapacity, config => config.queueCapacity

/-- The configuration with another value of a setting. -/
def put : (setting : Setting) → setting.kind.Value → Configuration → Configuration
  | .group, value, config => { config with group := value }
  | .consumer, value, config => { config with consumer := value }
  | .stream, value, config => { config with stream := value }
  | .sources, value, config => { config with sources := value }
  | .url, value, config => { config with database.url := value }
  | .workers, value, config => { config with database.workers := value }
  | .poolMin, value, config => { config with database.poolMin := value }
  | .poolMax, value, config => { config with database.poolMax := value }
  | .connectRetries, value, config => { config with database.connectRetries := value }
  | .connectBackoffMs, value, config => { config with database.connectBackoffMs := value }
  | .size, value, config => { config with batch.size := value }
  | .timeoutSecs, value, config => { config with batch.timeoutSecs := value }
  | .maxAttempts, value, config => { config with batch.maxAttempts := value }
  | .queueCapacity, value, config => { config with queueCapacity := value }

end Setting

/-- The settings without a variable. -/
def others (config : Configuration) : Double × UInt64 × UInt64 :=
  (config.database.acquireTimeoutSecs, config.batch.retryBackoffMs,
    config.batch.deadLetterCapacity)

namespace Setting

variable {setting other : Setting} {config result : Configuration}

theorem mem_all (setting : Setting) : setting ∈ all := by
  cases setting <;> decide

theorem nodup_all : all.Nodup := by
  decide

theorem get_put_self (setting : Setting) (value : setting.kind.Value) (config : Configuration) :
    setting.get (setting.put value config) = value := by
  cases setting <;> rfl

theorem get_put_of_ne
    (different : setting ≠ other)
    (value : other.kind.Value)
    (config : Configuration) :
    setting.get (other.put value config) = setting.get config := by
  cases other <;> cases setting <;> first | rfl | exact absurd rfl different

theorem others_put (setting : Setting) (value : setting.kind.Value) (config : Configuration) :
    (setting.put value config).others = config.others := by
  cases setting <;> rfl

/-- A configuration is made of the settings with a variable and those without one. -/
theorem eq_of_get_eq
    (same : ∀ setting : Setting, setting.get result = setting.get config)
    (rest : result.others = config.others) :
    result = config := by
  obtain ⟨_, _, _, _, _, ⟨_, _, _, _, _, _, _⟩, ⟨_, _, _, _, _⟩⟩ := result
  obtain ⟨_, _, _, _, _, ⟨_, _, _, _, _, _, _⟩, ⟨_, _, _, _, _⟩⟩ := config
  simp only [others, Prod.mk.injEq] at rest
  obtain ⟨rfl, rfl, rfl⟩ := rest
  obtain rfl := same .group
  obtain rfl := same .consumer
  obtain rfl := same .stream
  obtain rfl := same .sources
  obtain rfl := same .url
  obtain rfl := same .workers
  obtain rfl := same .poolMin
  obtain rfl := same .poolMax
  obtain rfl := same .connectRetries
  obtain rfl := same .connectBackoffMs
  obtain rfl := same .size
  obtain rfl := same .timeoutSecs
  obtain rfl := same .maxAttempts
  obtain rfl := same .queueCapacity
  rfl

end Setting

/-! ## What a variable denotes -/

/-- The value of a text, or what is wrong with it. -/
def Kind.read : (kind : Kind) → String → String → Except ConfigurationError kind.Value
  | .text => fun _ raw => .ok (Text.trim raw)
  | .sources => fun _ raw => LabelledSource.ofSetting raw
  | .word => readWord
  | .halfWord => readHalfWord
  | .double => readDouble

theorem readNat_eq_ok_iff {key raw : String} {limit number : Nat} :
    readNat key limit raw = .ok number ↔
      Integer.IsNumeral (Text.trimChars raw.toList) number ∧ number ≤ limit := by
  rw [readNat, Except.mapError_eq_ok_iff, Integer.readNat_eq_ok_iff]

/-- Numbers up to a limit are read as the words they become, if that loses none of them. -/
theorem map_readNat_eq_ok_iff
    {α : Type}
    {key raw : String}
    {limit : Nat}
    {convert : Nat → α}
    {number : α → Nat}
    {value : α}
    (within : ∀ value, number value ≤ limit)
    (back : ∀ value, convert (number value) = value)
    (kept : ∀ found, found ≤ limit → number (convert found) = found) :
    (readNat key limit raw).map convert = .ok value ↔
      Integer.IsNumeral (Text.trimChars raw.toList) (number value) := by
  simp only [Except.map_eq_ok_iff, readNat_eq_ok_iff]
  constructor
  · rintro ⟨found, ⟨numeral, bounded⟩, rfl⟩
    rwa [kept found bounded]
  · intro numeral
    exact ⟨number value, ⟨numeral, within value⟩, back value⟩

theorem readWord_eq_ok_iff {key raw : String} {value : UInt64} :
    readWord key raw = .ok value ↔
      Integer.IsNumeral (Text.trimChars raw.toList) value.toNat :=
  map_readNat_eq_ok_iff (fun value => Nat.le_pred_of_lt value.toNat_lt_size)
    (fun _ => UInt64.ofNat_toNat)
    fun _ bounded => UInt64.toNat_ofNat_of_lt' (Nat.lt_of_le_pred (by decide) bounded)

theorem readHalfWord_eq_ok_iff {key raw : String} {value : UInt32} :
    readHalfWord key raw = .ok value ↔
      Integer.IsNumeral (Text.trimChars raw.toList) value.toNat :=
  map_readNat_eq_ok_iff (fun value => Nat.le_pred_of_lt value.toNat_lt_size)
    (fun _ => UInt32.ofNat_toNat)
    fun _ bounded => UInt32.toNat_ofNat_of_lt' (Nat.lt_of_le_pred (by decide) bounded)

theorem readDouble_eq_ok_iff {key raw : String} {value : Double} :
    readDouble key raw = .ok value ↔
      Double.read? (Text.trimChars raw.toList) = some value := by
  rw [readDouble]
  cases Double.read? (Text.trimChars raw.toList) with
  | none => simp
  | some found => simp

/-- A text is read as a value exactly if it denotes it. -/
theorem Kind.read_eq_ok_iff {kind : Kind} {key raw : String} {value : kind.Value} :
    kind.read key raw = .ok value ↔ kind.Denotes raw value := by
  cases kind with
  | text => exact ⟨Except.ok.inj, congrArg Except.ok⟩
  | sources => exact Iff.rfl
  | word => exact readWord_eq_ok_iff
  | halfWord => exact readHalfWord_eq_ok_iff
  | double => exact readDouble_eq_ok_iff

/-- A text denotes one value at most. -/
theorem Kind.Denotes.unique
    {kind : Kind}
    {raw : String}
    {value other : kind.Value}
    (denotes : kind.Denotes raw value)
    (again : kind.Denotes raw other) :
    value = other := by
  have read : kind.read "" raw = .ok value := Kind.read_eq_ok_iff.mpr denotes
  rw [Kind.read_eq_ok_iff.mpr again] at read
  exact (Except.ok.inj read).symm

/-- The error of a text that denotes no value is about its variable. -/
theorem exists_detail_of_read
    {setting : Setting}
    {raw : String}
    {error : ConfigurationError}
    (failed : setting.kind.read setting.key raw = .error error) :
    ∃ detail, error = .invalid setting.key detail := by
  have ofNumber : ∀ key limit, readNat key limit raw = .error error →
      ∃ detail, error = .invalid key detail := by
    intro key limit failed
    obtain ⟨fault, -, rfl⟩ := Except.mapError_eq_error_iff.mp failed
    exact ⟨_, rfl⟩
  have ofDouble : ∀ key, readDouble key raw = .error error →
      ∃ detail, error = .invalid key detail := by
    intro key failed
    rw [readDouble] at failed
    split at failed
    · cases failed
    · exact ⟨_, (Except.error.inj failed).symm⟩
  cases setting with
  | group | consumer | stream | url => cases failed
  | sources =>
      obtain ⟨fault, -, rfl⟩ := Except.mapError_eq_error_iff.mp failed
      exact ⟨_, rfl⟩
  | timeoutSecs => exact ofDouble _ failed
  | _ => exact ofNumber _ _ (Except.map_eq_error_iff.mp failed)

/-! ## Reading the variables -/

namespace Setting

/-- Whether the variable of a setting is set to a text that is not blank. -/
def IsSetTo (environment : Environment) (setting : Setting) (raw : String) : Prop :=
  environment setting.key = some raw ∧ Text.isBlankText raw = false

/-- Whether the variable of a setting is set to a text that denotes nothing. -/
def Spoils (environment : Environment) (setting : Setting) : Prop :=
  ∃ raw, setting.IsSetTo environment raw ∧ ∀ value, ¬ setting.kind.Denotes raw value

/-- The override of a setting. -/
def override (setting : Setting) : Override :=
  readOverride setting.key setting.kind.read setting.put

theorem overrides_eq : overrides = all.map override :=
  rfl

theorem present?_eq_some_iff {environment : Environment} {setting : Setting} {raw : String} :
    environment.present? setting.key = some raw ↔ setting.IsSetTo environment raw := by
  rw [Environment.present?, Option.filter_eq_some_iff, IsSetTo, Bool.not_eq_true']

theorem not_isSetTo_of_present?
    {environment : Environment}
    {setting : Setting}
    (absent : environment.present? setting.key = none)
    (raw : String) :
    ¬ setting.IsSetTo environment raw := by
  rw [← present?_eq_some_iff, absent]
  exact nofun

end Setting

/--
A configuration after the variables of some settings were read: these settings have what their
variables denote, if they are set to something, and everything else is as it was.
-/
structure IsOverridden (environment : Environment) (read : List Setting)
    (config result : Configuration) : Prop where
  taken : ∀ setting ∈ read, ∀ raw, setting.IsSetTo environment raw →
    setting.kind.Denotes raw (setting.get result)
  kept : ∀ setting : Setting, (setting ∈ read → ∀ raw, ¬ setting.IsSetTo environment raw) →
    setting.get result = setting.get config
  others : result.others = config.others

namespace IsOverridden

variable {environment : Environment} {setting : Setting} {read : List Setting}
  {config result : Configuration}

/-- Nothing is changed before a variable is read. -/
theorem nil (environment : Environment) (config : Configuration) :
    IsOverridden environment [] config config where
  taken := fun _ within => absurd within List.not_mem_nil
  kept := fun _ _ => rfl
  others := rfl

/-- A variable that is not set changes nothing. -/
theorem skip
    (later : IsOverridden environment read config result)
    (absent : ∀ raw, ¬ setting.IsSetTo environment raw) :
    IsOverridden environment (setting :: read) config result where
  taken := by
    intro other within raw set
    rcases List.mem_cons.mp within with rfl | within
    · exact absurd set (absent raw)
    · exact later.taken other within raw set
  kept := fun other unset => later.kept other fun within => unset (.tail _ within)
  others := later.others

/-- A variable that is set gives its setting a value, which later variables keep. -/
theorem take
    {raw : String}
    {value : setting.kind.Value}
    (later : IsOverridden environment read (setting.put value config) result)
    (fresh : setting ∉ read)
    (set : setting.IsSetTo environment raw)
    (denotes : setting.kind.Denotes raw value) :
    IsOverridden environment (setting :: read) config result where
  taken := by
    intro other within text found
    rcases List.mem_cons.mp within with rfl | within
    · obtain rfl : text = raw := Option.some.inj (found.1.symm.trans set.1)
      rw [later.kept other fun within => absurd within fresh, other.get_put_self]
      exact denotes
    · exact later.taken other within text found
  kept := by
    intro other unset
    have different : other ≠ setting := by
      rintro rfl
      exact unset List.mem_cons_self raw set
    rw [later.kept other fun within => unset (.tail _ within), Setting.get_put_of_ne different]
  others := by
    rw [later.others, setting.others_put]

/-- What the variables say is there already when they are read again. -/
theorem eq_of_again
    {again : Configuration}
    (overridden : IsOverridden environment Setting.all config result)
    (repeated : IsOverridden environment Setting.all result again) :
    again = result := by
  refine Setting.eq_of_get_eq (fun setting => ?_) repeated.others
  by_cases set : ∃ raw, setting.IsSetTo environment raw
  · obtain ⟨raw, set⟩ := set
    exact (repeated.taken setting setting.mem_all raw set).unique
      (overridden.taken setting setting.mem_all raw set)
  · exact repeated.kept setting fun _ raw present => set ⟨raw, present⟩

end IsOverridden

/--
A reading comes to its end or to the first setting whose variable denotes nothing; the settings
before it are overridden, and none of them has such a variable.
-/
def IsReading (environment : Environment) (settings : List Setting) (config : Configuration)
    (outcome : Except ConfigurationError Unit × Configuration) : Prop :=
  ∃ read, IsOverridden environment read config outcome.2 ∧
    (∀ setting ∈ read, ¬ setting.Spoils environment) ∧
    ((settings = read ∧ outcome.1 = .ok ()) ∨
      ∃ setting after detail, settings = read ++ setting :: after ∧ setting.Spoils environment ∧
        outcome.1 = .error (.invalid setting.key detail))

variable {environment : Environment} {setting : Setting} {settings : List Setting}
  {config middle : Configuration} {outcome : Except ConfigurationError Unit × Configuration}

/-- A reading is extended by a setting that comes before all of it. -/
theorem IsReading.cons
    (later : IsReading environment settings middle outcome)
    (sound : ¬ setting.Spoils environment)
    (extended : ∀ read, read ⊆ settings → IsOverridden environment read middle outcome.2 →
      IsOverridden environment (setting :: read) config outcome.2) :
    IsReading environment (setting :: settings) config outcome := by
  obtain ⟨read, overridden, sounds, rest⟩ := later
  have within : read ⊆ settings := by
    rcases rest with ⟨rfl, -⟩ | ⟨_, _, _, rfl, -⟩
    · exact List.Subset.refl _
    · exact List.subset_append_left _ _
  refine ⟨setting :: read, extended read within overridden,
    List.forall_mem_cons.mpr ⟨sound, sounds⟩, ?_⟩
  rcases rest with ⟨rfl, complete⟩ | ⟨spoiling, after, detail, rfl, spoils, failed⟩
  · exact .inl ⟨rfl, complete⟩
  · exact .inr ⟨spoiling, after, detail, rfl, spoils, failed⟩

/-- A reading that succeeds has read every setting. -/
theorem IsReading.complete
    (reading : IsReading environment settings config outcome)
    (succeeded : outcome.1 = .ok ()) :
    (∀ setting ∈ settings, ¬ setting.Spoils environment) ∧
      IsOverridden environment settings config outcome.2 := by
  obtain ⟨read, overridden, sounds, ⟨rfl, -⟩ | ⟨_, _, _, -, -, failed⟩⟩ := reading
  · exact ⟨sounds, overridden⟩
  · rw [succeeded] at failed
    cases failed

/-- A reading of variables that all denote something succeeds. -/
theorem IsReading.eq_ok
    (reading : IsReading environment settings config outcome)
    (sounds : ∀ setting ∈ settings, ¬ setting.Spoils environment) :
    outcome.1 = .ok () := by
  obtain ⟨read, -, -, ⟨-, complete⟩ | ⟨setting, after, detail, rfl, spoils, -⟩⟩ := reading
  · exact complete
  · exact absurd spoils (sounds setting (List.mem_append_right _ List.mem_cons_self))

/-- The overrides of distinct settings are read one after the other. -/
theorem isReading_overrideBy
    (environment : Environment)
    (distinct : settings.Nodup)
    (config : Configuration) :
    IsReading environment settings config
      (overrideBy environment (settings.map Setting.override) config) := by
  induction settings generalizing config with
  | nil => exact ⟨[], .nil environment config, by simp, .inl ⟨rfl, rfl⟩⟩
  | cons setting rest inductionHypothesis =>
      obtain ⟨fresh, distinct⟩ := List.nodup_cons.mp distinct
      rw [List.map_cons, overrideBy]
      cases found : environment.present? setting.override.key with
      | none =>
          have absent := Setting.not_isSetTo_of_present? found
          refine (inductionHypothesis distinct config).cons ?_ fun read _ later => later.skip absent
          rintro ⟨raw, set, -⟩
          exact absent raw set
      | some raw =>
          have set := Setting.present?_eq_some_iff.mp found
          dsimp only
          cases result : setting.override.set raw config with
          | error error =>
              have failed : setting.kind.read setting.key raw = .error error :=
                Except.map_eq_error_iff.mp result
              obtain ⟨detail, rfl⟩ := exists_detail_of_read failed
              refine ⟨[], .nil environment config, by simp,
                .inr ⟨setting, rest, detail, rfl, ⟨raw, set, fun value denotes => ?_⟩, rfl⟩⟩
              rw [Kind.read_eq_ok_iff.mpr denotes] at failed
              cases failed
          | ok next =>
              obtain ⟨value, read, rfl⟩ := Except.map_eq_ok_iff.mp result
              have denotes := Kind.read_eq_ok_iff.mp read
              refine (inductionHypothesis distinct _).cons ?_ fun read within later =>
                later.take (fun present => fresh (within present)) set denotes
              rintro ⟨other, again, nothing⟩
              obtain rfl : other = raw := Option.some.inj (again.1.symm.trans set.1)
              exact nothing value denotes

theorem isReading_overrideAll (environment : Environment) (config : Configuration) :
    IsReading environment Setting.all config (overrideAll environment config) := by
  rw [overrideAll, Setting.overrides_eq]
  exact isReading_overrideBy environment Setting.nodup_all config

/-- After the overrides a setting has the value from before, or that of its variable. -/
theorem get_of_overrideAll
    {result : Configuration}
    (setting : Setting)
    (done : overrideAll environment config = (.ok (), result)) :
    (environment.present? setting.key = none ∧ setting.get result = setting.get config) ∨
      ∃ raw, environment.present? setting.key = some raw ∧
        setting.kind.Denotes raw (setting.get result) := by
  have reading := isReading_overrideAll environment config
  rw [done] at reading
  obtain ⟨-, overridden⟩ := reading.complete rfl
  cases found : environment.present? setting.key with
  | none =>
      exact .inl ⟨rfl, overridden.kept setting fun _ => Setting.not_isSetTo_of_present? found⟩
  | some raw =>
      exact .inr ⟨raw, rfl, overridden.taken setting setting.mem_all raw
        (Setting.present?_eq_some_iff.mp found)⟩

/-! ## No variable is dropped -/

/-- After a reading that succeeds, the same environment changes nothing more. -/
theorem overrideAll_again
    (succeeded : (overrideAll environment config).1 = .ok ()) :
    overrideAll environment (overrideAll environment config).2 =
      (.ok (), (overrideAll environment config).2) := by
  obtain ⟨sounds, overridden⟩ := (isReading_overrideAll environment config).complete succeeded
  have reading := isReading_overrideAll environment (overrideAll environment config).2
  have repeated := reading.eq_ok sounds
  exact Prod.ext repeated (overridden.eq_of_again (reading.complete repeated).2)

/--
Whatever the environment, reading the overrides succeeds exactly if no variable is set to a text
that denotes nothing.  Then every setting with a variable has what its variable denotes if that is
set, everything else is as before, and the same environment changes nothing more.  Otherwise the
error names the first variable that denotes nothing, the settings read before it are overridden,
and everything else is as before.
-/
theorem overrideAll_drops_nothing (environment : Environment) (config : Configuration) :
    ∃ outcome result, overrideAll environment config = (outcome, result) ∧
      (outcome = .ok () ↔ ∀ setting : Setting, ¬ setting.Spoils environment) ∧
      (outcome = .ok () → IsOverridden environment Setting.all config result ∧
        overrideAll environment result = (.ok (), result)) ∧
      ∀ error, outcome = .error error →
        ∃ read setting after detail, Setting.all = read ++ setting :: after ∧
          (∀ earlier ∈ read, ¬ earlier.Spoils environment) ∧ setting.Spoils environment ∧
          error = .invalid setting.key detail ∧ IsOverridden environment read config result := by
  have reading := isReading_overrideAll environment config
  have again := @overrideAll_again environment config
  rcases read : overrideAll environment config with ⟨outcome, result⟩
  rw [read] at reading again
  refine ⟨outcome, result, rfl, ⟨fun succeeded setting => ?_, fun sounds => ?_⟩,
    fun succeeded => ⟨(reading.complete succeeded).2, again succeeded⟩, fun error failed => ?_⟩
  · exact (reading.complete succeeded).1 setting setting.mem_all
  · exact reading.eq_ok fun setting _ => sounds setting
  · obtain ⟨read, overridden, sounds, ⟨-, complete⟩ | spoiled⟩ := reading
    · rw [failed] at complete
      cases complete
    · obtain ⟨setting, after, detail, split, spoils, told⟩ := spoiled
      rw [failed] at told
      exact ⟨read, setting, after, detail, split, sounds, spoils, Except.error.inj told,
        overridden⟩

end Configuration
end FuzzIntake
