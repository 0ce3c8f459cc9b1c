import FuzzIntake.Configuration.Document
import FuzzIntake.Number.Integer
import FuzzIntake.Number.Reading

/-!
# Configuration by environment

Fourteen variables override settings.  They are read in a fixed order, blank ones
count as absent, and the first one that is malformed ends the reading; the
settings overridden before it stay overridden.
-/

namespace FuzzIntake
namespace Configuration

/-- A variable and what its value does to a configuration. -/
structure Override where
  /-- The name of the variable. -/
  key : String
  /-- The configuration with the value of the variable. -/
  set : String → Configuration → Except ConfigurationError Configuration

/-- The error of a number that cannot be read. -/
def unreadableNumber (key raw detail : String) : ConfigurationError :=
  .invalid key ("`" ++ raw ++ "`: " ++ detail)

/-- A natural number of at most `limit`. -/
def readNat (key : String) (limit : Nat) (raw : String) : Except ConfigurationError Nat :=
  (Integer.readNat limit (Text.trimChars raw.toList)).mapError fun fault =>
    unreadableNumber key raw fault.message

/-- A word of 64 bits. -/
def readWord (key raw : String) : Except ConfigurationError UInt64 :=
  (readNat key (UInt64.size - 1) raw).map Nat.toUInt64

/-- A word of 32 bits. -/
def readHalfWord (key raw : String) : Except ConfigurationError UInt32 :=
  (readNat key (UInt32.size - 1) raw).map Nat.toUInt32

/-- A double. -/
def readDouble (key raw : String) : Except ConfigurationError Double :=
  match Double.read? (Text.trimChars raw.toList) with
  | some x => .ok x
  | none => .error (unreadableNumber key raw "invalid float literal")

/-- An override by text. -/
def textOverride (key : String) (put : String → Configuration → Configuration) : Override :=
  ⟨key, fun raw config => .ok (put (Text.trim raw) config)⟩

/-- An override by a value that has to be read. -/
def readOverride {α : Type} (key : String)
    (read : String → String → Except ConfigurationError α)
    (put : α → Configuration → Configuration) : Override :=
  ⟨key, fun raw config => (read key raw).map fun value => put value config⟩

/-- All overrides in the order they are read. -/
def overrides : List Override :=
  [textOverride "GROUP" fun v c => { c with group := v },
    textOverride "CONSUMER" fun v c => { c with consumer := v },
    textOverride "STREAM_NAME" fun v c => { c with stream := v },
    readOverride "STREAMS" (fun _ raw => LabelledSource.ofSetting raw) fun v c =>
      { c with sources := v },
    textOverride "PG_DSN" fun v c => { c with database.url := v },
    readOverride "DB_WORKER_THREADS" readWord fun v c => { c with database.workers := v },
    readOverride "DB_POOL_MIN" readHalfWord fun v c => { c with database.poolMin := v },
    readOverride "DB_POOL_MAX" readHalfWord fun v c => { c with database.poolMax := v },
    readOverride "VRIG_PG_CONNECT_RETRIES" readHalfWord fun v c =>
      { c with database.connectRetries := v },
    readOverride "VRIG_PG_CONNECT_BACKOFF_MS" readWord fun v c =>
      { c with database.connectBackoffMs := v },
    readOverride "BATCH_SIZE" readWord fun v c => { c with batch.size := v },
    readOverride "BATCH_TIMEOUT" readDouble fun v c => { c with batch.timeoutSecs := v },
    readOverride "BATCH_MAX_ATTEMPTS" readHalfWord fun v c =>
      { c with batch.maxAttempts := v },
    readOverride "QUEUE_CAPACITY" readWord fun v c => { c with queueCapacity := v }]

/-- The values of variables. -/
abbrev Environment : Type :=
  String → Option String

/-- The value of a variable that is set and not blank. -/
def Environment.present? (environment : Environment) (key : String) : Option String :=
  (environment key).filter fun value => !Text.isBlankText value

/-- Read overrides one after the other: what became of the reading, and the configuration. -/
def overrideBy (environment : Environment) :
    List Override → Configuration → Except ConfigurationError Unit × Configuration
  | [], config => (.ok (), config)
  | override :: rest, config =>
      match environment.present? override.key with
      | none => overrideBy environment rest config
      | some raw =>
          match override.set raw config with
          | .ok config => overrideBy environment rest config
          | .error fault => (.error fault, config)

/-- Read all overrides: what became of the reading, and the configuration. -/
def overrideAll (environment : Environment) (config : Configuration) :
    Except ConfigurationError Unit × Configuration :=
  overrideBy environment overrides config

/-- The variable that names the configuration file. -/
def pathVariable : String :=
  "VRIG_SYNC_CONFIG"

/--
The configuration of a process: its file, if one is named, then the overrides,
then the checks.  `fileText` gives the text of a file that can be read as text.
-/
def ofEnvironment (fileText : String → Option String) (environment : Environment) :
    Except ConfigurationError Configuration := do
  let config ← match environment.present? pathVariable with
    | none => .ok Configuration.standard
    | some path =>
        match fileText (Text.trim path) with
        | none => .error .unreadable
        | some text => Configuration.ofToml text
  match overrideAll environment config with
  | (.error fault, _) => .error fault
  | (.ok (), config) => do
      config.validate
      return config

end Configuration
end FuzzIntake
