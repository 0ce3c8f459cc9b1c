import FuzzIntake.Configuration.Source
import FuzzIntake.Configuration.Url
import FuzzIntake.Number.Notation
import FuzzIntake.Settings

/-!
# Configuration

The settings of a deployment.  `validate` refuses the settings that no intake
can run with; the first one in a fixed order decides the error.
-/

namespace FuzzIntake

/-- How workers reach their database. -/
structure DatabaseSection where
  /-- Where the database is, with credentials. -/
  url : String
  /-- The number of workers. -/
  workers : UInt64
  /-- The fewest connections of a worker. -/
  poolMin : UInt32
  /-- The most connections of a worker. -/
  poolMax : UInt32
  /-- The longest wait for a connection, in seconds. -/
  acquireTimeoutSecs : Double
  /-- How often the first connection is tried again. -/
  connectRetries : UInt32
  /-- The pause before it is tried again, in milliseconds. -/
  connectBackoffMs : UInt64
deriving DecidableEq, Repr

/-- How operations are batched and retried. -/
structure BatchSection where
  /-- The size of a batch. -/
  size : UInt64
  /-- The age of a batch, in seconds. -/
  timeoutSecs : Double
  /-- All attempts at a batch. -/
  maxAttempts : UInt32
  /-- The pause before another attempt, in milliseconds. -/
  retryBackoffMs : UInt64
  /-- The most dead letters that are kept. -/
  deadLetterCapacity : UInt64
deriving DecidableEq, Repr

/-- The settings of a deployment. -/
structure Configuration where
  /-- The consumer group. -/
  group : String
  /-- The member's name within the group. -/
  consumer : String
  /-- The stream. -/
  stream : String
  /-- The brokers to read from. -/
  sources : List LabelledSource
  /-- The room of the operation queue. -/
  queueCapacity : UInt64
  /-- How workers reach their database. -/
  database : DatabaseSection
  /-- How operations are batched and retried. -/
  batch : BatchSection
deriving DecidableEq, Repr

/-- Four workers with up to ten connections each. -/
def DatabaseSection.standard : DatabaseSection where
  url := "postgres://fuzzuser:pass@pg:5432/main"
  workers := 4
  poolMin := 2
  poolMax := 10
  acquireTimeoutSecs := Double.ofNat 30
  connectRetries := 3
  connectBackoffMs := 500

/-- Batches of 400 operations or a tenth of a second, tried three times. -/
def BatchSection.standard : BatchSection where
  size := 400
  timeoutSecs := Double.ofRatio false 1 10
  maxAttempts := 3
  retryBackoffMs := 200
  deadLetterCapacity := 1024

/-- Two sources on the usual stream. -/
def Configuration.standard : Configuration where
  group := "g_fuzz"
  consumer := "c_sync_1"
  stream := "stream:fuzz:updates"
  sources := [⟨"redis1", "redis://redis1:6379"⟩, ⟨"redis2", "redis://redis2:6379"⟩]
  queueCapacity := 10000
  database := .standard
  batch := .standard

/-- How a worker opens its connections. -/
structure DatabaseSettings where
  /-- Where the database is, with credentials. -/
  url : String
  /-- The fewest connections. -/
  minConnections : UInt32
  /-- The most connections. -/
  maxConnections : UInt32
  /-- The longest wait for a connection. -/
  acquireTimeout : Span
deriving DecidableEq, Repr

namespace Configuration

/-- The span of a setting in seconds. -/
def spanOf (key : String) (seconds : Double) : Except ConfigurationError Span :=
  (Span.ofDouble seconds).mapError fun fault =>
    .invalid key (String.ofList seconds.plain ++ ": " ++ fault.message)

/-- The age of a batch. -/
def batchTimeout (config : Configuration) : Except ConfigurationError Span :=
  spanOf "BATCH_TIMEOUT" config.batch.timeoutSecs

/-- The longest wait for a connection. -/
def acquireTimeout (config : Configuration) : Except ConfigurationError Span :=
  spanOf "database.acquire_timeout_secs" config.database.acquireTimeoutSecs

/-- Refuse a setting when `faulty` holds. -/
def refuse (faulty : Bool) (key detail : String) : Except ConfigurationError Unit :=
  if faulty then .error (.invalid key detail) else .ok ()

/-- Texts that must not be blank. -/
def checkTexts (config : Configuration) : Except ConfigurationError Unit := do
  refuse (Text.isBlankText config.group) "GROUP" "must not be empty"
  refuse (Text.isBlankText config.consumer) "CONSUMER" "must not be empty"
  refuse (Text.isBlankText config.stream) "STREAM_NAME" "must not be empty"
  refuse (Text.isBlankText config.database.url) "PG_DSN" "must not be empty"

/-- At least one source, each with a label and a URL. -/
def checkSources (config : Configuration) : Except ConfigurationError Unit := do
  refuse config.sources.isEmpty "STREAMS" "at least one source required"
  refuse (config.sources.any fun source => source.label == "" || source.url == "") "STREAMS"
    "empty label or url"

/-- Counts that must be positive, and a connection range that is not empty. -/
def checkCounts (config : Configuration) : Except ConfigurationError Unit := do
  refuse (config.database.workers == 0) "DB_WORKER_THREADS" "must be at least 1"
  refuse
    (config.database.poolMax == 0 ||
      decide (config.database.poolMax < config.database.poolMin))
    "DB_POOL_MAX"
    ("min (" ++ toString config.database.poolMin.toNat ++ ") must not exceed max (" ++
      toString config.database.poolMax.toNat ++ "), max must be positive")
  refuse (config.batch.size == 0) "BATCH_SIZE" "must be at least 1"
  refuse (config.batch.maxAttempts == 0) "BATCH_MAX_ATTEMPTS" "must be at least 1"
  refuse (config.queueCapacity == 0) "QUEUE_CAPACITY" "must be at least 1"

/-- A positive batch age and a connection wait that is a span. -/
def checkSpans (config : Configuration) : Except ConfigurationError Unit := do
  let timeout ← config.batchTimeout
  refuse (timeout.nanos == 0) "BATCH_TIMEOUT" "must be positive"
  let _ ← config.acquireTimeout

/-- Whether an intake can run with the settings, or the first setting it cannot run with. -/
def validate (config : Configuration) : Except ConfigurationError Unit := do
  config.checkTexts
  config.checkSources
  config.checkCounts
  config.checkSpans

/-- When batches are given away. -/
def batchLimits (config : Configuration) : Except ConfigurationError BatchLimits :=
  config.batchTimeout.map fun timeout => ⟨config.batch.size.toNat, timeout⟩

/-- How often failing batches are tried. -/
def retrySchedule (config : Configuration) : RetrySchedule :=
  ⟨config.batch.maxAttempts.toNat, Span.ofMillis config.batch.retryBackoffMs.toNat⟩

/-- How the streams are read. -/
def consumerSettings (config : Configuration) : ConsumerSettings :=
  { ConsumerSettings.standard with
    stream := config.stream
    group := config.group
    consumer := config.consumer }

/-- The settings of the whole intake. -/
def intakeSettings (config : Configuration) : Except ConfigurationError IntakeSettings :=
  config.batchLimits.map fun batch =>
    { queueCapacity := config.queueCapacity.toNat
      batch := batch
      retry := config.retrySchedule
      deadLetterCapacity := config.batch.deadLetterCapacity.toNat
      consumer := config.consumerSettings }

/-- The pause before the first connection is tried again. -/
def connectBackoff (config : Configuration) : Span :=
  Span.ofMillis config.database.connectBackoffMs.toNat

/-- How a worker opens its connections. -/
def databaseSettings (config : Configuration) : Except ConfigurationError DatabaseSettings :=
  config.acquireTimeout.map fun timeout =>
    ⟨config.database.url, config.database.poolMin, config.database.poolMax, timeout⟩

/-- The URL of the database without its password. -/
def redactedUrl (config : Configuration) : String :=
  Url.redact config.database.url

end Configuration
end FuzzIntake
