import FuzzIntake.Configuration
import FuzzIntake.Toml.Reader

/-!
# Configuration files

A configuration file is a TOML document.  A key that is absent keeps its
standard value, a key of another name is ignored, and a group of settings may
also be a list of values in order.
-/

namespace FuzzIntake
namespace Configuration
namespace Document

open Toml (Value Entries)

/-- A text. -/
def text? : Value → Option String
  | .text s => some s
  | _ => none

/-- A natural number below `limit`. -/
def nat? (limit : Nat) : Value → Option Nat
  | .integer n => if 0 ≤ n ∧ n < limit then some n.toNat else none
  | _ => none

/-- A word of 64 bits. -/
def word? (value : Value) : Option UInt64 :=
  (nat? UInt64.size value).map Nat.toUInt64

/-- A word of 32 bits. -/
def halfWord? (value : Value) : Option UInt32 :=
  (nat? UInt32.size value).map Nat.toUInt32

/-- A float, or an integer of at most 64 bits as a float. -/
def double? : Value → Option Double
  | .double x => some x
  | .integer n =>
      if -(Nat.pow 2 63 : Int) ≤ n ∧ n < UInt64.size then some (Double.ofInt n) else none
  | _ => none

/-- The items of a list of either kind. -/
def items? : Value → Option (List Value)
  | .list items => some items
  | .tables items => some items
  | _ => none

mutual

/-- A value whose numbers, at any depth, have a value: integers have at most 128 bits. -/
def isModerate : Value → Bool
  | .integer n => -(Nat.pow 2 127 : Int) ≤ n && n < Nat.pow 2 128
  | .numeral => false
  | .list items => allModerate items
  | .tables items => allModerate items
  | .table _ entries => entriesModerate entries
  | _ => true

/-- Items whose numbers have a value. -/
def allModerate : List Value → Bool
  | [] => true
  | item :: rest => isModerate item && allModerate rest

/-- Entries whose numbers have a value. -/
def entriesModerate : Entries → Bool
  | [] => true
  | (_, value) :: rest => isModerate value && entriesModerate rest

end

/-- The settings of a table; what other keys name is ignored, but its numbers have a value. -/
def named? (names : List String) (entries : Entries) : Option Entries :=
  let (known, others) := entries.partition fun entry => names.contains entry.1
  if entriesModerate others then some known else none

/--
The values of a group of settings by name: a table, or a list in the order of the
names, whose surplus items are not looked at.  A date names no settings.
-/
def settings? (names : List String) : Value → Option Entries
  | .table _ entries => named? names entries
  | .datetime => some []
  | value => (items? value).map fun items => names.zip items

/-- The value of a setting, or its standard value when it is absent. -/
def setting? {α : Type} (read? : Value → Option α) (name : String) (standard : α)
    (entries : Entries) : Option α :=
  match entries.lookup name with
  | none => some standard
  | some value => read? value

/-- The value of a setting that must be present. -/
def required? {α : Type} (read? : Value → Option α) (name : String) (entries : Entries) :
    Option α :=
  (entries.lookup name).bind read?

/-- A stream source. -/
def source? (value : Value) : Option LabelledSource := do
  let entries ← settings? ["label", "url"] value
  return ⟨← required? text? "label" entries, ← required? text? "url" entries⟩

/-- A list of stream sources. -/
def sources? (value : Value) : Option (List LabelledSource) :=
  (items? value).bind fun items => items.mapM source?

/-- The settings of the database. -/
def database? (value : Value) : Option DatabaseSection := do
  let standard := DatabaseSection.standard
  let entries ← settings?
    ["url", "workers", "pool_min", "pool_max", "acquire_timeout_secs", "connect_retries",
      "connect_backoff_ms"] value
  return {
    url := ← setting? text? "url" standard.url entries
    workers := ← setting? word? "workers" standard.workers entries
    poolMin := ← setting? halfWord? "pool_min" standard.poolMin entries
    poolMax := ← setting? halfWord? "pool_max" standard.poolMax entries
    acquireTimeoutSecs :=
      ← setting? double? "acquire_timeout_secs" standard.acquireTimeoutSecs entries
    connectRetries := ← setting? halfWord? "connect_retries" standard.connectRetries entries
    connectBackoffMs :=
      ← setting? word? "connect_backoff_ms" standard.connectBackoffMs entries }

/-- The settings of batches. -/
def batch? (value : Value) : Option BatchSection := do
  let standard := BatchSection.standard
  let entries ← settings?
    ["size", "timeout_secs", "max_attempts", "retry_backoff_ms", "dead_letter_capacity"] value
  return {
    size := ← setting? word? "size" standard.size entries
    timeoutSecs := ← setting? double? "timeout_secs" standard.timeoutSecs entries
    maxAttempts := ← setting? halfWord? "max_attempts" standard.maxAttempts entries
    retryBackoffMs := ← setting? word? "retry_backoff_ms" standard.retryBackoffMs entries
    deadLetterCapacity :=
      ← setting? word? "dead_letter_capacity" standard.deadLetterCapacity entries }

/-- The configuration of a top table. -/
def config? (entries : Entries) : Option Configuration := do
  let standard := Configuration.standard
  let entries ← named?
    ["group", "consumer", "stream", "sources", "queue_capacity", "database", "batch"] entries
  return {
    group := ← setting? text? "group" standard.group entries
    consumer := ← setting? text? "consumer" standard.consumer entries
    stream := ← setting? text? "stream" standard.stream entries
    sources := ← setting? sources? "sources" standard.sources entries
    queueCapacity := ← setting? word? "queue_capacity" standard.queueCapacity entries
    database := ← setting? database? "database" standard.database entries
    batch := ← setting? batch? "batch" standard.batch entries }

end Document

/-- The configuration of a file. -/
def ofToml (text : String) : Except ConfigurationError Configuration :=
  match (Toml.read? text).bind Document.config? with
  | some config => .ok config
  | none => .error .malformed

end Configuration
end FuzzIntake
