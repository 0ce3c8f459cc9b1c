import FuzzIntake.Broker
import FuzzIntake.Number.Integer
import FuzzIntake.Span
import FuzzIntake.Text.Pieces

/-!
# Commands to a stream server

The three commands a remote broker sends.  Only a read of new entries waits: its
longest wait is a whole number of milliseconds in a word of 64 bits.
-/

namespace FuzzIntake

/-- A command to a stream server. -/
inductive Command
  | createGroup (stream group : String)
  | readGroup (stream group consumer start : String) (count : UInt64)
      (block : Option UInt64)
  | acknowledge (stream group : String) (ids : List String)
deriving DecidableEq, Repr

namespace Command

/-- The read of at most `count` entries from `start`, which waits only for new entries. -/
def read (stream group consumer start : String) (count : UInt64) (block : Span) : Command :=
  .readGroup stream group consumer start count
    (if start = freshEntries then some (UInt64.ofNat block.millis) else none)

/-- A word in decimal. -/
def decimal (word : UInt64) : String :=
  String.ofList (Integer.writeNat word.toNat)

/-- The arguments of a command in the order they are sent. -/
def arguments : Command → List String
  | .createGroup stream group => ["XGROUP", "CREATE", stream, group, "$", "MKSTREAM"]
  | .readGroup stream group consumer start count block =>
      ["XREADGROUP", "GROUP", group, consumer] ++
        (match block with
        | some millis => ["BLOCK", decimal millis]
        | none => []) ++
        ["COUNT", decimal count, "STREAMS", stream, start]
  | .acknowledge stream group ids => "XACK" :: stream :: group :: ids

end Command

/-- Why a command was not answered. -/
inductive CommandError
  | reported (code detail : String)
  | io (detail : String)
  | dropped (detail : String)
  | timedOut (detail : String)
  | unreadable (detail : String)
deriving DecidableEq, Repr

namespace CommandError

/-- What a server reports in one line: a code, and after the first blank the detail. -/
def ofLine (line : String) : CommandError :=
  match Text.cut? ' ' line.toList with
  | some (code, detail) => .reported (String.ofList code) (String.ofList detail)
  | none => .reported line ""

/-- The wording of a command error; the server's general code `ERR` is spelled out. -/
def message : CommandError → String
  | .reported code detail =>
      if code = "ERR" then
        "An error was signalled by the server - ResponseError: " ++ detail
      else
        code ++ ": " ++ detail
  | .io detail => detail
  | .dropped detail => detail
  | .timedOut detail => detail
  | .unreadable detail => detail

/-- Whether the server says that a group it should create is there. -/
def isBusyGroup : CommandError → Bool
  | .reported code _ => code == "BUSYGROUP"
  | _ => false

/-- Whether the connection is of no more use. -/
def breaksConnection : CommandError → Bool
  | .io _ | .dropped _ | .timedOut _ => true
  | .reported _ _ | .unreadable _ => false

end CommandError
end FuzzIntake
