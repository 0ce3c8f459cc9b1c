import FuzzIntake.Broker.Command
import FuzzIntake.Broker.Reply

/-!
# Remote brokers

A remote broker keeps one connection to a stream server.  It opens the
connection when a command needs it and gives it up when a command fails in a way
that leaves the connection of no use.
-/

namespace FuzzIntake

/-- Stream servers that answer commands. -/
class StreamServer (σ : Type) where
  /-- Open a connection, or say why there is none. -/
  connect : σ → Except String Unit × σ
  /-- Answer a command. -/
  answer : Command → σ → Except CommandError Reply × σ

/-- What happens between a broker and its server. -/
inductive Traffic
  | opened
  | unreached (detail : String)
  | exchanged (command : Command) (outcome : Except CommandError Reply)

/-- A broker on a remote server. -/
structure RemoteBroker (σ : Type) where
  /-- The server. -/
  server : σ
  /-- Whether there is a connection. -/
  connected : Bool
  /-- What happened so far. -/
  traffic : List Traffic

namespace RemoteBroker

variable {σ : Type} [StreamServer σ]

/-- A broker without a connection. -/
def new {σ : Type} (server : σ) : RemoteBroker σ :=
  ⟨server, false, []⟩

/-- Open a connection unless there is one. -/
def connect (broker : RemoteBroker σ) : Except BrokerError Unit × RemoteBroker σ :=
  if broker.connected then
    (.ok (), broker)
  else
    match StreamServer.connect broker.server with
    | (.ok (), server) => (.ok (), ⟨server, true, broker.traffic ++ [.opened]⟩)
    | (.error detail, server) =>
        (.error (.connect detail), ⟨server, false, broker.traffic ++ [.unreached detail]⟩)

/-- Send a command on the connection. -/
def exchange (command : Command) (broker : RemoteBroker σ) :
    Except CommandError Reply × RemoteBroker σ :=
  let (outcome, server) := StreamServer.answer command broker.server
  let connected := match outcome with
    | .ok _ => broker.connected
    | .error error => broker.connected && !error.breaksConnection
  (outcome, ⟨server, connected, broker.traffic ++ [.exchanged command outcome]⟩)

/-- Send a command, connecting first if needed, and read its outcome. -/
def call {α : Type} (command : Command)
    (read : Except CommandError Reply → Except BrokerError α) (broker : RemoteBroker σ) :
    Except BrokerError α × RemoteBroker σ :=
  match broker.connect with
  | (.error error, broker) => (.error error, broker)
  | (.ok (), broker) =>
      let (outcome, broker) := broker.exchange command
      (read outcome, broker)

/-- Whether the group was created; a reply to its creation is not looked at. -/
def groupOutcome : Except CommandError Reply → Except BrokerError GroupOutcome
  | .ok _ => .ok .created
  | .error error =>
      if error.isBusyGroup then .ok .existing else .error (.groupSetup error.message)

/-- The entries that were read. -/
def page : Except CommandError Reply → Except BrokerError (List Delivery)
  | .ok reply =>
      match reply.entries? with
      | some entries => .ok entries
      | none => .error (.read "the reply holds no entries")
  | .error error => .error (.read error.message)

/-- Whether entries were acknowledged; how many is not looked at. -/
def acknowledgement : Except CommandError Reply → Except BrokerError Unit
  | .ok reply =>
      match reply.integer? with
      | some _ => .ok ()
      | none => .error (.acknowledge "the reply is no number")
  | .error error => .error (.acknowledge error.message)

/-- Make sure that a group exists. -/
def setUpGroup (stream group : String) (broker : RemoteBroker σ) :
    Except BrokerError GroupOutcome × RemoteBroker σ :=
  broker.call (.createGroup stream group) groupOutcome

/-- Read entries. -/
def read (stream group consumer start : String) (count : UInt64) (block : Span)
    (broker : RemoteBroker σ) : Except BrokerError (List Delivery) × RemoteBroker σ :=
  broker.call (.read stream group consumer start count block) page

/-- Acknowledge ids; without ids there is nothing to send. -/
def acknowledge (stream group : String) (ids : List String) (broker : RemoteBroker σ) :
    Except BrokerError Unit × RemoteBroker σ :=
  if ids.isEmpty then
    (.ok (), broker)
  else
    broker.call (.acknowledge stream group ids) acknowledgement

end RemoteBroker
end FuzzIntake
