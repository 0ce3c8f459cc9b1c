import FuzzIntake.Broker.Remote

/-!
# Rehearsing a stream server

A stream server that gives one prepared answer to every command, and is reached
or not.
-/

namespace FuzzIntake

/-- A stream server with a prepared answer. -/
structure ScriptedServer where
  /-- Why no connection can be opened, if none can. -/
  outage : Option String
  /-- The answer to the next command. -/
  prepared : Except CommandError Reply

instance : StreamServer ScriptedServer where
  connect server :=
    match server.outage with
    | some detail => (.error detail, server)
    | none => (.ok (), server)
  answer _ server := (server.prepared, server)

end FuzzIntake
