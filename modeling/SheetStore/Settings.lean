import SheetStore.JoinMode

/-!
# Settings

The settings of a server: where its data and its schema are, where it listens, how long a client may
be idle, and how conditions are enforced.
-/

namespace SheetStore

/-- The settings of a server. -/
structure Settings where
  /-- The name of the deployment. -/
  environment : String := "prod"
  /-- The directory that holds the database. -/
  storagePath : String
  /-- The file that holds the schema. -/
  schemaPath : String
  /-- The file that takes the log, if there is one. -/
  logPath : Option String := none
  /-- The host name to listen on. -/
  host : String := "127.0.0.1"
  /-- The port to listen on. -/
  port : Nat := 7432
  /-- How many seconds a client may be idle, or zero for any time. -/
  idleSeconds : Nat := 0
  /-- How conditions over several tables are enforced. -/
  joinMode : JoinMode := .joined
deriving DecidableEq, Repr

namespace Settings

/-- Whether the deployment is a local one. -/
def isLocal (s : Settings) : Bool := s.environment == "local"

/-- The address to listen on. -/
def listenAddress (s : Settings) : String := s.host ++ ":" ++ toString s.port

/-- How many seconds a client may be idle, if that is limited. -/
def idleLimit? (s : Settings) : Option Nat := if s.idleSeconds = 0 then none else some s.idleSeconds

end Settings

end SheetStore
