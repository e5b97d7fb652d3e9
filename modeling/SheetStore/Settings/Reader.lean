import SheetStore.Settings
import SheetStore.Json.Reader
import SheetStore.Files.Document

/-!
# Reading settings

Settings are written as a JSON object.  The paths of the data and of the schema have to be given,
and all else has a default.

```
{ "storage_path": "./storage", "schema_path": "./schema.json", "where_mode": "per_table" }
```
-/

namespace SheetStore.Settings

open Json

/-- The fields of the settings that have been read so far. -/
structure Draft where
  /-- The field `env`. -/
  environment : Option String := none
  /-- The field `storage_path`. -/
  storagePath : Option String := none
  /-- The field `schema_path`. -/
  schemaPath : Option String := none
  /-- The field `log_path`, which may be null. -/
  logPath : Option (Option String) := none
  /-- The field `host`. -/
  host : Option String := none
  /-- The field `port`. -/
  port : Option Nat := none
  /-- The field `conn_timeout_secs`. -/
  idleSeconds : Option Nat := none
  /-- The field `where_mode`. -/
  joinMode : Option JoinMode := none

namespace Draft

/-- Reads a name. -/
def readText : Reader String := Reader.text "a string"

/-- Reads a path. -/
def readPath : Reader String := Reader.text "path string"

/-- Reads a port. -/
def readPort : Reader Nat := Reader.natural 0x10000 "u16"

/-- Reads a number of seconds. -/
def readSeconds : Reader Nat := Reader.natural Text.wordBound "u64"

/-- Reads the name of a mode. -/
def readModeName : Reader JoinMode := do
  match ← Reader.text "variant identifier" with
  | "joined" => return .joined
  | "per_table" => return .perTable
  | name => throw (.unknownVariant name ["joined", "per_table"])

/-- Reads a mode: its name, or an object with the name and null as its only member. -/
def readMode : Reader JoinMode := do
  match ← Reader.peek with
  | .text _ | .flawed true _ _ => readModeName
  | .openObject =>
      let _ ← Reader.next
      let mode ← readModeName
      Reader.colon
      Reader.unit "unit"
      match ← Reader.next with
      | .closeObject => return mode
      | _ => throw .malformed
  | _ => throw .malformed

/-- Reads one member of settings that are given as an object. -/
def member (d : Draft) (name : String) : Reader Draft := do
  match name with
  | "env" => return { d with environment := ← Reader.once name d.environment readText }
  | "storage_path" => return { d with storagePath := ← Reader.once name d.storagePath readPath }
  | "schema_path" => return { d with schemaPath := ← Reader.once name d.schemaPath readPath }
  | "log_path" =>
      return { d with logPath := ← Reader.once name d.logPath (Reader.optional readPath) }
  | "host" => return { d with host := ← Reader.once name d.host readText }
  | "port" => return { d with port := ← Reader.once name d.port readPort }
  | "conn_timeout_secs" =>
      return { d with idleSeconds := ← Reader.once name d.idleSeconds readSeconds }
  | "where_mode" => return { d with joinMode := ← Reader.once name d.joinMode readMode }
  | _ =>
      Reader.ignore
      return d

/-- The settings of a draft in which the paths are given. -/
def complete (d : Draft) (storagePath schemaPath : String) : Settings :=
  let defaults : Settings := { storagePath, schemaPath }
  { storagePath, schemaPath
    environment := d.environment.getD defaults.environment
    logPath := d.logPath.getD defaults.logPath
    host := d.host.getD defaults.host
    port := d.port.getD defaults.port
    idleSeconds := d.idleSeconds.getD defaults.idleSeconds
    joinMode := d.joinMode.getD defaults.joinMode }

/-- Reads settings that are given as an object. -/
def ofObject : Reader Settings := do
  let d ← Reader.members member {}
  let storagePath ← Reader.required "storage_path" d.storagePath
  let schemaPath ← Reader.required "schema_path" d.schemaPath
  return d.complete storagePath schemaPath

/-- Reads settings that are given as an array of their fields. -/
def ofArray : Reader Settings := do
  let shape := "struct Config with 8 elements"
  let defaults : Settings := { storagePath := "", schemaPath := "" }
  let environment ← Reader.position shape 0 (some defaults.environment) readText
  let storagePath ← Reader.position shape 1 none readPath
  let schemaPath ← Reader.position shape 2 none readPath
  let logPath ← Reader.position shape 3 (some defaults.logPath) (Reader.optional readPath)
  let host ← Reader.position shape 4 (some defaults.host) readText
  let port ← Reader.position shape 5 (some defaults.port) readPort
  let idleSeconds ← Reader.position shape 6 (some defaults.idleSeconds) readSeconds
  let joinMode ← Reader.position shape 7 (some defaults.joinMode) readMode
  return { environment, storagePath, schemaPath, logPath, host, port, idleSeconds, joinMode }

end Draft

/-- Reads settings. -/
def ofText (text : String) : Except Json.Fault Settings :=
  Reader.run (Reader.struct "struct Config" Draft.ofObject Draft.ofArray) text

/-- Reads the settings in a file. -/
def load (files : FileTree) (path : Path) : Except (DocumentFault Json.Fault) Settings :=
  files.document path ofText

end SheetStore.Settings
