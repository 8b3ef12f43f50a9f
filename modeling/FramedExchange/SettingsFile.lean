import FramedExchange.CommandLine
import FramedExchange.Server
import FramedExchange.Toml.Document

/-!
# What a settings file sets

A settings file has the sections `server`, `timeouts`, `buffers` and `logging`. What it does not
give has a default; what it gives beside that does not matter. A section may also be given as an
array of its settings in their order.
-/

namespace FramedExchange

/-- What a settings file sets, with the defaults where it is silent. -/
structure SettingsFile where
  listen : String
  convention : Convention
  keepAlive : Bool
  maxConnections : Nat
  readTimeout : Time
  writeTimeout : Time
  idleTimeout : Time
  bufferSize : Nat
  poolCapacity : Nat
  logLevel : String
deriving DecidableEq, Repr

namespace SettingsFile

/-- The default log level. -/
def defaultLogLevel : String := "info"

/-- A settings file that sets nothing. -/
def default : SettingsFile where
  listen := "127.0.0.1:7070"
  convention := .path
  keepAlive := ServerSettings.default.keepAlive
  maxConnections := ServerSettings.default.maxConnections
  readTimeout := ServerSettings.default.readTimeout
  writeTimeout := ServerSettings.default.writeTimeout
  idleTimeout := ServerSettings.default.idleTimeout
  bufferSize := ServerSettings.default.bufferSize
  poolCapacity := ServerSettings.default.poolCapacity
  logLevel := defaultLogLevel

open Toml

/-! ### Single settings -/

/-- A text. -/
def text? : Value → Option String
  | .string text => some text
  | _ => none

/-- A switch. -/
def boolean? : Value → Option Bool
  | .boolean b => some b
  | _ => none

/-- A number, which must not be negative. -/
def natural? : Value → Option Nat
  | .integer (.ofNat n) => some n
  | _ => none

/-- A convention: its name as a text, or as the only key of a table whose value holds nothing. -/
def convention? : Value → Option Convention
  | .string name => CommandLine.conventionOf? name
  | .table _ [(name, content)] => do
    guard content.isEmpty
    CommandLine.conventionOf? name
  | _ => none

/-! ### Sections -/

/-- The values that a section gives for its settings, which are listed in their order. A date is a
section that gives nothing. -/
def valuesOf (settings : List String) : Value → Option (List (Option Value))
  | .table _ entries => some (settings.map fun setting ↦ entries.lookup setting)
  | .array items => some (settings.zipIdx.map fun (_, place) ↦ items[place]?)
  | .tables elements =>
    some (settings.zipIdx.map fun (_, place) ↦ elements[place]?.map (Value.table .header))
  | .date => some (settings.map fun _ ↦ none)
  | _ => none

/-- The values that a file gives for the settings of a section. -/
def sectionOf (file : Entries) (name : String) (settings : List String) :
    Option (List (Option Value)) :=
  match file.lookup name with
  | none => some (settings.map fun _ ↦ none)
  | some value => valuesOf settings value

/-- The setting at a place of a section, or its default. -/
def setting {α : Type} (read? : Value → Option α) (default : α) (values : List (Option Value))
    (place : Nat) : Option α :=
  match values[place]?.join with
  | none => some default
  | some value => read? value

/-- Read the settings from the entries of a file. -/
def ofEntries? (file : Entries) : Option SettingsFile := do
  let server ← sectionOf file "server" ["listen", "convention", "keep_alive", "max_connections"]
  let timeouts ← sectionOf file "timeouts" ["read_ms", "write_ms", "idle_ms"]
  let buffers ← sectionOf file "buffers" ["size", "pool_capacity"]
  let logging ← sectionOf file "logging" ["level"]
  return {
    listen := ← setting text? default.listen server 0
    convention := ← setting convention? default.convention server 1
    keepAlive := ← setting boolean? default.keepAlive server 2
    maxConnections := ← setting natural? default.maxConnections server 3
    readTimeout := ← setting natural? default.readTimeout timeouts 0
    writeTimeout := ← setting natural? default.writeTimeout timeouts 1
    idleTimeout := ← setting natural? default.idleTimeout timeouts 2
    bufferSize := ← setting natural? default.bufferSize buffers 0
    poolCapacity := ← setting natural? default.poolCapacity buffers 1
    logLevel := ← setting text? default.logLevel logging 0 }

/-- Read the settings from the text of a file. -/
def parse? (text : String) : Option SettingsFile := Document.parse? text >>= ofEntries?

end SettingsFile

end FramedExchange
