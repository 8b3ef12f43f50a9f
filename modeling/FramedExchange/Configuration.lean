import FramedExchange.AcceptLoop
import FramedExchange.SettingsFile
import FramedExchange.SocketAddress

/-!
# Configuration

A server is configured by its command line, by a settings file, and by defaults, in this order of
precedence. Switching keep-alive off in either place switches it off. The sizes of buffers and of
the pool come from the file alone.
-/

namespace FramedExchange

/-- How a server is to be run. -/
structure Configuration where
  listen : SocketAddress
  convention : Convention
  readTimeout : Time
  writeTimeout : Time
  idleTimeout : Time
  keepAlive : Bool
  maxConnections : Nat
  bufferSize : Nat
  poolCapacity : Nat
  logLevel : String
deriving DecidableEq, Repr

/-- A setting with a value that cannot be used. -/
inductive InvalidSetting
  | noConnections
  | tooManyConnections
  | emptyBuffers
  | buffersTooLarge
deriving DecidableEq, Repr

/-- The wording of an invalid setting. -/
def InvalidSetting.message : InvalidSetting → String
  | noConnections => "max_connections must be positive"
  | tooManyConnections => "max_connections is too large"
  | emptyBuffers => "buffers.size must be positive"
  | buffersTooLarge => "buffers.size must not exceed 64 MiB"

/-- Why a server cannot be configured. -/
inductive ConfigurationError
  /-- The settings file cannot be read. -/
  | unreadable (path : String) (error : IoError)
  /-- The settings file is malformed, or a setting in it is of the wrong kind. -/
  | malformed (path : String)
  | invalidListen (text : String)
  | invalid (setting : InvalidSetting)
deriving DecidableEq, Repr

/-- The wording of a configuration error. -/
def ConfigurationError.message : ConfigurationError → String
  | unreadable path error => "Failed to read config file '" ++ path ++ "': " ++ error.text
  | malformed path => "Failed to parse config file '" ++ path ++ "'"
  | invalidListen text => "Invalid listen address '" ++ text ++ "'"
  | invalid setting => "Invalid configuration: " ++ setting.message

namespace Configuration

/-- The greatest number of connections that can be served at once. -/
def maxConnectionsLimit : Nat := AcceptLoop.slotLimit

/-- The greatest size of a new buffer, 64 MiB. -/
def bufferSizeLimit : Nat := 64 * 1024 * 1024

/-- The log level. The default level on the command line does not count as given. -/
def logLevelOf (line : CommandLine) (file : SettingsFile) : String :=
  match line.logLevel? with
  | some level => if level = SettingsFile.defaultLogLevel then file.logLevel else level
  | none => file.logLevel

/-- Put the command line over the file. -/
def merge (line : CommandLine) (file : SettingsFile) : Except ConfigurationError Configuration :=
  let listen := line.listen?.getD file.listen
  let maxConnections := line.maxConnections?.getD file.maxConnections
  match SocketAddress.parse? listen with
  | none => .error (.invalidListen listen)
  | some address =>
    if maxConnections = 0 then .error (.invalid .noConnections)
    else if maxConnectionsLimit < maxConnections then .error (.invalid .tooManyConnections)
    else if file.bufferSize = 0 then .error (.invalid .emptyBuffers)
    else if bufferSizeLimit < file.bufferSize then .error (.invalid .buffersTooLarge)
    else .ok {
      listen := address
      convention := line.convention?.getD file.convention
      readTimeout := line.readTimeout?.getD file.readTimeout
      writeTimeout := line.writeTimeout?.getD file.writeTimeout
      idleTimeout := line.idleTimeout?.getD file.idleTimeout
      keepAlive := !line.noKeepAlive && file.keepAlive
      maxConnections
      bufferSize := file.bufferSize
      poolCapacity := file.poolCapacity
      logLevel := logLevelOf line file }

/-- What the settings file of a command line sets, with the contents of files given by their
paths. -/
def fileOf (contentsAt : String → Except IoError Bytes) (line : CommandLine) :
    Except ConfigurationError SettingsFile :=
  match line.file? with
  | none => .ok SettingsFile.default
  | some path =>
    match contentsAt path with
    | .error error => .error (.unreadable path error)
    | .ok bytes =>
      match Bytes.toString? bytes with
      | none => .error (.unreadable path .notText)
      | some text =>
        match SettingsFile.parse? text with
        | none => .error (.malformed path)
        | some file => .ok file

/-- Configure a server by a command line. -/
def resolve (contentsAt : String → Except IoError Bytes) (line : CommandLine) :
    Except ConfigurationError Configuration := do
  merge line (← fileOf contentsAt line)

/-- The settings of the server. -/
def serverSettings (configuration : Configuration) : ServerSettings where
  readTimeout := configuration.readTimeout
  writeTimeout := configuration.writeTimeout
  idleTimeout := configuration.idleTimeout
  keepAlive := configuration.keepAlive
  maxConnections := configuration.maxConnections
  bufferSize := configuration.bufferSize
  poolCapacity := configuration.poolCapacity

end Configuration

end FramedExchange
