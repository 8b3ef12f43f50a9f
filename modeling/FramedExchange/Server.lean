import FramedExchange.Buffer.Pool
import FramedExchange.Clock
import FramedExchange.Dispatcher
import FramedExchange.Metrics

/-!
# Servers

What the connections of one server share: the settings and the handlers, which never change, and the
metrics, the pool of buffers, the log and the mark that the server is shutting down.

Shutting down only turns keep-alive off: every connection still finishes the exchange that it is in.
-/

namespace FramedExchange

/-- The settings of a server. Times are in milliseconds, and a time of zero stands for no bound. -/
structure ServerSettings where
  /-- The time for reading one request from its first byte on. -/
  readTimeout : Time
  /-- The time for running a handler and writing its reply. -/
  writeTimeout : Time
  /-- The time that a connection may wait for the next request. -/
  idleTimeout : Time
  /-- Whether a connection may carry more than one request. -/
  keepAlive : Bool
  /-- How many connections may be served at once. -/
  maxConnections : Nat
  /-- The capacity of new buffers. -/
  bufferSize : Nat
  /-- How many idle buffers are kept. -/
  poolCapacity : Nat
deriving DecidableEq, Repr

namespace ServerSettings

/-- The settings of a server that is told nothing. -/
def default : ServerSettings where
  readTimeout := 0
  writeTimeout := 0
  idleTimeout := 0
  keepAlive := true
  maxConnections := 10000
  bufferSize := 8192
  poolCapacity := 1024

/-- The time that a connection may in fact wait for a request: the read timeout takes the place of
an idle timeout of zero. -/
def effectiveIdleTimeout (settings : ServerSettings) : Time :=
  if settings.idleTimeout = 0 then settings.readTimeout else settings.idleTimeout

end ServerSettings

/-- What a server writes to its log about panics. -/
inductive LogEntry
  /-- Code panicked. -/
  | panicked (panic : Panic)
  /-- A connection caught the panic of a handler. -/
  | handlerPanicked (connection : String) (convention : Convention) (code : UInt16) (panic : Panic)
deriving DecidableEq, Repr

/-- A server, as its connections see it. -/
structure Server where
  settings : ServerSettings
  dispatcher : Dispatcher
  metrics : Metrics
  pool : Pool
  isShuttingDown : Bool
  log : List LogEntry

namespace Server

/-- A server without connections. -/
def start (settings : ServerSettings) (dispatcher : Dispatcher) : Server where
  settings := settings
  dispatcher := dispatcher
  metrics := Metrics.empty
  pool := Pool.empty settings.poolCapacity settings.bufferSize
  isShuttingDown := false
  log := []

/-- Whether a connection goes on to a next request after a reply. -/
def keepsAlive (server : Server) : Bool :=
  server.settings.keepAlive && !server.isShuttingDown

/-- Turn keep-alive off for good. -/
def beginShutdown (server : Server) : Server := { server with isShuttingDown := true }

end Server

end FramedExchange
