import FramedExchange.Connection.Phase

/-!
# Connections

A connection joins a server and a stream. It borrows two buffers from the pool of the server when it
is opened, and from then on the server counts it. It is served by running one phase after another
until the stream is shut down; then the buffers go back to the pool and the connection is closed.
However a connection ends, by serving, by closing or by being dropped, it is closed once: the count
goes down once and the buffers go back once.

If the serving of a connection is abandoned, its stream and its buffers are lost with it, and the
connection counts as open until it is closed or dropped.
-/

namespace FramedExchange

/-- A connection to a server. -/
structure Connection where
  /-- The name by which the log refers to the connection. -/
  name : String
  link : Link
  /-- Whether the connection still has its stream and its buffers. -/
  isAttached : Bool
  isClosed : Bool
deriving DecidableEq, Repr

namespace Server

/-- Take note of what happened in a phase of a connection. -/
def note (connection : String) (server : Server) (happening : Happening) : Server :=
  match happening with
  | .read elapsed => { server with metrics := server.metrics.recordRead elapsed }
  | .dispatched _ => server
  | .shutdownBegun => server.beginShutdown
  | .panicked code panic =>
    { server with
      log := server.log ++ [.panicked panic,
        .handlerPanicked connection server.dispatcher.convention code panic] }
  | .wrote elapsed => { server with metrics := server.metrics.recordWrite elapsed }

/-- Lend two buffers to a new connection and count it. New buffers are taken to be of a size that
can be made (`Pool.acquire`), as those of a configured server are. -/
def openConnection (name : String) (source : Source) (sink : Sink) (server : Server) :
    Connection × Server :=
  let (readBuffer, pool) := server.pool.next
  let (writeBuffer, pool) := pool.next
  ({ name
     link := ⟨⟨readBuffer, source⟩, ⟨writeBuffer, sink⟩⟩
     isAttached := true
     isClosed := false },
    { server with pool, metrics := server.metrics.opened })

end Server

/-- What a connection that is served goes on with. -/
inductive Progress
  /-- It goes on with a phase. -/
  | next (phase : Phase)
  /-- It is closed. -/
  | closed (reason : CloseReason)
  /-- It was abandoned. -/
  | abandoned
deriving DecidableEq, Repr

namespace Connection

/-- Give the buffers back, if the connection still has them, and count the connection as closed,
if it was not. -/
def finish (connection : Connection) (server : Server) : Connection × Server :=
  let pool :=
    if connection.isAttached then
      (server.pool.release connection.link.reader.buffer).release connection.link.writer.buffer
    else server.pool
  let metrics := if connection.isClosed then server.metrics else server.metrics.closed
  ({ connection with isAttached := false, isClosed := true }, { server with pool, metrics })

/-- What the end of a phase leads to. After a reply it depends on the server whether a next
request may come. -/
def progressOf (server : Server) : PhaseEnd → Progress
  | .next phase => .next phase
  | .replied => .next (if server.keepsAlive then .idle else .closing .keepAliveDisabled)
  | .closed reason => .closed reason
  | .hanging => .abandoned

/-- Let a run of a phase take effect on a connection and its server. Signals on the stream make the
server shut down. -/
def commit (run : PhaseRun) (connection : Connection) (server : Server) :
    Progress × Connection × Server :=
  let server := if run.link.signals.isEmpty then server else server.beginShutdown
  let server := run.happenings.foldl (Server.note connection.name) server
  let connection := { connection with link := run.link.clearSignals }
  match progressOf server run.ending with
  | .next phase => (.next phase, connection, server)
  | .closed reason =>
    let (connection, server) := connection.finish server
    (.closed reason, connection, server)
  | .abandoned => (.abandoned, { connection with isAttached := false }, server)

/-- Run the phases of a connection from a given one on, at most `fuel` of them. -/
def runFrom (horizon : Option Time) :
    (fuel : Nat) → Phase → Time → Connection → Server → Settled CloseReason × Connection × Server
  | 0, _, now, connection, server => (⟨none, now⟩, connection, server)
  | fuel + 1, phase, now, connection, server =>
    let run := phase.run server.settings server.dispatcher horizon now connection.link
    match connection.commit run server with
    | (.next phase, connection, server) => runFrom horizon fuel phase run.time connection server
    | (.closed reason, connection, server) => (⟨some reason, run.time⟩, connection, server)
    | (.abandoned, connection, server) => (⟨none, run.time⟩, connection, server)

/-- What the peer has sent by a moment reaches a connection. -/
def deliver (now : Time) (bytes : Bytes) (isEnd : Bool) (connection : Connection) : Connection :=
  { connection with
    link := { connection.link with reader := connection.link.reader.deliver now bytes isEnd } }

/-- Take away what a connection has sent to its peer: the bytes, and whether nothing follows
them. -/
def collect (connection : Connection) : Bytes × Bool × Connection :=
  let (bytes, isEnd, writer) := connection.link.writer.collect
  (bytes, isEnd, { connection with link := { connection.link with writer } })

/-- How far a connection has come: what it is doing and since when, unless it is closed. -/
abbrev Standing := Option (Phase × Time) × Connection × Server

/-- Run the phases that end by a moment, at most so many. A phase that is still going on is left as
it began, so that it can go on with whatever its stream brings later. -/
def runUntil (now : Time) : (fuel : Nat) → Phase → Time → Connection → Server → Standing
  | 0, phase, since, connection, server => (some (phase, since), connection, server)
  | fuel + 1, phase, since, connection, server =>
    let run := phase.run server.settings server.dispatcher (some now) since connection.link
    if run.ending = .hanging then (some (phase, since), connection, server)
    else match connection.commit run server with
      | (.next phase, connection, server) => runUntil now fuel phase run.time connection server
      | (_, connection, server) => (none, connection, server)

/-- A bound on the number of phases in which a connection is served: each request takes at least the
bytes of a header and five phases, and three phases follow the last one. -/
def phaseBound (connection : Connection) : Nat :=
  5 * (connection.link.reader.unread.length / Header.size) + 3

/-- What may be asked of a connection. -/
inductive Action
  /-- To serve requests until the connection is closed. -/
  | serve
  /-- To close the connection without serving it. -/
  | close
deriving DecidableEq, Repr

/-- The phase in which an action begins. -/
def Action.firstPhase : Action → Phase
  | serve => .idle
  | close => .closing .requested

/-- Begin an action. A connection without a stream cannot be served, and to close it takes
no phase. -/
def begin (action : Action) (connection : Connection) (server : Server) :
    Progress × Connection × Server :=
  if connection.isAttached then (.next action.firstPhase, connection, server)
  else match action with
    | .serve => (.closed .alreadyClosed, connection, server)
    | .close =>
      let (connection, server) := connection.finish server
      (.closed .requested, connection, server)

/-- Perform an action to its end. -/
def perform (action : Action) (horizon : Option Time) (now : Time) (connection : Connection)
    (server : Server) : Settled CloseReason × Connection × Server :=
  match connection.begin action server with
  | (.next phase, connection, server) =>
    runFrom horizon connection.phaseBound phase now connection server
  | (.closed reason, connection, server) => (⟨some reason, now⟩, connection, server)
  | (.abandoned, connection, server) => (⟨none, now⟩, connection, server)

/-- Serve a connection until it is closed. -/
abbrev serve := perform .serve

/-- Close a connection without serving it. -/
abbrev close := perform .close

end Connection

end FramedExchange
