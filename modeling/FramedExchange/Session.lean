import FramedExchange.Connection

/-!
# Sessions

A session runs planned connections on one server and one clock. Each connection is a strand: it is
opened, asked for one action after the other, and dropped in the end. A strand advances by events,
and between two of its events nothing that it does concerns the others. So a session is a sequence
of events, and it does not matter to a strand which events of others lie between two of its own,
except for what they do to the server.

In a serial session the strands run one after the other. In a concurrent session they all begin at
the start, and the event that is due first goes first; of events that are due together, those of the
strand that was planned first.
-/

namespace FramedExchange

/-- A connection that is to be made, and what is to be done with it. -/
structure Plan where
  name : String
  source : Source
  sink : Sink
  /-- Whether the server begins to shut down just before the connection is opened. -/
  shutsDownFirst : Bool
  actions : List Connection.Action
deriving DecidableEq, Repr

/-- What is noted down about a connection. -/
inductive Milestone
  | opened
  /-- An action ended, with a reason unless it was abandoned. -/
  | performed (action : Connection.Action) (reason? : Option CloseReason)
  | dropped
deriving DecidableEq, Repr

/-- A milestone of a connection, and how things stood just after it. -/
structure Step where
  milestone : Milestone
  time : Time
  isClosed : Bool
  /-- How many connections the server counted as open. -/
  live : Int
  /-- How many buffers were idle in the pool of the server. -/
  available : Nat
deriving DecidableEq, Repr

/-- How far a planned connection has come. -/
inductive Stage
  | unopened
  /-- Between two actions, with those that are still to come. -/
  | between (connection : Connection) (actions : List Connection.Action)
  /-- In a phase of an action, with the actions that are still to come. What the phase does to the
  stream is known from its beginning, and takes effect when the phase ends. -/
  | inPhase (connection : Connection) (action : Connection.Action) (run : PhaseRun)
      (actions : List Connection.Action)
  | dropped (connection : Connection)
deriving DecidableEq, Repr

/-- A planned connection on its way. -/
structure Strand where
  plan : Plan
  stage : Stage
  /-- The moment of its last event. -/
  time : Time
  /-- What has been noted down so far, in order. -/
  steps : List Step
deriving DecidableEq, Repr

namespace Strand

/-- A strand of which nothing has happened. -/
def start (now : Time) (plan : Plan) : Strand := ⟨plan, .unopened, now, []⟩

/-- What the connection of a strand wrote to its stream. -/
def sent (strand : Strand) : List Sent :=
  match strand.stage with
  | .unopened => []
  | .between connection _ => connection.link.writer.sink.sent
  | .inPhase connection _ _ _ => connection.link.writer.sink.sent
  | .dropped connection => connection.link.writer.sink.sent

/-- The moment of the next event of a strand. -/
def due? (strand : Strand) : Option Time :=
  match strand.stage with
  | .inPhase _ _ run _ => some run.time
  | .dropped _ => none
  | _ => some strand.time

/-- The moments at which a strand in a phase passes over signals. -/
def signals (strand : Strand) : List Time :=
  match strand.stage with
  | .inPhase _ _ run _ => run.link.signals
  | _ => []

/-- Note a milestone down. -/
def noteDown (milestone : Milestone) (connection : Connection) (server : Server) (strand : Strand) :
    Strand :=
  { strand with
    steps := strand.steps ++ [⟨milestone, strand.time, connection.isClosed, server.metrics.live,
      server.pool.available⟩] }

/-- Go on with an action as it has progressed at a moment. -/
def follow (horizon : Option Time) (action : Connection.Action) (actions : List Connection.Action)
    (now : Time) (strand : Strand) :
    Progress × Connection × Server → Strand × Server
  | (.next phase, connection, server) =>
    let run := phase.run server.settings server.dispatcher horizon now connection.link
    ({ strand with time := now, stage := .inPhase connection action run actions }, server)
  | (.closed reason, connection, server) =>
    ({ strand with time := now, stage := .between connection actions }.noteDown
      (.performed action (some reason)) connection server, server)
  | (.abandoned, connection, server) =>
    ({ strand with time := now, stage := .between connection actions }.noteDown
      (.performed action none) connection server, server)

/-- The next event of a strand. -/
def advance (horizon : Option Time) (strand : Strand) (server : Server) : Strand × Server :=
  match strand.stage with
  | .unopened =>
    let server := if strand.plan.shutsDownFirst then server.beginShutdown else server
    let (connection, server) := server.openConnection strand.plan.name
      strand.plan.source strand.plan.sink
    ({ strand with stage := .between connection strand.plan.actions }.noteDown
      .opened connection server, server)
  | .between connection [] =>
    let (connection, server) := connection.finish server
    ({ strand with stage := .dropped connection }.noteDown .dropped connection server, server)
  | .between connection (action :: actions) =>
    strand.follow horizon action actions strand.time (connection.begin action server)
  | .inPhase connection action run actions =>
    strand.follow horizon action actions run.time (connection.commit run server)
  | .dropped _ => (strand, server)

/-- A bound on the number of events of a planned connection: one for its opening, one for its
dropping, and for each action its beginning and its phases. -/
def eventBound (strand : Strand) : Nat :=
  2 + strand.plan.actions.length * (5 * (strand.plan.source.remaining.length / Header.size) + 4)

end Strand

/-- A server and the strands of its connections. -/
structure Session where
  server : Server
  strands : List Strand

namespace Session

/-- The next event of the strand at a place. -/
def advanceAt (horizon : Option Time) (place : Nat) (session : Session) : Session :=
  match session.strands[place]? with
  | none => session
  | some strand =>
    let (strand, server) := strand.advance horizon session.server
    ⟨server, session.strands.set place strand⟩

/-! ### One connection after the other -/

/-- The moment of the last event. -/
def time (session : Session) : Time := (session.strands.map Strand.time).foldl max 0

/-- Advance one strand to its end, with at most so many events. -/
def finishStrand (horizon : Option Time) : (events : Nat) → Strand → Server → Strand × Server
  | 0, strand, server => (strand, server)
  | events + 1, strand, server =>
    let (strand, server) := strand.advance horizon server
    finishStrand horizon events strand server

/-- Run planned connections one after the other. -/
def runSerially (horizon : Option Time) (server : Server) (plans : List Plan) : Session :=
  plans.foldl (fun session plan ↦
    let strand := Strand.start session.time plan
    let (strand, server) := finishStrand horizon strand.eventBound strand session.server
    ⟨server, session.strands ++ [strand]⟩) ⟨server, []⟩

/-! ### All connections together -/

/-- The strand whose next event is due first, with that moment. -/
def pick (strands : List Strand) : Option (Nat × Time) :=
  strands.zipIdx.foldl (fun best (strand, place) ↦
    match strand.due?, best with
    | none, _ => best
    | some due, none => some (place, due)
    | some due, some (_, least) => if due < least then some (place, due) else best) none

/-- Whether a strand passed over a signal before the event that comes next. -/
def hasSignalBefore (place : Nat) (due : Time) (strands : List Strand) : Bool :=
  strands.zipIdx.any fun (strand, other) ↦
    other != place &&
      strand.signals.any fun moment ↦ moment < due || moment == due && other < place

/-- Advance the strand whose event is due first, as often as there are events left. -/
def runEvents (horizon : Option Time) : (events : Nat) → Session → Session
  | 0, session => session
  | events + 1, session =>
    match pick session.strands with
    | none => session
    | some (place, due) =>
      let server :=
        if hasSignalBefore place due session.strands then session.server.beginShutdown
        else session.server
      runEvents horizon events ({ session with server }.advanceAt horizon place)

/-- Run planned connections together from the start. -/
def runTogether (horizon : Option Time) (server : Server) (plans : List Plan) : Session :=
  let strands := plans.map (Strand.start 0)
  let events := strands.foldr (fun strand more ↦ strand.eventBound + more) 0
  runEvents horizon events ⟨server, strands⟩

end Session

end FramedExchange
