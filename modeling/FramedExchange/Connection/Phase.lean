import FramedExchange.Connection.CloseReason
import FramedExchange.Server
import FramedExchange.Stream.Reader
import FramedExchange.Stream.Writer

/-!
# The phases of a connection

A connection waits for the first byte of a request, reads the request, runs its handler, writes the
reply, and waits again. Waiting and reading have deadlines of their own. The deadline of a reply is
set before the handler runs, and a reply that takes the place of one that was too large keeps it.

`Phase.run` says what one phase does to the stream, how it ends, when, and what happened on the way.
It needs only what never changes about a server; what a phase means for the rest of the server
follows from its happenings.
-/

namespace FramedExchange

/-- The two halves of a stream with their buffers. -/
structure Link where
  reader : Reader
  writer : Writer
deriving DecidableEq, Repr

/-- The moments at which reads passed over signals on the stream. -/
def Link.signals (link : Link) : List Time := link.reader.source.signals

/-- Forget the signals on the stream. -/
def Link.clearSignals (link : Link) : Link :=
  { link with reader := { link.reader with source := link.reader.source.clearSignals } }

/-- What a connection is doing. -/
inductive Phase
  /-- Waiting for the first byte of a request. -/
  | idle
  /-- Reading a request. -/
  | reading
  /-- Running the handler of a request. -/
  | dispatching (request : Frame)
  /-- Writing the reply to a request with a given header. -/
  | replying (header : Header) (reply : Reply) (deadline : Option Time)
  /-- Shutting the stream down. -/
  | closing (reason : CloseReason)
deriving DecidableEq, Repr

/-- Something that happens in a phase and concerns the server. -/
inductive Happening
  /-- A read of a request ended after so long, with a request or not. -/
  | read (elapsed : Duration)
  /-- A request was given to its handler. -/
  | dispatched (request : Frame)
  /-- A handler asked the server to shut down. -/
  | shutdownBegun
  /-- The handler of a request with a given code panicked. -/
  | panicked (code : UInt16) (panic : Panic)
  /-- A write of a reply ended after so long, with the reply written or not. -/
  | wrote (elapsed : Duration)
deriving DecidableEq, Repr

/-- How a phase ends. -/
inductive PhaseEnd
  /-- Another phase follows. -/
  | next (phase : Phase)
  /-- The reply was written. Whether a next request may come is for the server to say. -/
  | replied
  /-- The stream is shut down. -/
  | closed (reason : CloseReason)
  /-- The phase was still going on when the observation ended. -/
  | hanging
deriving DecidableEq, Repr

/-- One run of a phase. -/
structure PhaseRun where
  ending : PhaseEnd
  time : Time
  link : Link
  happenings : List Happening
deriving DecidableEq, Repr

namespace Phase

variable (settings : ServerSettings) (dispatcher : Dispatcher) (horizon : Option Time)

/-- Wait until the first byte of a request is in the buffer. The end of the stream is no failure
here. -/
def runIdle (now : Time) (link : Link) : PhaseRun :=
  let limits : Limits := ⟨deadlineAfter now settings.effectiveIdleTimeout, horizon⟩
  let (result, reader) := link.reader.peek limits now
  let ending := match result.outcome with
    | .done (.ok _) => .next .reading
    | .done (.error error) =>
      .next (.closing (if error.kind = .unexpectedEof then .peerClosed else .read (.io error)))
    | .elapsed => .next (.closing .idleTimeout)
    | .hanging => .hanging
  ⟨ending, result.time, { link with reader }, []⟩

/-- Read a request. An error that leaves the stream in order leads back to waiting. -/
def runReading (now : Time) (link : Link) : PhaseRun :=
  let limits : Limits := ⟨deadlineAfter now settings.readTimeout, horizon⟩
  let (result, reader) := link.reader.readFrame limits now
  let ending := match result.result? with
    | some (.ok request) => .next (.dispatching request)
    | some (.error error) => .next (if error.isBroken then .closing (.read error) else .idle)
    | none => .hanging
  let happenings := match result.result? with
    | some _ => [.read (.ofMillis (result.time - now))]
    | none => []
  ⟨ending, result.time, { link with reader }, happenings⟩

/-- Run the handler of a request. -/
def runDispatching (request : Frame) (now : Time) (link : Link) : PhaseRun :=
  let deadline := deadlineAfter now settings.writeTimeout
  let run := dispatcher.dispatch request
  let begun : List Happening := if run.beginsShutdown then [.shutdownBegun] else []
  match run.result with
  | .ok reply =>
    ⟨.next (.replying request.header reply deadline), now, link, .dispatched request :: begun⟩
  | .error panic =>
    let phase : Phase := match dispatcher.recover? with
      | some reply => .replying request.header reply deadline
      | none => .closing .handlerPanic
    ⟨.next phase, now, link,
      .dispatched request :: begun ++ [.panicked request.header.code panic]⟩

/-- Write a reply. The status that replaces a reply too large for a frame is written in its
place. -/
def runReplying (header : Header) (reply : Reply) (deadline : Option Time)
    (now : Time) (link : Link) : PhaseRun :=
  let (result, writer) := link.writer.writeFrame ⟨deadline, horizon⟩ (header.reply reply.code 0)
    reply.body now
  let ending := match result.result? with
    | some (.ok ()) => .replied
    | some (.error (.tooLarge _)) =>
      .next (.replying header (dispatcher.status .responseTooLarge) deadline)
    | some (.error error) => .next (.closing (.write error))
    | none => .hanging
  let happenings := match result.result? with
    | some _ => [.wrote (.ofMillis (result.time - now))]
    | none => []
  ⟨ending, result.time, { link with writer }, happenings⟩

/-- Shut the outgoing half down. A failure of that, or its taking too long, does not matter. -/
def runClosing (reason : CloseReason) (now : Time) (link : Link) : PhaseRun :=
  let limits : Limits := ⟨deadlineAfter now settings.writeTimeout, horizon⟩
  let (result, writer) := link.writer.shutdown limits now
  let ending := match result.outcome with
    | .hanging => .hanging
    | _ => .closed reason
  ⟨ending, result.time, { link with writer }, []⟩

/-- Run a phase that begins `now`. -/
def run (phase : Phase) (now : Time) (link : Link) : PhaseRun :=
  match phase with
  | idle => runIdle settings horizon now link
  | reading => runReading settings horizon now link
  | dispatching request => runDispatching settings dispatcher request now link
  | replying header reply deadline => runReplying dispatcher horizon header reply deadline now link
  | closing reason => runClosing settings horizon reason now link

end Phase

end FramedExchange
