import FramedExchange.FrameError

/-!
# Why connections close
-/

namespace FramedExchange

/-- Why a connection was closed. -/
inductive CloseReason
  /-- The peer closed the stream between two requests. -/
  | peerClosed
  /-- No request came in time. -/
  | idleTimeout
  /-- A request could not be read. -/
  | read (error : FrameError)
  /-- A reply could not be written. -/
  | write (error : FrameError)
  /-- A handler panicked, and there is no way to tell the peer. -/
  | handlerPanic
  /-- There was an exchange, and no other is to follow. -/
  | keepAliveDisabled
  /-- The server closed the connection without serving it. -/
  | requested
  /-- The connection was closed before. -/
  | alreadyClosed
deriving DecidableEq, Repr

/-- The wording of a close reason. -/
def CloseReason.message : CloseReason → String
  | peerClosed => "peer closed the connection"
  | idleTimeout => "idle timeout"
  | read error => "read failed: " ++ error.message
  | write error => "write failed: " ++ error.message
  | handlerPanic => "handler panicked"
  | keepAliveDisabled => "keep-alive disabled"
  | requested => "closed by server"
  | alreadyClosed => "connection already closed"

end FramedExchange
