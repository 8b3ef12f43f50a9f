/-!
# Stream errors

A failed operation on a stream has a kind, which the layers above test, and a text, which they only
pass on. Two errors arise without the stream's doing: its end where more bytes were needed, and a
write that takes nothing.
-/

namespace FramedExchange

/-- The kinds of stream errors. -/
inductive IoErrorKind
  | unexpectedEof
  | connectionReset
  | connectionAborted
  | brokenPipe
  | timedOut
  | wouldBlock
  | interrupted
  | notConnected
  | connectionRefused
  | invalidData
  | writeZero
  | notFound
  | isADirectory
  | permissionDenied
  | other
deriving DecidableEq, Repr

/-- An error of a stream. -/
structure IoError where
  kind : IoErrorKind
  text : String
deriving DecidableEq, Repr

namespace IoError

/-- The stream ended where more bytes were needed. -/
def streamClosed : IoError := ⟨.unexpectedEof, "stream closed by peer"⟩

/-- The stream took none of the bytes that it was given. -/
def nothingWritten : IoError := ⟨.writeZero, "write zero"⟩

/-- The other end does not accept a stream. -/
def refused : IoError := ⟨.connectionRefused, "connection refused"⟩

/-- Bytes that should be text are none. -/
def notText : IoError := ⟨.invalidData, "stream did not contain valid UTF-8"⟩

end IoError

end FramedExchange
