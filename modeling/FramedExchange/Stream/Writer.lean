import FramedExchange.Buffer.Pool
import FramedExchange.Frame
import FramedExchange.Stream.Sink

/-!
# Buffered writing

A writer puts a whole frame together in its buffer, writes it, and flushes. `writeFrame` sets the
length in the header from the body and refuses a body that does not fit before anything is written;
`writeRaw` writes the header as it is.
-/

namespace FramedExchange

/-- A sink and the buffer in which frames are put together. -/
structure Writer where
  buffer : Buffer
  sink : Sink
deriving DecidableEq, Repr

namespace Writer

/-- Put a header and a body together in an emptied buffer. -/
def assemble (header : Header) (body : Bytes) (buffer : Buffer) : Buffer :=
  (header.encodeInto buffer.clear).append body

/-- Write a header as it is and a body, and flush. -/
def writeRaw (limits : Limits) (header : Header) (body : Bytes) (now : Time) (w : Writer) :
    Timed (Except IoError Unit) × Writer :=
  let buffer := assemble header body w.buffer
  match w.sink.writeAll limits now buffer.bytes with
  | (⟨.done (.ok ()), time⟩, sink) =>
    let (result, sink) := sink.flush limits time
    (result, ⟨buffer, sink⟩)
  | (result, sink) => (result, ⟨buffer, sink⟩)

/-- Write one frame, with the length in the header set from the body. -/
def writeFrame (limits : Limits) (header : Header) (body : Bytes) (now : Time) (w : Writer) :
    Settled (Except FrameError Unit) × Writer :=
  if Frame.maxBody < body.length then (⟨some (.error (.tooLarge body.length)), now⟩, w)
  else
    let (result, w) := w.writeRaw limits { header with length := UInt16.ofNat body.length } body now
    ((result.map fun outcome ↦ outcome.mapError .ofIo).settle (.error .timeout), w)

/-- Shut the outgoing half of the stream down. -/
def shutdown (limits : Limits) (now : Time) (w : Writer) : Timed (Except IoError Unit) × Writer :=
  let (result, sink) := w.sink.shutdown limits now
  (result, { w with sink })

/-- Take away what was written: the bytes, and whether the stream was shut down after them. -/
def collect (w : Writer) : Bytes × Bool × Writer :=
  let (bytes, isEnd, sink) := w.sink.collect
  (bytes, isEnd, { w with sink })

end Writer

end FramedExchange
