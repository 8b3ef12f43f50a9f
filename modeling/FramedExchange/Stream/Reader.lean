import FramedExchange.Buffer.Pool
import FramedExchange.Frame
import FramedExchange.Stream.Source

/-!
# Buffered reading

A reader fetches bytes from a source into a buffer and takes them from there. It takes nothing
unless it can take all that was asked for: when a read is given up or fails, the bytes fetched so
far stay in the buffer for the next read, so that no byte is ever lost.

`readFrame` reads one frame under one deadline. The header is checked before any byte of the body is
taken. A deadline that passes while nothing of the frame has been fetched leaves the stream in
order; any other failure does not.
-/

namespace FramedExchange

/-- A source and the bytes that were fetched from it but not taken. -/
structure Reader where
  buffer : Buffer
  source : Source
deriving DecidableEq, Repr

namespace Reader

/-- The room that is made in the buffer before each fetch. -/
def chunk : Nat := 4096

/-- How many bytes were fetched but not taken. -/
def buffered (r : Reader) : Nat := r.buffer.length

/-- The bytes that are still to be taken: those in the buffer and those that the source
still holds. -/
def unread (r : Reader) : Bytes := r.buffer.bytes ++ r.source.remaining

/-- Add what another end has sent by a moment. -/
def deliver (now : Time) (bytes : Bytes) (isEnd : Bool) (r : Reader) : Reader :=
  { r with source := r.source.deliver now bytes isEnd }

/-- Fetch until at least `n` bytes are in the buffer. -/
def fetch (limits : Limits) (n : Nat) (now : Time) (r : Reader) :
    Timed (Except IoError Unit) × Reader :=
  if n ≤ r.buffered then (⟨.done (.ok ()), now⟩, r)
  else
    let buffer := r.buffer.reserve chunk
    match r.source.read limits now buffer.spare with
    | (⟨.done (.ok (byte :: bytes)), time⟩, source) =>
      fetch limits n time ⟨buffer.append (byte :: bytes), source⟩
    | (⟨.done (.ok []), time⟩, source) => (⟨.done (.error .streamClosed), time⟩, ⟨buffer, source⟩)
    | (⟨.done (.error error), time⟩, source) => (⟨.done (.error error), time⟩, ⟨buffer, source⟩)
    | (⟨.elapsed, time⟩, source) => (⟨.elapsed, time⟩, ⟨buffer, source⟩)
    | (⟨.hanging, time⟩, source) => (⟨.hanging, time⟩, ⟨buffer, source⟩)
termination_by n - r.buffered
decreasing_by
  simp only [buffered, Buffer.length, Buffer.bytes_append, Buffer.bytes_reserve,
    List.length_append, List.length_cons] at *
  omega

/-- Wait until there is at least one byte, and show what is in the buffer. -/
def peek (limits : Limits) (now : Time) (r : Reader) : Timed (Except IoError Bytes) × Reader :=
  let (result, r) := r.fetch limits 1 now
  (result.map fun outcome ↦ outcome.map fun () ↦ r.buffer.bytes, r)

/-- Take exactly `n` bytes. -/
def take (limits : Limits) (n : Nat) (now : Time) (r : Reader) :
    Timed (Except IoError Bytes) × Reader :=
  match r.fetch limits n now with
  | (⟨.done (.ok ()), time⟩, r) =>
    (⟨.done (.ok (r.buffer.bytes.take n)), time⟩, { r with buffer := r.buffer.consume n })
  | (⟨.done (.error error), time⟩, r) => (⟨.done (.error error), time⟩, r)
  | (⟨.elapsed, time⟩, r) => (⟨.elapsed, time⟩, r)
  | (⟨.hanging, time⟩, r) => (⟨.hanging, time⟩, r)

/-- Take the body that a header announces. -/
def readBody (limits : Limits) (header : Header) (now : Time) (r : Reader) :
    Settled (Except FrameError Frame) × Reader :=
  let (result, r) := r.take limits header.length.toNat now
  ((result.map fun outcome ↦ (outcome.map (Frame.mk header)).mapError .ofIo).settle
    (.error .timeout), r)

/-- Read one frame. The deadline covers the header and the body together. -/
def readFrame (limits : Limits) (now : Time) (r : Reader) :
    Settled (Except FrameError Frame) × Reader :=
  match r.take limits Header.size now with
  | (⟨.done (.ok raw), time⟩, r) =>
    match Header.decode raw with
    | .error error => (⟨some (.error error), time⟩, r)
    | .ok header => r.readBody limits header time
  | (⟨.done (.error error), time⟩, r) => (⟨some (.error (.ofIo error)), time⟩, r)
  | (⟨.elapsed, time⟩, r) =>
    (⟨some (.error (if r.buffered = 0 then .idle else .timeout)), time⟩, r)
  | (⟨.hanging, time⟩, r) => (⟨none, time⟩, r)

end Reader

end FramedExchange
