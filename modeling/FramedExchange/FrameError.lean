import FramedExchange.Bytes
import FramedExchange.IoError

/-!
# Frame errors

What can go wrong while one frame is read or written. After most of these the two ends no longer
agree on where the next frame begins, and the stream has to be given up (`FrameError.isBroken`). It
stays usable in two cases: the wait for a frame ran out before its first byte, and a body was
refused before any byte of it was written.
-/

namespace FramedExchange

/-- A failure to read or to write one frame. -/
inductive FrameError
  /-- The stream failed. -/
  | io (error : IoError)
  /-- The stream ended before the frame was complete. -/
  | closed
  /-- The deadline passed before the first byte of a frame. -/
  | idle
  /-- The deadline passed inside a frame. -/
  | timeout
  /-- The header has a foreign magic number or version. -/
  | malformedHeader (magic : UInt32) (version : UInt16)
  /-- The body does not fit into a frame. -/
  | tooLarge (size : Nat)
deriving DecidableEq, Repr

namespace FrameError

/-- The wording of a frame error. -/
def message : FrameError → String
  | io error => "i/o error: " ++ error.text
  | closed => "peer closed the stream"
  | idle => "timed out waiting for a message"
  | timeout => "timed out mid-frame"
  | malformedHeader magic version =>
    "malformed header (magic 0x" ++ Bytes.hex (Bytes.ofNat 4 magic.toNat) ++ ", version " ++
      version.toNat.repr ++ ")"
  | tooLarge size => "body of " ++ size.repr ++ " bytes exceeds the frame limit"

/-- Whether the stream is of no further use. -/
def isBroken : FrameError → Bool
  | idle => false
  | tooLarge _ => false
  | _ => true

/-- The frame error that a stream error amounts to. An unexpected end is the peer's closing. -/
def ofIo (error : IoError) : FrameError :=
  if error.kind = .unexpectedEof then closed else io error

/-- An error of the stream leaves it of no further use. -/
@[simp]
theorem isBroken_ofIo (error : IoError) : (ofIo error).isBroken = true := by
  unfold ofIo
  split <;> rfl

/-- An error of the stream is no matter of time. -/
theorem ofIo_ne_timeout (error : IoError) : ofIo error ≠ timeout := by
  unfold ofIo
  split <;> exact nofun

end FrameError

end FramedExchange
