import FramedExchange.Header

/-!
# Frames

A frame is a header followed by a body of exactly the length that the header says. `Frame.first?`
cuts one frame of this protocol off the front of a byte string, and `Frame.split` as many as there
are: the rest begins with no whole frame.
-/

namespace FramedExchange

/-- A header and its body. -/
structure Frame where
  header : Header
  body : Bytes
deriving DecidableEq, Repr

namespace Frame

/-- The most bytes of body that a frame can carry. -/
def maxBody : Nat := 65535

/-- The bytes of a frame. -/
def encode (frame : Frame) : Bytes := frame.header.encode ++ frame.body

/-- The frame at the front of a byte string and what comes after it, if the string begins with a
whole frame of this protocol. -/
def first? (bytes : Bytes) : Option (Frame × Bytes) :=
  if bytes.length < Header.size then none
  else match Header.decode (bytes.take Header.size) with
    | .error _ => none
    | .ok header =>
      if bytes.length - Header.size < header.length.toNat then none
      else
        some (⟨header, (bytes.drop Header.size).take header.length.toNat⟩,
          bytes.drop (Header.size + header.length.toNat))

/-- How many more bytes a byte string needs, as far as can be told, to begin with a whole frame. -/
def missing (bytes : Bytes) : Nat :=
  if bytes.length < Header.size then Header.size - bytes.length
  else match Header.decode (bytes.take Header.size) with
    | .error _ => 0
    | .ok header => Header.size + header.length.toNat - bytes.length

/-- What comes after a frame is shorter by at least a header. -/
theorem length_of_first? {bytes rest : Bytes} {frame : Frame}
    (h : first? bytes = some (frame, rest)) : rest.length < bytes.length := by
  unfold first? at h
  split at h
  · cases h
  · split at h
    · cases h
    · split at h
      · cases h
      · simp only [Option.some.injEq, Prod.mk.injEq] at h
        obtain ⟨-, rfl⟩ := h
        simp only [List.length_drop, Header.size] at *
        omega

/-- The frames at the front of a byte string, and the rest that begins with no whole frame. -/
def split (bytes : Bytes) : List Frame × Bytes :=
  match _found : first? bytes with
  | none => ([], bytes)
  | some (frame, rest) =>
    let (frames, left) := split rest
    (frame :: frames, left)
termination_by bytes.length
decreasing_by exact length_of_first? _found

end Frame

end FramedExchange
