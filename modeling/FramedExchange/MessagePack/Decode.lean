import FramedExchange.MessagePack.Marker

/-!
# Reading MessagePack values

Decoders for the kinds of values that envelopes are made of, and `skip` for a value of any kind.
Arrays, maps and extensions count as containers: at most 1023 of them may be open at once, and a
decoder is told how many more may be opened (`room`).

A value of a wrong kind is refused only after its head has been read, so that bytes that end early
are reported as such. The one exception is `byteValue`, which looks at the marker alone.
-/

namespace FramedExchange.MessagePack

/-- How many containers may be open at once. -/
def maxDepth : Nat := 1023

/-- Open a container where `room` more may be opened, and read what is in it. -/
def enter {α : Type} (room : Nat) (inside : (room : Nat) → Decoder α) : Decoder α :=
  match room with
  | 0 => throw .depthExceeded
  | room + 1 => inside room

/-- Run a decoder `n` times, for what it leaves. -/
def skipTimes (decoder : Decoder Unit) : (n : Nat) → Decoder Unit
  | 0 => pure ()
  | n + 1 => do
    decoder
    skipTimes decoder n

/-- Pass over one value of any kind. Texts need not be valid UTF-8 here. -/
def skip (room : Nat) : Decoder Unit := do
  match ← Head.read with
  | .text length | .binary length =>
    let _ ← takeBytes length
  | .extension length =>
    match room with
    | 0 => throw .depthExceeded
    | _ + 1 =>
      let _ ← takeBytes 1
      let _ ← takeBytes length
  | .array length =>
    match room with
    | 0 => throw .depthExceeded
    | room + 1 => skipTimes (skip room) length
  | .map entries =>
    match room with
    | 0 => throw .depthExceeded
    | room + 1 => skipTimes (skip room) (2 * entries)
  | _ => pure ()

/-- A number between 0 and 255, in any form of an integer. Texts, byte strings and containers are
refused on sight of the marker. -/
def byteValue : Decoder UInt8 := do
  match ← Marker.read with
  | .text _ | .binary _ | .array _ | .map _ | .extension _ | .reserved => throw .markerMismatch
  | marker =>
    match ← Head.ofMarker marker with
    | .unsigned n => if n < 256 then pure (UInt8.ofNat n) else throw .unexpectedValue
    | .signed n => if 0 ≤ n ∧ n < 256 then pure (UInt8.ofNat n.toNat) else throw .unexpectedValue
    | _ => throw .unexpectedValue

/-- The elements of an array of bytes. -/
def byteValues : (n : Nat) → Decoder Bytes
  | 0 => pure []
  | n + 1 => do
    let byte ← byteValue
    return byte :: (← byteValues n)

/-- The bytes of a text, which have to be valid UTF-8. -/
def utf8Text (length : Nat) : Decoder String := do
  match Bytes.toString? (← takeBytes length) with
  | some text => pure text
  | none => throw .invalidText

/-- Refuse a value by its head. A container has to be opened to be refused. -/
def refuse {α : Type} (room : Nat) : Head → Decoder α
  | .array _ | .map _ | .extension _ => enter room fun _ ↦ throw .unexpectedValue
  | _ => throw .unexpectedValue

/-- A text, from its head on. A byte string may stand for it if it is valid UTF-8. -/
def textOf (room : Nat) : Head → Decoder String
  | .text length => utf8Text length
  | .binary length => do
    match Bytes.toString? (← takeBytes length) with
    | some text => pure text
    | none => throw .unexpectedValue
  | head => refuse room head

/-- A byte string, from its head on. A text or an array of byte values may stand for it. -/
def binaryOf (room : Nat) : Head → Decoder Bytes
  | .binary length | .text length => takeBytes length
  | .array length => enter room fun _ ↦ byteValues length
  | head => refuse room head

/-- A value that may be nil. -/
def orNil {α : Type} (ofHead : Head → Decoder α) : Decoder (Option α) := do
  match ← Head.read with
  | .nil => pure none
  | head => some <$> ofHead head

end FramedExchange.MessagePack
