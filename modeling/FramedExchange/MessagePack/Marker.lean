import FramedExchange.MessagePack.DecodeError
import FramedExchange.Bytes

/-!
# Markers and heads

Every MessagePack value begins with a marker byte. A marker either says all about a value or its
length, or names how many bytes to read for that (`Marker.ofByte`). The marker and those bytes
together are the head of the value (`Head.read`): a whole scalar, or the kind and the length of a
text, a byte string, an array, a map or an extension.

A decoder takes bytes from the front of what is left to read, and fails with the first cause that it
meets.
-/

namespace FramedExchange.MessagePack

/-- A decoder of values from the front of a byte string. The state is what is left to read. -/
abbrev Decoder (α : Type) := StateT Bytes (Except DecodeError) α

/-- A size that is in the marker itself or in a field of some bytes after it. -/
inductive Size
  | inline (n : Nat)
  | field (width : Nat)
deriving DecidableEq, Repr

/-- What a marker byte announces. -/
inductive Marker
  | nil
  | bool (value : Bool)
  | unsigned (value : Size)
  /-- A signed number: its value, or the width of its two's complement field. -/
  | signed (value : Sum Int Nat)
  | float (width : Nat)
  | text (length : Size)
  | binary (length : Size)
  | array (length : Size)
  | map (length : Size)
  | extension (length : Size)
  /-- The one marker that begins no value. -/
  | reserved
deriving DecidableEq, Repr

/-- What each byte announces where a value begins. -/
def Marker.ofByte (byte : UInt8) : Marker :=
  let n := byte.toNat
  if n < 0x80 then .unsigned (.inline n)
  else if n < 0x90 then .map (.inline (n - 0x80))
  else if n < 0xA0 then .array (.inline (n - 0x90))
  else if n < 0xC0 then .text (.inline (n - 0xA0))
  else if 0xE0 ≤ n then .signed (.inl (Int.ofNat n - 256))
  else match n with
    | 0xC0 => .nil
    | 0xC2 => .bool false
    | 0xC3 => .bool true
    | 0xC4 => .binary (.field 1)
    | 0xC5 => .binary (.field 2)
    | 0xC6 => .binary (.field 4)
    | 0xC7 => .extension (.field 1)
    | 0xC8 => .extension (.field 2)
    | 0xC9 => .extension (.field 4)
    | 0xCA => .float 4
    | 0xCB => .float 8
    | 0xCC => .unsigned (.field 1)
    | 0xCD => .unsigned (.field 2)
    | 0xCE => .unsigned (.field 4)
    | 0xCF => .unsigned (.field 8)
    | 0xD0 => .signed (.inr 1)
    | 0xD1 => .signed (.inr 2)
    | 0xD2 => .signed (.inr 4)
    | 0xD3 => .signed (.inr 8)
    | 0xD4 => .extension (.inline 1)
    | 0xD5 => .extension (.inline 2)
    | 0xD6 => .extension (.inline 4)
    | 0xD7 => .extension (.inline 8)
    | 0xD8 => .extension (.inline 16)
    | 0xD9 => .text (.field 1)
    | 0xDA => .text (.field 2)
    | 0xDB => .text (.field 4)
    | 0xDC => .array (.field 2)
    | 0xDD => .array (.field 4)
    | 0xDE => .map (.field 2)
    | 0xDF => .map (.field 4)
    | _ => .reserved

/-- Take exactly `n` bytes from the front. -/
def takeBytes (n : Nat) : Decoder Bytes := fun bytes ↦
  let (taken, rest) := bytes.splitAt n
  if taken.length = n then .ok (taken, rest) else .error .dataMissing

/-- The marker at the front. -/
def Marker.read : Decoder Marker
  | [] => .error .markerMissing
  | byte :: rest => .ok (Marker.ofByte byte, rest)

/-- The number that a size stands for, read from the bytes after the marker where it is not in the
marker. -/
def Size.read : Size → Decoder Nat
  | .inline n => pure n
  | .field width => Bytes.toNat <$> takeBytes width

/-- The number that a two's complement field holds. -/
def signedValue (field : Bytes) : Int :=
  Int.bmod (Bytes.toNat field) (1 <<< (8 * field.length))

/-- The head of a value. -/
inductive Head
  | nil
  | bool (value : Bool)
  | unsigned (value : Nat)
  | signed (value : Int)
  | float
  | text (length : Nat)
  | binary (length : Nat)
  | array (length : Nat)
  | map (length : Nat)
  | extension (length : Nat)
deriving DecidableEq, Repr

/-- The rest of a head whose marker has been read. -/
def Head.ofMarker : Marker → Decoder Head
  | .nil => pure .nil
  | .bool value => pure (.bool value)
  | .unsigned value => .unsigned <$> value.read
  | .signed (.inl n) => pure (.signed n)
  | .signed (.inr width) => (fun bytes ↦ .signed (signedValue bytes)) <$> takeBytes width
  | .float width => (fun _ ↦ .float) <$> takeBytes width
  | .text length => .text <$> length.read
  | .binary length => .binary <$> length.read
  | .array length => .array <$> length.read
  | .map length => .map <$> length.read
  | .extension length => .extension <$> length.read
  | .reserved => throw .markerMismatch

/-- The head at the front. -/
def Head.read : Decoder Head := Marker.read >>= Head.ofMarker

end FramedExchange.MessagePack
