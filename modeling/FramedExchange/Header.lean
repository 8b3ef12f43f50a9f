import FramedExchange.Buffer
import FramedExchange.FrameError

/-!
# Frame headers

Every frame starts with ten bytes: a magic number, the version of the protocol, a code, and the
length of the body that follows, all big endian. In a request the code may select the handler; in a
reply it is 0 for success and otherwise the number of a status.

The length counts the body alone, so that one frame carries at most 65535 bytes of it.
-/

namespace FramedExchange

/-- The first ten bytes of a frame. -/
structure Header where
  magic : UInt32
  version : UInt16
  code : UInt16
  /-- How many bytes of body follow. -/
  length : UInt16
deriving DecidableEq, Repr

namespace Header

/-- The number of bytes in a header. -/
def size : Nat := 10

/-- The magic number of the protocol, the letters `VSOK`. -/
def protocolMagic : UInt32 := 0x56534F4B

/-- The version of the protocol. -/
def protocolVersion : UInt16 := 1

/-- A header of this protocol. -/
def make (code length : UInt16) : Header :=
  ⟨protocolMagic, protocolVersion, code, length⟩

/-- The header of a reply to a request with header `h`. -/
def reply (h : Header) (code length : UInt16) : Header :=
  { h with code, length }

/-- Whether the code marks success. -/
def isSuccess (h : Header) : Bool := h.code == 0

/-- The ten bytes of a header: every field is put in its place among ten zeros. -/
def encode (h : Header) : Bytes :=
  List.replicate size 0
    |> Bytes.overwrite 0 (Bytes.ofNat 4 h.magic.toNat)
    |> Bytes.overwrite 4 (Bytes.ofNat 2 h.version.toNat)
    |> Bytes.overwrite 6 (Bytes.ofNat 2 h.code.toNat)
    |> Bytes.overwrite 8 (Bytes.ofNat 2 h.length.toNat)

/-- Add the fields of a header, one after the other, to what a buffer holds. -/
def encodeInto (h : Header) (buffer : Buffer) : Buffer :=
  buffer
    |>.append (Bytes.ofNat 4 h.magic.toNat)
    |>.append (Bytes.ofNat 2 h.version.toNat)
    |>.append (Bytes.ofNat 2 h.code.toNat)
    |>.append (Bytes.ofNat 2 h.length.toNat)

/-- Read the first ten bytes of a frame. A magic number or a version of another protocol is refused
and reported as it was received. -/
def decode (bytes : Bytes) : Except FrameError Header :=
  let magic := UInt32.ofNat (Bytes.toNat (bytes.take 4))
  let version := UInt16.ofNat (Bytes.toNat ((bytes.drop 4).take 2))
  if magic = protocolMagic ∧ version = protocolVersion then
    .ok {
      magic, version
      code := UInt16.ofNat (Bytes.toNat ((bytes.drop 6).take 2))
      length := UInt16.ofNat (Bytes.toNat ((bytes.drop 8).take 2)) }
  else
    .error (.malformedHeader magic version)

@[simp]
theorem length_encode (h : Header) : h.encode.length = size := by
  simp [encode, Bytes.overwrite, size]

end Header

end FramedExchange
