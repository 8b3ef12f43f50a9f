import FramedExchange.Bytes

/-!
# Writing MessagePack

The few forms of MessagePack that envelopes are written in: nil, small numbers, texts, byte strings
and the head of a small map. Texts and byte strings take the shortest head that holds their length;
byte strings have no head of a single byte.
-/

namespace FramedExchange.MessagePack

/-- The absent value. -/
def nil : Bytes := [0xC0]

/-- A number below 128, which is its own marker. -/
def small (n : UInt8) : Bytes := [n]

/-- The head of a map with fewer than 16 entries. -/
def mapHead (entries : Nat) : Bytes := [UInt8.ofNat (0x80 + entries)]

/-- The head of a text of `length` bytes. -/
def textHead (length : Nat) : Bytes :=
  if length < 32 then [UInt8.ofNat (0xA0 + length)]
  else if length < 256 then 0xD9 :: Bytes.ofNat 1 length
  else if length < 65536 then 0xDA :: Bytes.ofNat 2 length
  else 0xDB :: Bytes.ofNat 4 length

/-- The head of a byte string of `length` bytes. -/
def binaryHead (length : Nat) : Bytes :=
  if length < 256 then 0xC4 :: Bytes.ofNat 1 length
  else if length < 65536 then 0xC5 :: Bytes.ofNat 2 length
  else 0xC6 :: Bytes.ofNat 4 length

/-- A text. -/
def text (s : String) : Bytes :=
  let bytes := Bytes.ofString s
  textHead bytes.length ++ bytes

/-- A byte string. -/
def binary (bytes : Bytes) : Bytes :=
  binaryHead bytes.length ++ bytes

end FramedExchange.MessagePack
