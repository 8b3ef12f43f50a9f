import FramedExchange.Bytes

/-!
# Text from bytes that may not be valid UTF-8

`Bytes.toStringLossy` reads UTF-8 and puts one replacement character U+FFFD in the place of each
maximal broken piece: a lead byte with the continuation bytes that could still have become a
character, or a single byte that can start none. A byte that breaks a character off is read again as
the start of the next one.
-/

namespace FramedExchange.Bytes

/-- A character of which some bytes have been read: the bits so far, how many continuation bytes are
still owed, and the least and the greatest value that the next one may have. -/
structure OpenChar where
  bits : Nat
  owed : Nat
  least : Nat
  greatest : Nat
deriving DecidableEq, Repr

/-- The character that takes the place of a broken piece. -/
def replacement : Char := Char.ofNat 0xFFFD

/-- Read a byte between two characters: what is finished by it, and the character that it opens. The
bounds on the second byte leave out overlong forms, surrogates and numbers past U+10FFFF. -/
def openChar (byte : Nat) : List Char × Option OpenChar :=
  if byte < 0x80 then ([Char.ofNat byte], none)
  else if byte < 0xC2 then ([replacement], none)
  else if byte < 0xE0 then ([], some ⟨byte - 0xC0, 1, 0x80, 0xBF⟩)
  else if byte < 0xF0 then
    ([], some ⟨byte - 0xE0, 2, if byte = 0xE0 then 0xA0 else 0x80,
      if byte = 0xED then 0x9F else 0xBF⟩)
  else if byte < 0xF5 then
    ([], some ⟨byte - 0xF0, 3, if byte = 0xF0 then 0x90 else 0x80,
      if byte = 0xF4 then 0x8F else 0xBF⟩)
  else ([replacement], none)

/-- Read one more byte, inside a character or between two. -/
def stepChar (byte : Nat) : Option OpenChar → List Char × Option OpenChar
  | none => openChar byte
  | some c =>
    if c.least ≤ byte ∧ byte ≤ c.greatest then
      let bits := 64 * c.bits + (byte - 0x80)
      if c.owed ≤ 1 then ([Char.ofNat bits], none)
      else ([], some ⟨bits, c.owed - 1, 0x80, 0xBF⟩)
    else
      let (finished, next) := openChar byte
      (replacement :: finished, next)

/-- The characters of a byte string, read from a given point inside or between characters. -/
def lossyChars : Option OpenChar → Bytes → List Char
  | none, [] => []
  | some _, [] => [replacement]
  | state, byte :: rest =>
    let (finished, next) := stepChar byte.toNat state
    finished ++ lossyChars next rest

/-- The text of a byte string, each broken piece of it replaced by U+FFFD. -/
def toStringLossy (bytes : Bytes) : String :=
  String.ofList (lossyChars none bytes)

end FramedExchange.Bytes
