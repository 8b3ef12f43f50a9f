/-!
# Byte strings

Byte strings are lists of bytes, so that a stream of frames splits and joins with the operations of
lists. Numbers travel big endian: `Bytes.ofNat width n` is the field of `width` bytes that holds
`n`, and `Bytes.toNat` reads a field of any width back. Text travels as UTF-8.
-/

namespace FramedExchange

/-- A string of bytes. -/
abbrev Bytes := List UInt8

namespace Bytes

/-! ### Big-endian numbers -/

/-- The field of `width` bytes that holds `n`, most significant byte first. What does not fit in the
width is cut off, so the field holds `n` modulo `256 ^ width`. -/
def ofNat : (width : Nat) → (n : Nat) → Bytes
  | 0, _ => []
  | width + 1, n => ofNat width (n / 256) ++ [UInt8.ofNat n]

/-- The number that a big-endian field holds. -/
def toNat (field : Bytes) : Nat :=
  field.foldl (fun n byte ↦ 256 * n + byte.toNat) 0

@[simp]
theorem length_ofNat (width n : Nat) : (ofNat width n).length = width := by
  induction width generalizing n with
  | zero => rfl
  | succ width ih => simp [ofNat, ih]

@[simp]
theorem toNat_nil : toNat [] = 0 := rfl

/-! ### Fields in place -/

/-- Put a field in the place of as many bytes from a position on. -/
def overwrite (position : Nat) (field bytes : Bytes) : Bytes :=
  bytes.take position ++ field ++ bytes.drop (position + field.length)

/-- What is before a field stays, and so does what is behind it. -/
theorem overwrite_append {position : Nat} {before : Bytes} (hposition : before.length = position)
    (field rest : Bytes) :
    overwrite position field (before ++ rest) = before ++ field ++ rest.drop field.length := by
  rw [overwrite, List.take_left' hposition, ← List.drop_drop, List.drop_left' hposition]

/-! ### Text -/

/-- The UTF-8 bytes of a text. -/
def ofString (text : String) : Bytes :=
  text.toByteArray.data.toList

/-- The text whose UTF-8 bytes these are, if they are valid UTF-8. -/
def toString? (bytes : Bytes) : Option String :=
  String.fromUTF8? ⟨bytes.toArray⟩

@[simp]
theorem toString?_ofString (text : String) : toString? (ofString text) = some text := by
  simp [toString?, ofString, String.fromUTF8?, text.isValidUTF8]
  rfl

/-! ### Digits -/

/-- One hexadecimal digit, in lower case. -/
def hexDigit (n : Nat) : Char :=
  if n < 10 then Char.ofNat (48 + n) else Char.ofNat (87 + n)

/-- Two hexadecimal digits for each byte. -/
def hex (bytes : Bytes) : String :=
  String.ofList (bytes.flatMap fun byte ↦ [hexDigit (byte.toNat / 16), hexDigit (byte.toNat % 16)])

end Bytes

end FramedExchange
