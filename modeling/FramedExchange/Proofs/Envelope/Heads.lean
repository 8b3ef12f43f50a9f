import FramedExchange.MessagePack.Marker
import FramedExchange.Proofs.Wire.BigEndian

/-!
# Heads are read back from every form

A decoder reads a value from some bytes if it takes just these bytes, whatever follows them
(`Reads`). Decoders that run one after the other read the bytes of both (`Reads.bind`), so that it
is enough to look at the parts of a value by themselves: its head, and the bytes behind it.

A head can be written in several ways. A short length may be a part of the marker or stand in a
field of one, two or four bytes, and a number may be in its marker or in a field of any width that
holds it. `Head.Form` is the table of these forms, and a head is read back from each
(`Head.Form.reads`).
-/

namespace FramedExchange.MessagePack

/-- The decoder takes these bytes and nothing of what follows them. -/
def Reads {α : Type} (decoder : Decoder α) (bytes : Bytes) (value : α) : Prop :=
  ∀ rest, decoder (bytes ++ rest) = .ok (value, rest)

namespace Reads

variable {α β : Type} {decoder : Decoder α} {next : α → Decoder β} {bytes more : Bytes} {value : α}
variable {result : β}

theorem pure (value : α) : Reads (pure value) [] value := fun _ ↦ rfl

theorem bind (h : Reads decoder bytes value) (h' : Reads (next value) more result) :
    Reads (decoder >>= next) (bytes ++ more) result := by
  intro rest
  show (decoder (bytes ++ more ++ rest) >>= fun p ↦ next p.1 p.2) = _
  rw [List.append_assoc, h]
  exact h' rest

/-- What is done with a value takes no more bytes. -/
theorem bind_pure {f : α → Decoder β} (h : Reads decoder bytes value)
    (h' : Reads (f value) [] result) :
    Reads (decoder >>= f) bytes result := by
  rw [← List.append_nil bytes]
  exact h.bind h'

theorem map (f : α → β) (h : Reads decoder bytes value) :
    Reads (f <$> decoder) bytes (f value) := by
  rw [map_eq_pure_bind]
  exact h.bind_pure (pure (f value))

end Reads

theorem reads_takeBytes (bytes : Bytes) : Reads (takeBytes bytes.length) bytes bytes := by
  intro rest
  simp [takeBytes]

/-! ### Heads -/

theorem reads_marker (byte : UInt8) : Reads Marker.read [byte] (Marker.ofByte byte) := fun _ ↦ rfl

theorem reads_head_of_marker {byte : UInt8} {marker : Marker}
    (hmarker : Marker.ofByte byte = marker) {field : Bytes} {head : Head}
    (h : Reads (Head.ofMarker marker) field head) :
    Reads Head.read (byte :: field) head := by
  rw [← hmarker] at h
  exact (reads_marker byte).bind h

/-- A size in a field of some bytes is read back if it fits. -/
theorem reads_field {width n : ℕ} (h : n < 256 ^ width) :
    Reads (Size.field width).read (Bytes.ofNat width n) n := by
  have htake := reads_takeBytes (Bytes.ofNat width n)
  rw [Bytes.length_ofNat] at htake
  have hread := htake.map Bytes.toNat
  rwa [Bytes.toNat_ofNat_of_lt h] at hread

/-! ### Forms -/

/-- The bytes that announce a size of one kind: a single byte from `base` on for a size below
`bound`, or a marker of that kind and the size in a field of its width. -/
inductive SizeForm (base bound : ℕ) (markers : List (UInt8 × ℕ)) (n : ℕ) : Bytes → Prop
  | inline (h : n < bound) : SizeForm base bound markers n [UInt8.ofNat (base + n)]
  | field {marker : UInt8} {width : ℕ} (hmarker : (marker, width) ∈ markers) (h : n < 256 ^ width) :
      SizeForm base bound markers n (marker :: Bytes.ofNat width n)

/-- The bytes that a head may be written in. -/
inductive Head.Form : Head → Bytes → Prop
  | nil : Form .nil [0xC0]
  | no : Form (.bool false) [0xC2]
  | yes : Form (.bool true) [0xC3]
  | unsigned {n : ℕ} {bytes : Bytes}
      (h : SizeForm 0 0x80 [(0xCC, 1), (0xCD, 2), (0xCE, 4), (0xCF, 8)] n bytes) :
      Form (.unsigned n) bytes
  | negative {n : ℕ} (hpos : 0 < n) (h : n ≤ 0x20) : Form (.signed (-n)) [UInt8.ofNat (0x100 - n)]
  | signed {marker : UInt8} {width : ℕ} {n : ℤ}
      (hmarker : (marker, width) ∈ [((0xD0 : UInt8), 1), (0xD1, 2), (0xD2, 4), (0xD3, 8)])
      (hlow : -2 ^ (8 * width - 1) ≤ n) (hhigh : n < 2 ^ (8 * width - 1)) :
      Form (.signed n) (marker :: Bytes.ofNat width (n % 256 ^ width).toNat)
  | float {marker : UInt8} {field : Bytes}
      (hmarker : (marker, field.length) ∈ [((0xCA : UInt8), 4), (0xCB, 8)]) :
      Form .float (marker :: field)
  | text {n : ℕ} {bytes : Bytes}
      (h : SizeForm 0xA0 0x20 [(0xD9, 1), (0xDA, 2), (0xDB, 4)] n bytes) : Form (.text n) bytes
  | binary {n : ℕ} {bytes : Bytes} (h : SizeForm 0 0 [(0xC4, 1), (0xC5, 2), (0xC6, 4)] n bytes) :
      Form (.binary n) bytes
  | array {n : ℕ} {bytes : Bytes} (h : SizeForm 0x90 0x10 [(0xDC, 2), (0xDD, 4)] n bytes) :
      Form (.array n) bytes
  | map {n : ℕ} {bytes : Bytes} (h : SizeForm 0x80 0x10 [(0xDE, 2), (0xDF, 4)] n bytes) :
      Form (.map n) bytes
  | extension {n : ℕ} {bytes : Bytes} (h : SizeForm 0 0 [(0xC7, 1), (0xC8, 2), (0xC9, 4)] n bytes) :
      Form (.extension n) bytes
  | fixedExtension {marker : UInt8} {n : ℕ}
      (hmarker : (marker, n) ∈ [((0xD4 : UInt8), 1), (0xD5, 2), (0xD6, 4), (0xD7, 8), (0xD8, 16)]) :
      Form (.extension n) [marker]

/-- A head with a size is read back, whichever way the size is announced. -/
theorem SizeForm.reads_head {base bound : ℕ} {markers : List (UInt8 × ℕ)} {n : ℕ} {bytes : Bytes}
    {kind : ℕ → Head} (h : SizeForm base bound markers n bytes) (announce : Size → Marker)
    (hkind : ∀ size, Head.ofMarker (announce size) = kind <$> size.read)
    (hinline : ∀ n < bound, Marker.ofByte (UInt8.ofNat (base + n)) = announce (.inline n))
    (hfield : ∀ entry ∈ markers, Marker.ofByte entry.1 = announce (.field entry.2)) :
    Reads Head.read bytes (kind n) := by
  cases h with
  | inline hn =>
    refine reads_head_of_marker (hinline n hn) ?_
    rw [hkind]
    exact (Reads.pure n).map kind
  | field hmarker hn =>
    refine reads_head_of_marker (hfield _ hmarker) ?_
    rw [hkind]
    exact (reads_field hn).map kind

/-- A two's complement field holds its number if it is wide enough. -/
theorem signedValue_ofNat {width : ℕ} (hwidth : 0 < width) {n : ℤ} (hlow : -2 ^ (8 * width - 1) ≤ n)
    (hhigh : n < 2 ^ (8 * width - 1)) :
    signedValue (Bytes.ofNat width (n % 256 ^ width).toNat) = n := by
  have hhalf : (256 : ℤ) ^ width = 2 * 2 ^ (8 * width - 1) := by
    rw [← pow_succ', Nat.sub_add_cancel (by omega), pow_mul]
    rfl
  have hpos : (0 : ℤ) < 256 ^ width := Int.pow_pos (by decide)
  have hnonneg : 0 ≤ n % 256 ^ width := Int.emod_nonneg _ hpos.ne'
  have hfits : (n % 256 ^ width).toNat < 256 ^ width := by
    rw [Int.toNat_lt hnonneg]
    push_cast
    exact Int.emod_lt_of_pos _ hpos
  have hshift : 1 <<< (8 * width) = 256 ^ width := by
    rw [Nat.one_shiftLeft, pow_mul]
    rfl
  rw [signedValue, Bytes.toNat_ofNat_of_lt hfits, Bytes.length_ofNat, Int.toNat_of_nonneg hnonneg,
    hshift]
  have hwrap := Int.emod_bmod n (256 ^ width)
  push_cast at hwrap
  rw [hwrap]
  refine Int.bmod_eq_of_le_mul_two ?_ ?_
  · push_cast
    omega
  · push_cast
    omega

theorem ofByte_negative {n : ℕ} (hpos : 0 < n) (h : n ≤ 0x20) :
    Marker.ofByte (UInt8.ofNat (0x100 - n)) = .signed (.inl (-n)) :=
  (by decide : ∀ n ≤ 0x20, 0 < n →
    Marker.ofByte (UInt8.ofNat (0x100 - n)) = .signed (.inl (-n))) n h hpos

/-- A table of markers can be checked row by row. -/
theorem ofByte_of_mem {markers : List (UInt8 × ℕ)} {marker : UInt8} {width : ℕ}
    (announce : ℕ → Marker) (hmarker : (marker, width) ∈ markers)
    (h : ∀ entry ∈ markers, Marker.ofByte entry.1 = announce entry.2) :
    Marker.ofByte marker = announce width :=
  h _ hmarker

/-- **A head is read back** from any of its forms. -/
theorem Head.Form.reads {head : Head} {bytes : Bytes} (h : head.Form bytes) :
    Reads Head.read bytes head := by
  cases h with
  | nil => exact reads_head_of_marker rfl (Reads.pure _)
  | no => exact reads_head_of_marker rfl (Reads.pure _)
  | yes => exact reads_head_of_marker rfl (Reads.pure _)
  | unsigned h => exact h.reads_head .unsigned (fun _ ↦ rfl) (by decide) (by decide)
  | negative hpos hle => exact reads_head_of_marker (ofByte_negative hpos hle) (Reads.pure _)
  | @signed marker width n hmarker hlow hhigh =>
    have hannounced := ofByte_of_mem (fun width ↦ .signed (.inr width)) hmarker (by decide)
    have hpositive : ∀ entry ∈ [((0xD0 : UInt8), 1), (0xD1, 2), (0xD2, 4), (0xD3, 8)],
        0 < entry.2 := by decide
    -- the bytes are those of the number modulo the size of the field, which its bounds undo
    have htake := reads_takeBytes (Bytes.ofNat width (n % 256 ^ width).toNat)
    rw [Bytes.length_ofNat] at htake
    have hread := htake.map fun bytes ↦ Head.signed (signedValue bytes)
    rw [signedValue_ofNat (hpositive _ hmarker) hlow hhigh] at hread
    exact reads_head_of_marker hannounced hread
  | @float marker field hmarker =>
    have hread := (reads_takeBytes field).map fun _ ↦ Head.float
    exact reads_head_of_marker (ofByte_of_mem .float hmarker (by decide)) hread
  | text h => exact h.reads_head .text (fun _ ↦ rfl) (by decide) (by decide)
  | binary h => exact h.reads_head .binary (fun _ ↦ rfl) (by decide) (by decide)
  | array h => exact h.reads_head .array (fun _ ↦ rfl) (by decide) (by decide)
  | map h => exact h.reads_head .map (fun _ ↦ rfl) (by decide) (by decide)
  | extension h => exact h.reads_head .extension (fun _ ↦ rfl) (by decide) (by decide)
  | @fixedExtension marker n hmarker =>
    have hread := (Reads.pure n).map Head.extension
    have hannounced := ofByte_of_mem (fun n ↦ .extension (.inline n)) hmarker (by decide)
    exact reads_head_of_marker hannounced hread

end FramedExchange.MessagePack
