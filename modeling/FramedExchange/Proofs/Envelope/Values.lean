import FramedExchange.MessagePack.Decode
import FramedExchange.MessagePack.Encode
import FramedExchange.Proofs.Envelope.Heads

/-!
# Values are read back as they were written

The heads that envelopes are written with are forms of the heads that are read (`Head.Form`), as
long as a length fits into four bytes. Behind its head a text, a byte string or a small number is
read back.
-/

namespace FramedExchange.MessagePack

/-! ### Written heads -/

theorem form_textHead {length : ℕ} (h : length < 2 ^ 32) :
    (Head.text length).Form (textHead length) := by
  unfold textHead
  split
  · rename_i hshort
    exact .text (.inline hshort)
  · split
    · exact .text (.field (by simp) (by omega))
    · split
      · exact .text (.field (by simp) (by omega))
      · exact .text (.field (by simp) (by omega))

theorem form_binaryHead {length : ℕ} (h : length < 2 ^ 32) :
    (Head.binary length).Form (binaryHead length) := by
  unfold binaryHead
  split
  · exact .binary (.field (by simp) (by omega))
  · split
    · exact .binary (.field (by simp) (by omega))
    · exact .binary (.field (by simp) (by omega))

theorem form_mapHead {entries : ℕ} (h : entries < 16) : (Head.map entries).Form (mapHead entries) :=
  .map (.inline h)

theorem reads_nil : Reads Head.read nil .nil := Head.Form.nil.reads

/-! ### Values -/

/-- The bytes that a text may be written in. -/
inductive TextForm (content : Bytes) : Bytes → Prop
  | mk {head : Bytes} (h : (Head.text content.length).Form head) :
      TextForm content (head ++ content)

/-- The bytes that a byte string may be written in. -/
inductive BinaryForm (content : Bytes) : Bytes → Prop
  | mk {head : Bytes} (h : (Head.binary content.length).Form head) :
      BinaryForm content (head ++ content)

theorem textForm_text {s : String} (h : (Bytes.ofString s).length < 2 ^ 32) :
    TextForm (Bytes.ofString s) (text s) :=
  ⟨form_textHead h⟩

theorem binaryForm_binary {bytes : Bytes} (h : bytes.length < 2 ^ 32) :
    BinaryForm bytes (binary bytes) :=
  ⟨form_binaryHead h⟩

variable {room : ℕ} {s : String} {content bytes : Bytes}

theorem reads_textOf (s : String) :
    Reads (textOf room (.text (Bytes.ofString s).length)) (Bytes.ofString s) s := by
  refine (reads_takeBytes (Bytes.ofString s)).bind_pure ?_
  rw [Bytes.toString?_ofString]
  exact Reads.pure s

/-- **A text is read back** from any of its forms. -/
theorem TextForm.reads (h : TextForm (Bytes.ofString s) bytes) :
    Reads (Head.read >>= textOf room) bytes s := by
  obtain ⟨h⟩ := h
  exact h.reads.bind (reads_textOf s)

theorem TextForm.reads_orNil (h : TextForm (Bytes.ofString s) bytes) :
    Reads (orNil (textOf room)) bytes (some s) := by
  obtain ⟨h⟩ := h
  exact h.reads.bind ((reads_textOf s).map some)

/-- **A byte string is read back** from any of its forms. -/
theorem BinaryForm.reads (h : BinaryForm content bytes) :
    Reads (Head.read >>= binaryOf room) bytes content := by
  obtain ⟨h⟩ := h
  exact h.reads.bind (reads_takeBytes content)

theorem BinaryForm.reads_orNil (h : BinaryForm content bytes) :
    Reads (orNil (binaryOf room)) bytes (some content) := by
  obtain ⟨h⟩ := h
  exact h.reads.bind ((reads_takeBytes content).map some)

/-- Nil is read back as the absence of a value of any kind. -/
theorem reads_orNil_nil {α : Type} (ofHead : Head → Decoder α) : Reads (orNil ofHead) nil none :=
  reads_nil.bind_pure (Reads.pure none)

/-- A number below 128 is read back. -/
theorem reads_byteValue {n : UInt8} (h : n.toNat < 128) : Reads byteValue (small n) n := by
  have hmarker : Marker.ofByte n = .unsigned (.inline n.toNat) := if_pos h
  refine (reads_marker n).bind_pure ?_
  rw [hmarker]
  refine (Reads.pure (Head.unsigned n.toNat)).bind_pure ?_
  show Reads (if n.toNat < 256 then pure (UInt8.ofNat n.toNat) else throw .unexpectedValue) [] n
  rw [if_pos (by omega), UInt8.ofNat_toNat]
  exact Reads.pure n

end FramedExchange.MessagePack
