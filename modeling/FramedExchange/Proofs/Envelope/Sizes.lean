import FramedExchange.Proofs.Envelope.RoundTrip
import FramedExchange.Frame

/-!
# How long envelopes are

Around its payload an envelope has the names of its fields and a head for each value, and of
these only the heads of a text and of a byte string depend on what is carried. So the length
of an envelope is a number fixed for its kind, the length of the payload, and the size of the
head before it:

* `Response.length_encode`;
* `Request.length_encode`.

The size of a head grows in steps. The last step at which an envelope still fits into a frame is the
same for bytes and for texts (`Response.length_encode_le_iff`), because by then the shorter heads of
texts are used up.
-/

namespace FramedExchange

namespace MessagePack

/-- How many bytes come before a text of so many bytes. -/
def textHeadSize (length : ℕ) : ℕ :=
  if length < 32 then 1 else if length < 256 then 2 else if length < 65536 then 3 else 5

/-- How many bytes come before a byte string of so many bytes. -/
def binaryHeadSize (length : ℕ) : ℕ :=
  if length < 256 then 2 else if length < 65536 then 3 else 5

@[simp]
theorem length_textHead (length : ℕ) : (textHead length).length = textHeadSize length := by
  rw [textHead, textHeadSize]
  split_ifs <;> simp

@[simp]
theorem length_binaryHead (length : ℕ) : (binaryHead length).length = binaryHeadSize length := by
  rw [binaryHead, binaryHeadSize]
  split_ifs <;> simp

@[simp]
theorem length_text (s : String) :
    (text s).length = textHeadSize (Bytes.ofString s).length + (Bytes.ofString s).length := by
  rw [text, List.length_append, length_textHead]

@[simp]
theorem length_binary (bytes : Bytes) :
    (binary bytes).length = binaryHeadSize bytes.length + bytes.length := by
  rw [binary, List.length_append, length_binaryHead]

end MessagePack

open MessagePack

namespace Response

/-- How many bytes come before the payload of a response as its head. -/
def headSize : Response → ℕ
  | success body => binaryHeadSize body.length
  | failure message => textHeadSize (Bytes.ofString message).length

/-- **The length of a response**: 16 bytes for the map, the names and the other two values. -/
theorem length_encode (response : Response) :
    response.encode.length = 16 + response.headSize + response.payloadLength := by
  have hcode : (text "code").length = 5 := by decide
  have hrsp : (text "rsp").length = 4 := by decide
  have herr : (text "err").length = 4 := by decide
  cases response with
  | success body =>
    simp only [encode, List.length_append, hcode, hrsp, herr, length_binary, mapHead, small, nil,
      List.length_singleton, headSize, payloadLength]
    omega
  | failure message =>
    simp only [encode, List.length_append, hcode, hrsp, herr, length_text, mapHead, small, nil,
      List.length_singleton, headSize, payloadLength]
    omega

/-- A payload that fits into a frame, or nearly so, has a head of at most three bytes, and a long
one has at least that. -/
theorem headSize_bounds (response : Response) :
    (response.payloadLength < 65536 → response.headSize ≤ 3) ∧
      (256 ≤ response.payloadLength → 3 ≤ response.headSize) := by
  cases response with
  | success body =>
    rw [headSize, payloadLength, binaryHeadSize]
    constructor <;> intro h <;> split_ifs <;> omega
  | failure message =>
    rw [headSize, payloadLength, textHeadSize]
    constructor <;> intro h <;> split_ifs <;> omega

/-- **The most that a response can carry in a frame**, of bytes and of text. -/
theorem length_encode_le_iff (response : Response) :
    response.encode.length ≤ Frame.maxBody ↔ response.payloadLength ≤ 65516 := by
  obtain ⟨hle, hge⟩ := response.headSize_bounds
  rw [length_encode, Frame.maxBody]
  omega

end Response

namespace Request

/-- The length of a request: 10 bytes for the map and the names, and each value behind its head. -/
def size (path : String) (body : Bytes) : ℕ :=
  10 + textHeadSize (Bytes.ofString path).length + (Bytes.ofString path).length +
    binaryHeadSize body.length + body.length

/-- **The length of a request** depends on nothing but the lengths of its path and its body. -/
theorem length_encode (path : String) (body : Bytes) :
    (encode ⟨path, body⟩).length = size path body := by
  have hpath : (text "path").length = 5 := by decide
  have hreq : (text "req").length = 4 := by decide
  simp only [encode, List.length_append, hpath, hreq, length_text, length_binary, mapHead,
    List.length_singleton, size]
  omega

end Request

end FramedExchange
