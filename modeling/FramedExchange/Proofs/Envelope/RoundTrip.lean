import FramedExchange.Envelope
import FramedExchange.Proofs.Envelope.Entries

/-!
# Envelopes are read back as they were written

A record that is written as a map with the names of its fields for keys is read back entry by entry
(`reads_entry`). Requests and responses are such records, so each is read back from the front of any
bytes that begin with it, as long as every text and every byte string in it has a length that fits
into four bytes:

* `Request.decode_encode_append`;
* `Response.decode_encode_append`.
-/

namespace FramedExchange

namespace MessagePack.Record

variable {σ : Type} {fields : List (RecordField σ)} {room entries : ℕ} {record filled result : σ}
variable {bytes more : Bytes}

/-- **One entry of a map**, and then the others. -/
theorem reads_entry (field : RecordField σ)
    (hfield : field? fields (.name (Bytes.ofString field.name)) = some field)
    (hname : (Bytes.ofString field.name).length < 2 ^ 32) (hempty : field.isFilled record = false)
    (hfill : Reads (field.fill room record) bytes filled)
    (hothers : Reads (readEntries fields room entries filled) more result) :
    Reads (readEntries fields room (entries + 1) record) (text field.name ++ (bytes ++ more))
      result := by
  intro rest
  have hkey := textForm_text hname
  rw [List.append_assoc, readEntries_of_known hkey hfield, hempty]
  exact hfill.bind hothers rest

/-- A map of entries that fill every field is read as the record that they fill. -/
theorem reads_map (hfew : entries < 16)
    (hentries : Reads (readEntries fields (maxDepth - 1) entries record) bytes result)
    (hfilled : checkFilled fields result = pure ()) :
    Reads (read fields record) (mapHead entries ++ bytes) result := by
  refine (form_mapHead hfew).reads.bind (hentries.bind_pure ?_)
  rw [hfilled]
  exact Reads.pure result

end MessagePack.Record

open MessagePack

namespace Request

theorem field?_path :
    Record.field? fields (.name (Bytes.ofString "path")) = some fields[0] := rfl

theorem field?_req :
    Record.field? fields (.name (Bytes.ofString "req")) = some fields[1] := rfl

theorem reads_encode {request : Request} (hpath : (Bytes.ofString request.path).length < 2 ^ 32)
    (hbody : request.body.length < 2 ^ 32) :
    Reads (Record.read fields ⟨none, none⟩) request.encode
      ⟨some request.path, some request.body⟩ := by
  have hlast : Reads (Record.readEntries fields (maxDepth - 1) 1 ⟨some request.path, none⟩)
      (text "req" ++ (binary request.body ++ [])) ⟨some request.path, some request.body⟩ :=
    Record.reads_entry fields[1] field?_req (by decide) rfl
      ((binaryForm_binary hbody).reads.bind_pure (Reads.pure _)) (Reads.pure _)
  have hfirst : Reads (Record.readEntries fields (maxDepth - 1) 2 ⟨none, none⟩)
      (text "path" ++ (text request.path ++ (text "req" ++ (binary request.body ++ []))))
      ⟨some request.path, some request.body⟩ :=
    Record.reads_entry fields[0] field?_path (by decide) rfl
      ((textForm_text hpath).reads.bind_pure (Reads.pure _)) hlast
  have hmap := Record.reads_map (by decide) hfirst rfl
  simpa [encode] using hmap

/-- Path and body are parts of the envelope. -/
theorem length_add_length_le (request : Request) :
    (Bytes.ofString request.path).length + request.body.length ≤ request.encode.length := by
  simp only [encode, text, binary, List.length_append]
  omega

/-- **A request is read back**, whatever follows it. -/
theorem decode_encode_append {request : Request}
    (hpath : (Bytes.ofString request.path).length < 2 ^ 32) (hbody : request.body.length < 2 ^ 32)
    (rest : Bytes) :
    decode (request.encode ++ rest) = .ok request := by
  rw [decode, reads_encode hpath hbody rest]
  rfl

end Request

namespace Response

theorem field?_code :
    Record.field? fields (.name (Bytes.ofString "code")) = some fields[0] := rfl

theorem field?_rsp :
    Record.field? fields (.name (Bytes.ofString "rsp")) = some fields[1] := rfl

theorem field?_err :
    Record.field? fields (.name (Bytes.ofString "err")) = some fields[2] := rfl

/-- A response is read back from its three entries, whichever of the last two is nil. -/
private theorem reads_draft (code : UInt8) (hcode : code.toNat < 128) {body : Option Bytes}
    {message : Option String} {bodyBytes messageBytes : Bytes}
    (hbody : Reads (orNil (binaryOf (maxDepth - 1))) bodyBytes body)
    (hmessage : Reads (orNil (textOf (maxDepth - 1))) messageBytes message) :
    Reads (Record.read fields ⟨none, none, none⟩)
      (mapHead 3 ++ text "code" ++ small code ++ text "rsp" ++ bodyBytes ++ text "err" ++
        messageBytes)
      ⟨some code, some body, some message⟩ := by
  have hlast : Reads (Record.readEntries fields (maxDepth - 1) 1 ⟨some code, some body, none⟩)
      (text "err" ++ (messageBytes ++ [])) ⟨some code, some body, some message⟩ :=
    Record.reads_entry fields[2] field?_err (by decide) rfl (hmessage.bind_pure (Reads.pure _))
      (Reads.pure _)
  have hmiddle : Reads (Record.readEntries fields (maxDepth - 1) 2 ⟨some code, none, none⟩)
      (text "rsp" ++ (bodyBytes ++ (text "err" ++ (messageBytes ++ []))))
      ⟨some code, some body, some message⟩ :=
    Record.reads_entry fields[1] field?_rsp (by decide) rfl (hbody.bind_pure (Reads.pure _)) hlast
  have hfirst : Reads (Record.readEntries fields (maxDepth - 1) 3 ⟨none, none, none⟩)
      (text "code" ++ (small code ++ (text "rsp" ++ (bodyBytes ++
        (text "err" ++ (messageBytes ++ []))))))
      ⟨some code, some body, some message⟩ :=
    Record.reads_entry fields[0] field?_code (by decide) rfl
      ((reads_byteValue hcode).bind_pure (Reads.pure _)) hmiddle
  have hmap := Record.reads_map (by decide) hfirst rfl
  simpa using hmap

/-- How many bytes of payload a response carries. -/
def payloadLength : Response → ℕ
  | success body => body.length
  | failure message => (Bytes.ofString message).length

/-- The record that is read back from a response amounts to that response. -/
theorem exists_reads_encode {response : Response} (h : response.payloadLength < 2 ^ 32) :
    ∃ draft, Reads (Record.read fields ⟨none, none, none⟩) response.encode draft ∧
      ofDraft draft = .ok response := by
  cases response with
  | success body =>
    exact ⟨_, reads_draft 0 (by decide) (binaryForm_binary h).reads_orNil (reads_orNil_nil _), rfl⟩
  | failure message =>
    exact ⟨_, reads_draft 1 (by decide) (reads_orNil_nil _) (textForm_text h).reads_orNil, rfl⟩

/-- **A response is read back**, whatever follows it. -/
theorem decode_encode_append {response : Response} (h : response.payloadLength < 2 ^ 32)
    (rest : Bytes) :
    decode (response.encode ++ rest) = .ok response := by
  obtain ⟨draft, hread, hdraft⟩ := exists_reads_encode h
  rw [decode, hread rest]
  exact hdraft

theorem decode_encode {response : Response} (h : response.payloadLength < 2 ^ 32) :
    decode response.encode = .ok response := by
  have hdecode := decode_encode_append h []
  rwa [List.append_nil] at hdecode

/-- The payload is a part of the envelope. -/
theorem payloadLength_le (response : Response) :
    response.payloadLength ≤ response.encode.length := by
  cases response with
  | success body =>
    simp only [payloadLength, encode, binary, List.length_append]
    omega
  | failure message =>
    simp only [payloadLength, encode, text, List.length_append]
    omega

end Response

end FramedExchange
