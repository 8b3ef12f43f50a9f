import FramedExchange.Proofs.Envelope.RoundTrip

/-!
# Which maps are envelopes

A map with texts for its keys is read by its entries alone, in any order and with every length and
number in any of its forms (`isReadByFields_of_mapForm`).

* As a request it needs a path and a body, and gives just these (`Request.decode_eq_ok_iff`).
* As a response it needs the code 0 and a body, or the code 1 and a text, and gives just these;
  whatever else stands in the other field does not matter (`Response.decode_eq_ok_iff`).
* Entries under unknown keys may have any well-formed values, as long as fewer than 1024 containers
  are open at once.
* A map in which a known key occurs twice is refused whatever its values are.

For each kind of envelope there is a type of entries, told apart by what they say (`Request.Entry`,
`Response.Entry`), and the forms in which such an entry may stand in a map.
-/

namespace FramedExchange

open MessagePack

namespace Request

theorem map_name_fields : fields.map RecordField.name = ["path", "req"] := rfl

theorem isApart_fields : ∀ field ∈ fields, Record.IsApart fields field := by
  refine List.forall_mem_cons.2 ⟨?_, List.forall_mem_singleton.2 ?_⟩
  · refine Record.isApart_of_reader rfl (fun _ _ ↦ rfl) (fun hvalue _ ↦ hvalue.takes takes_textOf)
      (fun _ _ ↦ rfl) ?_
    exact List.forall_mem_cons.2 ⟨fun h ↦ absurd rfl h, List.forall_mem_singleton.2 fun _ _ _ ↦ rfl⟩
  · refine Record.isApart_of_reader rfl (fun _ _ ↦ rfl) (fun hvalue _ ↦ hvalue.takes takes_binaryOf)
      (fun _ _ ↦ rfl) ?_
    exact List.forall_mem_cons.2 ⟨fun _ _ _ ↦ rfl, List.forall_mem_singleton.2 fun h ↦ absurd rfl h⟩

theorem isEmpty_fields : ∀ field ∈ fields, field.isFilled ⟨none, none⟩ = false :=
  List.forall_mem_cons.2 ⟨rfl, List.forall_mem_singleton.2 rfl⟩

/-- An entry of a map, as far as it concerns a request. -/
inductive Entry
  | path (path : String)
  | body (body : Bytes)
  | other

namespace Entry

/-- The key and the bytes of the value that an entry may be written with. The value of an entry
under an unknown key may be anything well-formed, with fewer than 1024 containers open at once where
the map is one of them. -/
inductive Form : Entry → Bytes × Bytes → Prop
  | path {path : String} {value : Bytes} (h : TextForm (Bytes.ofString path) value) :
      Form (.path path) (Bytes.ofString "path", value)
  | body {body value : Bytes} (h : BinaryForm body value) :
      Form (.body body) (Bytes.ofString "req", value)
  | other {key value : Bytes} {depth : ℕ}
      (hkey : ∀ name ∈ ["path", "req"], key ≠ Bytes.ofString name)
      (hdepth : depth + 1 < 1024) (hvalue : IsValue depth value) : Form .other (key, value)

/-- Put what an entry says into a draft. -/
def put : Entry → Draft → Draft
  | .path s, draft => { draft with path := some s }
  | .body content, draft => { draft with body := some content }
  | .other, draft => draft

/-- The path that an entry gives. -/
def path? : Entry → Option String
  | .path s => some s
  | .body _ | .other => none

/-- The body that an entry gives. -/
def body? : Entry → Option Bytes
  | .body content => some content
  | .path _ | .other => none

theorem path?_eq_some_iff {entry : Entry} {path : String} :
    entry.path? = some path ↔ entry = .path path := by
  cases entry <;> simp [path?]

theorem body?_eq_some_iff {entry : Entry} {body : Bytes} :
    entry.body? = some body ↔ entry = .body body := by
  cases entry <;> simp [body?]

theorem says_put (entry : Entry) (pair : Bytes × Bytes) (h : Form entry pair) :
    Record.Says fields (maxDepth - 1) pair entry.put := by
  cases h with
  | path h => exact .filling field?_path fun draft ↦ h.reads.bind_pure (Reads.pure _)
  | body h => exact .filling field?_req fun draft ↦ h.reads.bind_pure (Reads.pure _)
  | other hkey hdepth hvalue =>
    have hroom := Nat.le_of_lt_add_one (Nat.lt_of_succ_lt_succ hdepth)
    rw [← map_name_fields, List.forall_mem_map] at hkey
    exact .nothing (Record.field?_eq_none_iff.2 hkey) (hvalue.reads_skip hroom) fun _ ↦ rfl

end Entry

/-- The draft that some entries fill one after the other. -/
def gather (entries : List Entry) : Draft :=
  entries.foldl (fun draft entry ↦ entry.put draft) ⟨none, none⟩

variable {pairs : List (Bytes × Bytes)} {bytes : Bytes} {entries : List Entry}

theorem path_gather (hforms : List.Forall₂ Entry.Form entries pairs)
    (honce : Record.occurrences (Bytes.ofString "path") pairs ≤ 1) (path : String) :
    (gather entries).path = some path ↔ .path path ∈ entries := by
  have hget (entry : Entry) (draft : Draft) :
      (entry.put draft).path = entry.path?.or draft.path := by
    cases entry <;> rfl
  have hkey (entry : Entry) (pair : Bytes × Bytes) (h : entry.Form pair)
      (hsome : entry.path?.isSome) : pair.1 = Bytes.ofString "path" := by
    cases h <;> first | rfl | cases hsome
  refine (Record.get_foldl_of_empty Draft.path Entry.path? hget hkey hforms honce rfl path).trans ?_
  simp [Entry.path?_eq_some_iff]

theorem body_gather (hforms : List.Forall₂ Entry.Form entries pairs)
    (honce : Record.occurrences (Bytes.ofString "req") pairs ≤ 1) (body : Bytes) :
    (gather entries).body = some body ↔ .body body ∈ entries := by
  have hget (entry : Entry) (draft : Draft) :
      (entry.put draft).body = entry.body?.or draft.body := by
    cases entry <;> rfl
  have hkey (entry : Entry) (pair : Bytes × Bytes) (h : entry.Form pair)
      (hsome : entry.body?.isSome) : pair.1 = Bytes.ofString "req" := by
    cases h <;> first | rfl | cases hsome
  refine (Record.get_foldl_of_empty Draft.body Entry.body? hget hkey hforms honce rfl body).trans ?_
  simp [Entry.body?_eq_some_iff]

theorem ofDraft_eq_ok_iff {draft : Draft} {request : Request} :
    ofDraft draft = .ok request ↔
      draft.path = some request.path ∧ draft.body = some request.body := by
  obtain ⟨path, body⟩ := draft
  obtain ⟨path', body'⟩ := request
  rcases path with - | path
  · simp [ofDraft]
  · rcases body with - | body
    · simp [ofDraft]
    · simp [ofDraft]

/-- **A map is a request** if it has a path and a body, which are those of the request. -/
theorem decode_eq_ok_iff {request : Request} (hmap : MapForm pairs bytes)
    (hforms : List.Forall₂ Entry.Form entries pairs)
    (honce : ∀ name ∈ ["path", "req"], Record.occurrences (Bytes.ofString name) pairs ≤ 1)
    (rest : Bytes) :
    decode (bytes ++ rest) = .ok request ↔
      .path request.path ∈ entries ∧ .body request.body ∈ entries := by
  have hpath := path_gather hforms (honce _ (by simp)) request.path
  have hbody := body_gather hforms (honce _ (by simp)) request.body
  rw [← map_name_fields, List.forall_mem_map] at honce
  rw [decode,
    Record.ofRead_eq_ok_iff isApart_fields Entry.says_put hmap hforms honce isEmpty_fields rfl,
    ← hpath, ← hbody, ← ofDraft_eq_ok_iff]
  refine and_iff_right_of_imp fun h ↦ ?_
  obtain ⟨hpath, hbody⟩ := ofDraft_eq_ok_iff.1 h
  exact List.forall_mem_cons.2 ⟨fun _ ↦ Option.isSome_of_eq_some hpath,
    List.forall_mem_singleton.2 fun _ ↦ Option.isSome_of_eq_some hbody⟩

/-- A map is no request if its path or its body is missing or occurs twice. -/
theorem exists_error_of_occurrences (hmap : MapForm pairs bytes)
    (hvalues : ∀ pair ∈ pairs, ∃ depth, IsValue depth pair.2) (rest : Bytes) :
    ∀ name ∈ ["path", "req"], Record.occurrences (Bytes.ofString name) pairs ≠ 1 →
      ∃ error, decode (bytes ++ rest) = .error error := by
  rw [← map_name_fields, List.forall_mem_map]
  intro field hfield hne
  have hmust : field.mayLack = false := by
    revert field
    exact List.forall_mem_cons.2 ⟨fun _ ↦ rfl, List.forall_mem_singleton.2 fun _ ↦ rfl⟩
  refine Record.exists_error_of_occurrences isApart_fields hmap hvalues isEmpty_fields hfield ?_
  rcases Nat.lt_or_gt_of_ne hne with hnone | htwice
  · exact .inr ⟨hmust, Nat.lt_one_iff.1 hnone⟩
  · exact .inl htwice

end Request

namespace Response

theorem map_name_fields : fields.map RecordField.name = ["code", "rsp", "err"] := rfl

theorem isApart_fields : ∀ field ∈ fields, Record.IsApart fields field := by
  refine List.forall_mem_cons.2 ⟨?_, List.forall_mem_cons.2 ⟨?_, List.forall_mem_singleton.2 ?_⟩⟩
  · refine Record.isApart_of_reader rfl (fun _ _ ↦ rfl) (fun hvalue _ ↦ takes_byteValue hvalue)
      (fun _ _ ↦ rfl) ?_
    exact List.forall_mem_cons.2 ⟨fun h ↦ absurd rfl h, List.forall_mem_cons.2 ⟨fun _ _ _ ↦ rfl,
      List.forall_mem_singleton.2 fun _ _ _ ↦ rfl⟩⟩
  · refine Record.isApart_of_reader rfl (fun _ _ ↦ rfl)
      (fun hvalue _ ↦ hvalue.takes_orNil takes_binaryOf) (fun _ _ ↦ rfl) ?_
    exact List.forall_mem_cons.2 ⟨fun _ _ _ ↦ rfl, List.forall_mem_cons.2 ⟨fun h ↦ absurd rfl h,
      List.forall_mem_singleton.2 fun _ _ _ ↦ rfl⟩⟩
  · refine Record.isApart_of_reader rfl (fun _ _ ↦ rfl)
      (fun hvalue _ ↦ hvalue.takes_orNil takes_textOf) (fun _ _ ↦ rfl) ?_
    exact List.forall_mem_cons.2 ⟨fun _ _ _ ↦ rfl, List.forall_mem_cons.2 ⟨fun _ _ _ ↦ rfl,
      List.forall_mem_singleton.2 fun h ↦ absurd rfl h⟩⟩

theorem isEmpty_fields : ∀ field ∈ fields, field.isFilled ⟨none, none, none⟩ = false :=
  List.forall_mem_cons.2 ⟨rfl, List.forall_mem_cons.2 ⟨rfl, List.forall_mem_singleton.2 rfl⟩⟩

/-- An entry of a map, as far as it concerns a response. A body or a text that is given may be nil.
-/
inductive Entry
  | code (code : UInt8)
  | body (body : Option Bytes)
  | text (text : Option String)
  | other

namespace Entry

/-- The key and the bytes of the value that an entry may be written with. The code may be a number
in any form, and the value of an entry under an unknown key may be anything well-formed, with fewer
than 1024 containers open at once where the map is one of them. -/
inductive Form : Entry → Bytes × Bytes → Prop
  | code {code : UInt8} {head : Head} {value : Bytes} (hcode : head.IsByte code)
      (h : head.Form value) : Form (.code code) (Bytes.ofString "code", value)
  | body {body value : Bytes} (h : BinaryForm body value) :
      Form (.body (some body)) (Bytes.ofString "rsp", value)
  | noBody : Form (.body none) (Bytes.ofString "rsp", nil)
  | text {text : String} {value : Bytes} (h : TextForm (Bytes.ofString text) value) :
      Form (.text (some text)) (Bytes.ofString "err", value)
  | noText : Form (.text none) (Bytes.ofString "err", nil)
  | other {key value : Bytes} {depth : ℕ}
      (hkey : ∀ name ∈ ["code", "rsp", "err"], key ≠ Bytes.ofString name)
      (hdepth : depth + 1 < 1024) (hvalue : IsValue depth value) : Form .other (key, value)

/-- Put what an entry says into a draft. -/
def put : Entry → Draft → Draft
  | .code n, draft => { draft with code := some n }
  | .body content, draft => { draft with body := some content }
  | .text s, draft => { draft with text := some s }
  | .other, draft => draft

/-- The code that an entry gives. -/
def code? : Entry → Option UInt8
  | .code n => some n
  | .body _ | .text _ | .other => none

/-- The body that an entry gives, if only as nil. -/
def body? : Entry → Option (Option Bytes)
  | .body content => some content
  | .code _ | .text _ | .other => none

/-- The text that an entry gives, if only as nil. -/
def text? : Entry → Option (Option String)
  | .text s => some s
  | .code _ | .body _ | .other => none

theorem code?_eq_some_iff {entry : Entry} {code : UInt8} :
    entry.code? = some code ↔ entry = .code code := by
  cases entry <;> simp [code?]

theorem body?_eq_some_iff {entry : Entry} {body : Option Bytes} :
    entry.body? = some body ↔ entry = .body body := by
  cases entry <;> simp [body?]

theorem text?_eq_some_iff {entry : Entry} {text : Option String} :
    entry.text? = some text ↔ entry = .text text := by
  cases entry <;> simp [text?]

theorem says_put (entry : Entry) (pair : Bytes × Bytes) (h : Form entry pair) :
    Record.Says fields (maxDepth - 1) pair entry.put := by
  cases h with
  | code hcode h =>
    have hread := reads_byteValue_of_form h hcode
    exact .filling field?_code fun draft ↦ hread.bind_pure (Reads.pure _)
  | body h => exact .filling field?_rsp fun draft ↦ h.reads_orNil.bind_pure (Reads.pure _)
  | noBody => exact .filling field?_rsp fun draft ↦ (reads_orNil_nil _).bind_pure (Reads.pure _)
  | text h => exact .filling field?_err fun draft ↦ h.reads_orNil.bind_pure (Reads.pure _)
  | noText => exact .filling field?_err fun draft ↦ (reads_orNil_nil _).bind_pure (Reads.pure _)
  | other hkey hdepth hvalue =>
    have hroom := Nat.le_of_lt_add_one (Nat.lt_of_succ_lt_succ hdepth)
    rw [← map_name_fields, List.forall_mem_map] at hkey
    exact .nothing (Record.field?_eq_none_iff.2 hkey) (hvalue.reads_skip hroom) fun _ ↦ rfl

end Entry

/-- The draft that some entries fill one after the other. -/
def gather (entries : List Entry) : Draft :=
  entries.foldl (fun draft entry ↦ entry.put draft) ⟨none, none, none⟩

variable {pairs : List (Bytes × Bytes)} {bytes : Bytes} {entries : List Entry}

theorem code_gather (hforms : List.Forall₂ Entry.Form entries pairs)
    (honce : Record.occurrences (Bytes.ofString "code") pairs ≤ 1) (code : UInt8) :
    (gather entries).code = some code ↔ .code code ∈ entries := by
  have hget (entry : Entry) (draft : Draft) :
      (entry.put draft).code = entry.code?.or draft.code := by
    cases entry <;> rfl
  have hkey (entry : Entry) (pair : Bytes × Bytes) (h : entry.Form pair)
      (hsome : entry.code?.isSome) : pair.1 = Bytes.ofString "code" := by
    cases h <;> first | rfl | cases hsome
  refine (Record.get_foldl_of_empty Draft.code Entry.code? hget hkey hforms honce rfl code).trans ?_
  simp [Entry.code?_eq_some_iff]

theorem body_gather (hforms : List.Forall₂ Entry.Form entries pairs)
    (honce : Record.occurrences (Bytes.ofString "rsp") pairs ≤ 1) (body : Option Bytes) :
    (gather entries).body = some body ↔ .body body ∈ entries := by
  have hget (entry : Entry) (draft : Draft) :
      (entry.put draft).body = entry.body?.or draft.body := by
    cases entry <;> rfl
  have hkey (entry : Entry) (pair : Bytes × Bytes) (h : entry.Form pair)
      (hsome : entry.body?.isSome) : pair.1 = Bytes.ofString "rsp" := by
    cases h <;> first | rfl | cases hsome
  refine (Record.get_foldl_of_empty Draft.body Entry.body? hget hkey hforms honce rfl body).trans ?_
  simp [Entry.body?_eq_some_iff]

theorem text_gather (hforms : List.Forall₂ Entry.Form entries pairs)
    (honce : Record.occurrences (Bytes.ofString "err") pairs ≤ 1) (text : Option String) :
    (gather entries).text = some text ↔ .text text ∈ entries := by
  have hget (entry : Entry) (draft : Draft) :
      (entry.put draft).text = entry.text?.or draft.text := by
    cases entry <;> rfl
  have hkey (entry : Entry) (pair : Bytes × Bytes) (h : entry.Form pair)
      (hsome : entry.text?.isSome) : pair.1 = Bytes.ofString "err" := by
    cases h <;> first | rfl | cases hsome
  refine (Record.get_foldl_of_empty Draft.text Entry.text? hget hkey hforms honce rfl text).trans ?_
  simp [Entry.text?_eq_some_iff]

/-- What a draft has to hold to amount to a response. -/
def Draft.Holds (draft : Draft) : Response → Prop
  | .success body => draft.code = some 0 ∧ draft.body = some (some body)
  | .failure text => draft.code = some 1 ∧ draft.text = some (some text)

theorem ofDraft_eq_ok_iff {draft : Draft} {response : Response} :
    ofDraft draft = .ok response ↔ draft.Holds response := by
  obtain ⟨code, body, text⟩ := draft
  rcases code with - | code
  · cases response <;> simp [ofDraft, Draft.Holds]
  · by_cases hzero : code = 0
    · subst hzero
      rcases body with - | - | body <;> cases response <;> simp [ofDraft, Draft.Holds]
    · by_cases hone : code = 1
      · subst hone
        rcases text with - | - | text <;> cases response <;> simp [ofDraft, Draft.Holds]
      · cases response <;> simp [ofDraft, Draft.Holds, hzero, hone]

/-- The entries of a map that make it a response. -/
def Holds (entries : List Entry) : Response → Prop
  | .success body => .code 0 ∈ entries ∧ .body (some body) ∈ entries
  | .failure text => .code 1 ∈ entries ∧ .text (some text) ∈ entries

/-- **A map is a response** if it has the code of a success and a body, or the code of a failure and
a text, which are those of the response. -/
theorem decode_eq_ok_iff {response : Response} (hmap : MapForm pairs bytes)
    (hforms : List.Forall₂ Entry.Form entries pairs)
    (honce : ∀ name ∈ ["code", "rsp", "err"], Record.occurrences (Bytes.ofString name) pairs ≤ 1)
    (rest : Bytes) :
    decode (bytes ++ rest) = .ok response ↔ Holds entries response := by
  have hcode := code_gather hforms (honce _ (by simp))
  have hbody := body_gather hforms (honce _ (by simp))
  have htext := text_gather hforms (honce _ (by simp))
  have hholds : (gather entries).Holds response ↔ Holds entries response := by
    cases response with
    | success body => exact and_congr (hcode 0) (hbody (some body))
    | failure text => exact and_congr (hcode 1) (htext (some text))
  rw [← map_name_fields, List.forall_mem_map] at honce
  rw [decode,
    Record.ofRead_eq_ok_iff isApart_fields Entry.says_put hmap hforms honce isEmpty_fields rfl,
    ← hholds, ← ofDraft_eq_ok_iff]
  refine and_iff_right_of_imp fun h ↦ ?_
  have hsome : (gather entries).code.isSome := by
    cases response with
    | success body => exact Option.isSome_of_eq_some (ofDraft_eq_ok_iff.1 h).1
    | failure text => exact Option.isSome_of_eq_some (ofDraft_eq_ok_iff.1 h).1
  refine List.forall_mem_cons.2 ⟨fun _ ↦ hsome, List.forall_mem_cons.2 ⟨?_,
    List.forall_mem_singleton.2 ?_⟩⟩
  -- the record may lack the other two fields
  all_goals rintro ⟨⟩

/-- A map is no response if a field of it occurs twice. -/
theorem exists_error_of_twice (hmap : MapForm pairs bytes)
    (hvalues : ∀ pair ∈ pairs, ∃ depth, IsValue depth pair.2) (rest : Bytes) :
    ∀ name ∈ ["code", "rsp", "err"], 1 < Record.occurrences (Bytes.ofString name) pairs →
      ∃ error, decode (bytes ++ rest) = .error error := by
  rw [← map_name_fields, List.forall_mem_map]
  intro field hfield htwice
  exact Record.exists_error_of_occurrences isApart_fields hmap hvalues isEmpty_fields hfield
    (.inl htwice)

/-- A map is no response without a code. -/
theorem exists_error_of_missing (hmap : MapForm pairs bytes)
    (hvalues : ∀ pair ∈ pairs, ∃ depth, IsValue depth pair.2) (rest : Bytes)
    (hnone : Record.occurrences (Bytes.ofString "code") pairs = 0) :
    ∃ error, decode (bytes ++ rest) = .error error := by
  refine Record.exists_error_of_occurrences isApart_fields hmap hvalues isEmpty_fields
    List.mem_cons_self (.inr ⟨rfl, hnone⟩)

end Response

/-- Both kinds of envelopes are read from a map by its entries alone: the bytes are those of a map
with texts for its keys, and `pairs` has the keys and the bytes of the values in order. -/
structure IsReadByFields (pairs : List (Bytes × Bytes)) (bytes : Bytes) : Prop where
  request : ∀ entries, List.Forall₂ Request.Entry.Form entries pairs →
    (∀ name ∈ ["path", "req"], Record.occurrences (Bytes.ofString name) pairs ≤ 1) →
    ∀ request, Request.decode bytes = .ok request ↔
      .path request.path ∈ entries ∧ .body request.body ∈ entries
  success : ∀ entries, List.Forall₂ Response.Entry.Form entries pairs →
    (∀ name ∈ ["code", "rsp", "err"], Record.occurrences (Bytes.ofString name) pairs ≤ 1) →
    ∀ body, Response.decode bytes = .ok (.success body) ↔
      .code 0 ∈ entries ∧ .body (some body) ∈ entries
  failure : ∀ entries, List.Forall₂ Response.Entry.Form entries pairs →
    (∀ name ∈ ["code", "rsp", "err"], Record.occurrences (Bytes.ofString name) pairs ≤ 1) →
    ∀ text, Response.decode bytes = .ok (.failure text) ↔
      .code 1 ∈ entries ∧ .text (some text) ∈ entries
  /-- No request if a field is missing or occurs twice, whatever well-formed values there are. -/
  request_refused : (∀ pair ∈ pairs, ∃ depth, IsValue depth pair.2) →
    ∀ name ∈ ["path", "req"], Record.occurrences (Bytes.ofString name) pairs ≠ 1 →
      ∃ error, Request.decode bytes = .error error
  /-- No response if a field occurs twice, whatever well-formed values there are. -/
  response_refused : (∀ pair ∈ pairs, ∃ depth, IsValue depth pair.2) →
    ∀ name ∈ ["code", "rsp", "err"], 1 < Record.occurrences (Bytes.ofString name) pairs →
      ∃ error, Response.decode bytes = .error error
  /-- No response without a code. -/
  response_incomplete : (∀ pair ∈ pairs, ∃ depth, IsValue depth pair.2) →
    Record.occurrences (Bytes.ofString "code") pairs = 0 →
      ∃ error, Response.decode bytes = .error error

/-- **Envelopes are read from maps by their fields**: in any order, in any form of each length and
number, and among any entries under unknown keys. -/
theorem isReadByFields_of_mapForm {pairs : List (Bytes × Bytes)} {bytes : Bytes}
    (h : MapForm pairs bytes) (rest : Bytes) : IsReadByFields pairs (bytes ++ rest) where
  request _ hforms honce _ := Request.decode_eq_ok_iff h hforms honce rest
  success _ hforms honce _ := Response.decode_eq_ok_iff h hforms honce rest
  failure _ hforms honce _ := Response.decode_eq_ok_iff h hforms honce rest
  request_refused hvalues := Request.exists_error_of_occurrences h hvalues rest
  response_refused hvalues := Response.exists_error_of_twice h hvalues rest
  response_incomplete hvalues := Response.exists_error_of_missing h hvalues rest

/-- The body comes before the path, an array in an array stands under an unknown key, and the length
of the path has a field of two bytes. -/
theorem isReadByFields_of_mapForm_request :
    Request.decode [0x83, 0xA3, 0x72, 0x65, 0x71, 0xC4, 1, 7, 0xA1, 0x78, 0x91, 0x90, 0xA4, 0x70,
      0x61, 0x74, 0x68, 0xDA, 0, 1, 0x61] = .ok ⟨"a", [7]⟩ := by
  have hkey (name : String) (h : (Bytes.ofString name).length < 32) : TextForm (Bytes.ofString name)
      (UInt8.ofNat (0xA0 + (Bytes.ofString name).length) :: Bytes.ofString name) :=
    ⟨.text (.inline h)⟩
  have hmap : MapForm [(Bytes.ofString "req", [0xC4, 1, 7]), (Bytes.ofString "x", [0x91, 0x90]),
      (Bytes.ofString "path", [0xDA, 0, 1, 0x61])] _ :=
    ⟨.map (.inline (by decide)), .cons (hkey "req" (by decide)) (.cons (hkey "x" (by decide))
      (.cons (hkey "path" (by decide)) .nil))⟩
  have hbody : BinaryForm [7] [0xC4, 1, 7] := .mk (.binary (.field List.mem_cons_self (by decide)))
  have hpath : TextForm (Bytes.ofString "a") [0xDA, 0, 1, 0x61] :=
    .mk (.text (.field (by decide : (_, 2) ∈ _) (by decide)))
  have hinner : IsValue 1 ([0x90] ++ [].flatten) := .array (.array (.inline (by decide))) nofun
  have hnested : IsValue 2 ([0x91] ++ [[0x90]].flatten) :=
    .array (.array (.inline (by decide))) (List.forall_mem_singleton.2 hinner)
  have hother : Request.Entry.other.Form (Bytes.ofString "x", [0x91, 0x90]) :=
    .other (by decide) (by decide) hnested
  have hforms := List.Forall₂.cons (.body hbody) (.cons hother (.cons (.path hpath) .nil))
  exact ((isReadByFields_of_mapForm hmap []).request _ hforms (by decide) _).2 ⟨by simp, by simp⟩

end FramedExchange
