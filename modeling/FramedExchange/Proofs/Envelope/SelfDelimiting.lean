import FramedExchange.Proofs.Envelope.RoundTrip

/-!
# Envelopes say where they end

A decoder is stable if it never looks behind the value that it reads: with more bytes behind them,
it reads the same value from the same bytes and leaves the others (`IsStable`). Decoders made of
stable ones are stable, and so is everything that reads envelopes, whatever form their record has
and however deep the values are that are passed over (`Record.stable_read`).

So what a stable decoder reads back from the whole of some bytes it reads from no shorter front of
them (`IsStable.exists_error_of_cut`): there would be bytes left over. Together with the round trip
this makes the two kinds of envelopes self-delimiting (`IsSelfDelimiting`).
-/

namespace FramedExchange

namespace MessagePack

/-- What is read does not depend on what follows it: more bytes at the end are left at the end. -/
def IsStable {α : Type} (decoder : Decoder α) : Prop :=
  ∀ ⦃bytes : Bytes⦄ ⦃value : α⦄ ⦃rest : Bytes⦄, decoder bytes = .ok (value, rest) →
    ∀ more, decoder (bytes ++ more) = .ok (value, rest ++ more)

namespace IsStable

variable {α β : Type} {decoder : Decoder α} {next : α → Decoder β}

theorem pure (value : α) : IsStable (pure value : Decoder α) := by
  intro bytes result rest h more
  cases h
  rfl

theorem throw (error : DecodeError) : IsStable (throw error : Decoder α) := nofun

theorem bind (h : IsStable decoder) (hnext : ∀ value, IsStable (next value)) :
    IsStable (decoder >>= next) := by
  intro bytes result rest hread more
  change (decoder bytes >>= fun p ↦ next p.1 p.2) = _ at hread
  show (decoder (bytes ++ more) >>= fun p ↦ next p.1 p.2) = _
  rcases hfirst : decoder bytes with error | ⟨value, left⟩
  · rw [hfirst] at hread
    cases hread
  · rw [hfirst] at hread
    rw [h hfirst more]
    exact hnext value hread more

theorem map (f : α → β) (h : IsStable decoder) : IsStable (f <$> decoder) := by
  rw [map_eq_pure_bind]
  exact h.bind fun value ↦ pure (f value)

theorem ite {p : Prop} [Decidable p] {other : Decoder α} (h : IsStable decoder)
    (hother : IsStable other) : IsStable (if p then decoder else other) := by
  split
  · exact h
  · exact hother

/-- **No shorter front** of the bytes that are read back is read. -/
theorem exists_error_of_cut {whole front : Bytes} {value : α} (h : IsStable decoder)
    (hwhole : Reads decoder whole value) (hfront : front <+: whole) (hne : front ≠ whole) :
    ∃ error, decoder front = .error error := by
  obtain ⟨lost, rfl⟩ := hfront
  rcases hread : decoder front with error | ⟨other, rest⟩
  · exact ⟨error, rfl⟩
  · -- what the front leaves would be left of the whole as well, with the lost bytes behind it
    have hmore := h hread lost
    have hback := hwhole []
    rw [List.append_nil, hmore] at hback
    obtain ⟨-, hnone⟩ := Prod.mk.inj (Except.ok.inj hback)
    obtain ⟨-, rfl⟩ := List.append_eq_nil_iff.1 hnone
    exact absurd (List.append_nil front).symm hne

end IsStable

/-! ### Heads -/

theorem stable_takeBytes (n : ℕ) : IsStable (takeBytes n) := by
  intro bytes taken rest h more
  simp only [takeBytes, List.splitAt_eq] at h ⊢
  split at h
  · rename_i hlength
    have hle : n ≤ bytes.length := by
      rw [← hlength, List.length_take]
      exact Nat.min_le_right _ _
    cases h
    rw [List.take_append_of_le_length hle, List.drop_append_of_le_length hle, if_pos hlength]
  · cases h

theorem stable_marker : IsStable Marker.read := by
  intro bytes marker rest h more
  cases bytes with
  | nil => cases h
  | cons byte bytes =>
    cases h
    rfl

theorem stable_size (size : Size) : IsStable size.read := by
  cases size with
  | inline n => exact .pure n
  | field width => exact (stable_takeBytes width).map _

theorem stable_ofMarker (marker : Marker) : IsStable (Head.ofMarker marker) := by
  cases marker with
  | nil => exact .pure _
  | bool value => exact .pure _
  | unsigned size => exact (stable_size size).map _
  | signed value =>
    cases value with
    | inl n => exact .pure _
    | inr width => exact (stable_takeBytes width).map _
  | float width => exact (stable_takeBytes width).map _
  | text size => exact (stable_size size).map _
  | binary size => exact (stable_size size).map _
  | array size => exact (stable_size size).map _
  | map size => exact (stable_size size).map _
  | extension size => exact (stable_size size).map _
  | reserved => exact .throw _

theorem stable_head : IsStable Head.read := stable_marker.bind stable_ofMarker

/-! ### Values -/

section Values

variable {α : Type} {room : ℕ}

theorem stable_enter {inside : ℕ → Decoder α} (h : ∀ room, IsStable (inside room)) (room : ℕ) :
    IsStable (enter room inside) := by
  cases room with
  | zero => exact .throw _
  | succ room => exact h room

theorem stable_refuse (room : ℕ) (head : Head) : IsStable (refuse room head : Decoder α) := by
  cases head with
  | array | map | extension => exact stable_enter (fun _ ↦ .throw _) room
  | _ => exact .throw _

theorem stable_skipTimes {decoder : Decoder Unit} (h : IsStable decoder) (n : ℕ) :
    IsStable (skipTimes decoder n) := by
  induction n with
  | zero => exact .pure ()
  | succ n ih => exact h.bind fun _ ↦ ih

/-- **Passing over a value of any kind is stable**, however deep the value is. -/
theorem stable_skip (room : ℕ) : IsStable (skip room) := by
  induction room with
  | zero =>
    rw [skip]
    refine stable_head.bind fun head ↦ ?_
    cases head with
    | text length | binary length => exact (stable_takeBytes length).bind fun _ ↦ .pure ()
    | array | map | extension => exact .throw _
    | _ => exact .pure ()
  | succ room ih =>
    rw [skip]
    refine stable_head.bind fun head ↦ ?_
    cases head with
    | text length | binary length => exact (stable_takeBytes length).bind fun _ ↦ .pure ()
    | extension length =>
      exact (stable_takeBytes 1).bind fun _ ↦ (stable_takeBytes length).bind fun _ ↦ .pure ()
    | array length => exact stable_skipTimes ih length
    | map entries => exact stable_skipTimes ih (2 * entries)
    | _ => exact .pure ()

theorem stable_byteValue : IsStable byteValue := by
  refine stable_marker.bind fun marker ↦ ?_
  cases marker with
  | text | binary | array | map | extension | reserved => exact .throw _
  | nil | bool | unsigned | signed | float =>
    refine (stable_ofMarker _).bind fun head ↦ ?_
    cases head with
    | unsigned n => exact .ite (.pure _) (.throw _)
    | signed n => exact .ite (.pure _) (.throw _)
    | _ => exact .throw _

theorem stable_byteValues (n : ℕ) : IsStable (byteValues n) := by
  induction n with
  | zero => exact .pure []
  | succ n ih => exact stable_byteValue.bind fun byte ↦ ih.bind fun bytes ↦ .pure (byte :: bytes)

/-- A text that is taken is accepted or refused by its bytes alone. -/
private theorem stable_textOfBytes (length : ℕ) (refusal : DecodeError) :
    IsStable (do
      match Bytes.toString? (← takeBytes length) with
      | some text => pure text
      | none => throw refusal : Decoder String) := by
  refine (stable_takeBytes length).bind fun bytes ↦ ?_
  split
  · exact .pure _
  · exact .throw _

theorem stable_utf8Text (length : ℕ) : IsStable (utf8Text length) := stable_textOfBytes length _

theorem stable_textOf (room : ℕ) (head : Head) : IsStable (textOf room head) := by
  unfold textOf
  split
  · exact stable_utf8Text _
  · exact stable_textOfBytes _ _
  · exact stable_refuse room _

theorem stable_binaryOf (room : ℕ) (head : Head) : IsStable (binaryOf room head) := by
  unfold binaryOf
  split
  · exact stable_takeBytes _
  · exact stable_takeBytes _
  · exact stable_enter (fun _ ↦ stable_byteValues _) room
  · exact stable_refuse room _

theorem stable_orNil {ofHead : Head → Decoder α} (h : ∀ head, IsStable (ofHead head)) :
    IsStable (orNil ofHead) := by
  refine stable_head.bind fun head ↦ ?_
  cases head with
  | nil => exact .pure none
  | _ => exact (h _).map some

end Values

/-! ### Records -/

namespace Record

variable {σ : Type} {fields : List (RecordField σ)}

theorem stable_readKey (room : ℕ) : IsStable (readKey room) := by
  refine stable_head.bind fun head ↦ ?_
  cases head with
  | text length | binary length => exact (stable_takeBytes length).map _
  | unsigned n => exact .pure _
  | _ => exact stable_refuse room _

theorem mem_of_field? {key : Key} {field : RecordField σ} (h : field? fields key = some field) :
    field ∈ fields := by
  cases key with
  | name bytes => exact List.mem_of_find?_eq_some h
  | position n => exact List.mem_of_getElem? h

theorem stable_readEntries (h : ∀ field ∈ fields, ∀ room record, IsStable (field.fill room record))
    (room entries : ℕ) (record : σ) : IsStable (readEntries fields room entries record) := by
  induction entries generalizing record with
  | zero => exact .pure record
  | succ entries ih =>
    refine (stable_readKey room).bind fun key ↦ ?_
    rcases hfield : field? fields key with - | field
    · exact (stable_skip room).bind fun _ ↦ ih record
    · have hfill := h field (mem_of_field? hfield) room record
      have hrest : IsStable (do
          let record ← field.fill room record
          readEntries fields room entries record) := hfill.bind ih
      show IsStable (if field.isFilled record then
        (throw (.duplicateField field.name) : Decoder PUnit) >>= fun _ ↦ _ else _)
      split
      · exact (IsStable.throw _).bind fun _ ↦ hrest
      · exact hrest

theorem stable_checkFilled (record : σ) : IsStable (checkFilled fields record) := by
  rw [checkFilled]
  split
  · exact .throw _
  · exact .pure ()

theorem stable_readElements (h : ∀ field ∈ fields, ∀ room record, IsStable (field.fill room record))
    (room elements : ℕ) (record : σ) : IsStable (readElements room fields elements record) := by
  induction fields generalizing elements record with
  | nil =>
    cases elements with
    | zero => exact .pure record
    | succ elements => exact .throw _
  | cons field fields ih =>
    have hothers := ih fun other hmem ↦ h other (List.mem_cons_of_mem _ hmem)
    cases elements with
    | zero => exact .ite (hothers 0 record) (.throw _)
    | succ elements => exact (h field List.mem_cons_self room record).bind (hothers elements)

/-- **Reading a record of any form is stable**, if reading its fields is. -/
theorem stable_read (h : ∀ field ∈ fields, ∀ room record, IsStable (field.fill room record))
    (record : σ) : IsStable (read fields record) := by
  refine stable_head.bind fun head ↦ ?_
  cases head with
  | map entries =>
    refine stable_enter (fun room ↦ ?_) maxDepth
    exact (stable_readEntries h room entries record).bind fun filled ↦
      (stable_checkFilled filled).bind fun _ ↦ .pure filled
  | array elements => exact stable_enter (fun room ↦ stable_readElements h room elements record) _
  | binary length =>
    refine (stable_takeBytes length).bind fun bytes ↦ ?_
    cases ofBytes fields bytes record with
    | ok filled => exact .pure filled
    | error cause => exact .throw cause
  | text length => exact (stable_utf8Text length).bind fun _ ↦ .throw _
  | _ => exact stable_refuse maxDepth _

end Record

end MessagePack

open MessagePack

/-! ### Envelopes -/

/-- A coding of values from which each value is read back, whatever follows it, but from no shorter
front of its bytes. -/
structure IsSelfDelimiting {α ε : Type} (fits : α → Prop) (encode : α → Bytes)
    (decode : Bytes → Except ε α) : Prop where
  decode_encode_append : ∀ value, fits value → ∀ rest, decode (encode value ++ rest) = .ok value
  decode_of_front : ∀ value, fits value → ∀ front, front <+: encode value → front ≠ encode value →
    ∃ error, decode front = .error error
  injOn : Set.InjOn encode {value | fits value}
  /-- No value's bytes begin with those of another. -/
  eq_of_prefix : ∀ value, fits value → ∀ other, fits other → encode value <+: encode other →
    value = other

/-- The bytes of a value are not those of another, nor do they begin with them, if it is read back
whatever follows it. -/
theorem isSelfDelimiting_of_reads {α ε : Type} {fits : α → Prop} {encode : α → Bytes}
    {decode : Bytes → Except ε α}
    (hback : ∀ value, fits value → ∀ rest, decode (encode value ++ rest) = .ok value)
    (hshort : ∀ value, fits value → ∀ front, front <+: encode value → front ≠ encode value →
      ∃ error, decode front = .error error) : IsSelfDelimiting fits encode decode := by
  have hprefix (value other : α) (hvalue : fits value) (hother : fits other)
      (h : encode value <+: encode other) : value = other := by
    obtain ⟨rest, hrest⟩ := h
    have hread := hback value hvalue rest
    have hwhole := hback other hother []
    rw [List.append_nil, ← hrest, hread] at hwhole
    exact Except.ok.inj hwhole
  refine ⟨hback, hshort, fun value hvalue other hother heq ↦ ?_, fun value hvalue other hother ↦
    hprefix value other hvalue hother⟩
  exact hprefix value other hvalue hother (heq ▸ List.prefix_refl _)

namespace Request

/-- The lengths of the path and of the body fit into four bytes. -/
def Fits (request : Request) : Prop :=
  (Bytes.ofString request.path).length < 2 ^ 32 ∧ request.body.length < 2 ^ 32

theorem stable_fields : ∀ field ∈ fields, ∀ room draft, IsStable (field.fill room draft) := by
  refine List.forall_mem_cons.2 ⟨fun room draft ↦ ?_,
    List.forall_mem_singleton.2 fun room draft ↦ ?_⟩
  · exact (stable_head.bind (stable_textOf room)).bind fun path ↦ .pure _
  · exact (stable_head.bind (stable_binaryOf room)).bind fun body ↦ .pure _

theorem exists_error_of_cut {request : Request} (hfits : request.Fits) {front : Bytes}
    (hfront : front <+: request.encode) (hne : front ≠ request.encode) :
    ∃ error, decode front = .error error := by
  obtain ⟨error, herror⟩ := (Record.stable_read stable_fields ⟨none, none⟩).exists_error_of_cut
    (reads_encode hfits.1 hfits.2) hfront hne
  exact ⟨error, by rw [decode, herror]; rfl⟩

end Request

namespace Response

/-- The length of the payload fits into four bytes. -/
def Fits (response : Response) : Prop := response.payloadLength < 2 ^ 32

theorem stable_fields : ∀ field ∈ fields, ∀ room draft, IsStable (field.fill room draft) := by
  refine List.forall_mem_cons.2 ⟨fun room draft ↦ ?_, List.forall_mem_cons.2
    ⟨fun room draft ↦ ?_, List.forall_mem_singleton.2 fun room draft ↦ ?_⟩⟩
  · exact stable_byteValue.bind fun code ↦ .pure _
  · exact (stable_orNil (stable_binaryOf room)).bind fun body ↦ .pure _
  · exact (stable_orNil (stable_textOf room)).bind fun text ↦ .pure _

theorem exists_error_of_cut {response : Response} (hfits : response.Fits) {front : Bytes}
    (hfront : front <+: response.encode) (hne : front ≠ response.encode) :
    ∃ error, decode front = .error error := by
  obtain ⟨draft, hread, -⟩ := exists_reads_encode hfits
  obtain ⟨error, herror⟩ :=
    (Record.stable_read stable_fields ⟨none, none, none⟩).exists_error_of_cut hread hfront hne
  exact ⟨error, by rw [decode, herror]; rfl⟩

end Response

/-- **Both kinds of envelopes are self-delimiting**, as long as the texts and the byte strings in
them have lengths that fit into four bytes. -/
theorem isSelfDelimiting_envelopes :
    IsSelfDelimiting Request.Fits Request.encode Request.decode ∧
      IsSelfDelimiting Response.Fits Response.encode Response.decode := by
  refine ⟨isSelfDelimiting_of_reads (fun request hfits rest ↦ ?_) fun request hfits front ↦
    Request.exists_error_of_cut hfits, isSelfDelimiting_of_reads (fun response hfits rest ↦ ?_)
      fun response hfits front ↦ Response.exists_error_of_cut hfits⟩
  · exact Request.decode_encode_append hfits.1 hfits.2 rest
  · exact Response.decode_encode_append hfits rest

end FramedExchange
