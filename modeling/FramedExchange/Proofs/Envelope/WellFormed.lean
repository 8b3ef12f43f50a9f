import FramedExchange.Proofs.Envelope.Values

/-!
# Well-formed values are passed over by their own length

A well-formed value is a scalar, a text, a byte string, an extension, or an array or a map of
well-formed values; with it goes a bound on how many containers are open at once in it (`IsValue`).
Where so many containers may be opened, passing over the value takes all of its bytes and no more
(`IsValue.reads_skip`).

What reads a value of another kind than it expects may fail, but if it does not, it has taken just
the value (`Takes`): this holds of passing over, however deep the value is, and of everything that
reads a field of an envelope.
-/

namespace FramedExchange.MessagePack

/-- The decoder fails on these bytes, or it takes them and nothing of what follows them. -/
def Takes {α : Type} (decoder : Decoder α) (bytes : Bytes) : Prop :=
  ∀ ⦃rest : Bytes⦄ ⦃value : α⦄ ⦃left : Bytes⦄,
    decoder (bytes ++ rest) = .ok (value, left) → left = rest

section Takes

variable {α β : Type} {decoder : Decoder α} {next : α → Decoder β} {bytes more : Bytes} {value : α}

theorem bind_of_eq {between : Bytes} (h : decoder bytes = .ok (value, between)) :
    (decoder >>= next) bytes = next value between := by
  show (decoder bytes >>= fun p ↦ next p.1 p.2) = _
  rw [h]
  rfl

/-- What two decoders read one after the other. -/
theorem bind_eq_ok_iff {left : Bytes} {result : β} :
    (decoder >>= next) bytes = .ok (result, left) ↔
      ∃ value between, decoder bytes = .ok (value, between) ∧
        next value between = .ok (result, left) := by
  show (decoder bytes >>= fun p ↦ next p.1 p.2) = _ ↔ _
  rcases decoder bytes with error | ⟨value, between⟩
  · exact ⟨nofun, nofun⟩
  · refine ⟨fun h ↦ ⟨value, between, rfl, h⟩, ?_⟩
    rintro ⟨_, _, ⟨⟩, h⟩
    exact h

theorem map_eq_ok_iff {f : α → β} {left : Bytes} {result : β} :
    (f <$> decoder) bytes = .ok (result, left) ↔
      ∃ value, decoder bytes = .ok (value, left) ∧ f value = result := by
  rw [map_eq_pure_bind, bind_eq_ok_iff]
  refine exists_congr fun value ↦ ⟨?_, ?_⟩
  · rintro ⟨between, h, ⟨⟩⟩
    exact ⟨h, rfl⟩
  · rintro ⟨h, rfl⟩
    exact ⟨left, h, rfl⟩

theorem Reads.takes (h : Reads decoder bytes value) : Takes decoder bytes := by
  intro rest result left hread
  rw [h rest] at hread
  cases hread
  rfl

/-- A value that is read back is the one that is read. -/
theorem Reads.eq {rest left : Bytes} {result : α} (h : Reads decoder bytes value)
    (hread : decoder (bytes ++ rest) = .ok (result, left)) : result = value ∧ left = rest := by
  rw [h rest] at hread
  cases hread
  exact ⟨rfl, rfl⟩

namespace Takes

theorem throw (error : DecodeError) : Takes (throw error : Decoder α) bytes := nofun

theorem bind (h : Takes decoder bytes) (hnext : ∀ value, Takes (next value) more) :
    Takes (decoder >>= next) (bytes ++ more) := by
  intro rest result left hread
  rw [List.append_assoc] at hread
  obtain ⟨value, between, hfirst, hsecond⟩ := bind_eq_ok_iff.1 hread
  obtain rfl := h hfirst
  exact hnext value hsecond

theorem bind_of_reads (h : Reads decoder bytes value) (hnext : Takes (next value) more) :
    Takes (decoder >>= next) (bytes ++ more) := by
  intro rest result left hread
  rw [List.append_assoc] at hread
  obtain ⟨other, between, hfirst, hsecond⟩ := bind_eq_ok_iff.1 hread
  obtain ⟨rfl, rfl⟩ := h.eq hfirst
  exact hnext hsecond

/-- What is done with a value takes no more bytes. -/
theorem bind_pure {f : α → Decoder β} (h : Takes decoder bytes) (hf : ∀ value, Takes (f value) []) :
    Takes (decoder >>= f) bytes := by
  rw [← List.append_nil bytes]
  exact h.bind hf

theorem map (f : α → β) (h : Takes decoder bytes) : Takes (f <$> decoder) bytes := by
  rw [map_eq_pure_bind]
  exact h.bind_pure fun value ↦ (Reads.pure (f value)).takes

end Takes

end Takes

/-! ### Well-formed values -/

/-- The heads that are whole values. -/
def Head.IsScalar : Head → Prop
  | .nil | .bool _ | .unsigned _ | .signed _ | .float => True
  | .text _ | .binary _ | .array _ | .map _ | .extension _ => False

/-- The bytes of a well-formed value in which at most `depth` containers are open at once. -/
inductive IsValue : ℕ → Bytes → Prop
  | scalar {depth : ℕ} {head : Head} {bytes : Bytes} (hscalar : head.IsScalar)
      (h : head.Form bytes) : IsValue depth bytes
  | text {depth : ℕ} {content bytes : Bytes} (h : TextForm content bytes) : IsValue depth bytes
  | binary {depth : ℕ} {content bytes : Bytes} (h : BinaryForm content bytes) : IsValue depth bytes
  | extension {depth : ℕ} {tag : UInt8} {head content : Bytes}
      (h : (Head.extension content.length).Form head) :
      IsValue (depth + 1) (head ++ tag :: content)
  | array {depth : ℕ} {items : List Bytes} {head : Bytes} (h : (Head.array items.length).Form head)
      (hitems : ∀ item ∈ items, IsValue depth item) : IsValue (depth + 1) (head ++ items.flatten)
  /-- The items of a map are its keys and its values in turn. -/
  | map {depth entries : ℕ} {items : List Bytes} {head : Bytes} (h : (Head.map entries).Form head)
      (hlength : items.length = 2 * entries) (hitems : ∀ item ∈ items, IsValue depth item) :
      IsValue (depth + 1) (head ++ items.flatten)

variable {depth room : ℕ} {bytes : Bytes}

/-! ### Passing over -/

theorem reads_skipTimes {decoder : Decoder Unit} {items : List Bytes}
    (h : ∀ item ∈ items, Reads decoder item ()) :
    Reads (skipTimes decoder items.length) items.flatten () := by
  induction items with
  | nil => exact Reads.pure ()
  | cons item items ih =>
    exact (h item List.mem_cons_self).bind
      (ih fun other hmem ↦ h other (List.mem_cons_of_mem _ hmem))

theorem takes_skipTimes {decoder : Decoder Unit} {items : List Bytes}
    (h : ∀ item ∈ items, Takes decoder item) :
    Takes (skipTimes decoder items.length) items.flatten := by
  induction items with
  | nil => exact (Reads.pure ()).takes
  | cons item items ih =>
    exact (h item List.mem_cons_self).bind fun _ ↦
      ih fun other hmem ↦ h other (List.mem_cons_of_mem _ hmem)

/-- **A well-formed value is passed over by its own length** where its containers may be opened. -/
theorem IsValue.reads_skip (h : IsValue depth bytes) (hroom : depth ≤ room) :
    Reads (skip room) bytes () := by
  induction h generalizing room with
  | @scalar _ head _ hscalar h =>
    unfold skip
    refine h.reads.bind_pure ?_
    cases head <;> first | exact Reads.pure () | exact hscalar.elim
  | text h =>
    obtain ⟨h⟩ := h
    unfold skip
    exact h.reads.bind ((reads_takeBytes _).bind_pure (Reads.pure ()))
  | binary h =>
    obtain ⟨h⟩ := h
    unfold skip
    exact h.reads.bind ((reads_takeBytes _).bind_pure (Reads.pure ()))
  | @extension depth tag _ content h =>
    obtain ⟨inner, rfl⟩ := Nat.exists_eq_add_of_le' hroom
    rw [← add_assoc, skip]
    exact h.reads.bind
      ((reads_takeBytes [tag]).bind ((reads_takeBytes content).bind_pure (Reads.pure ())))
  -- a container uses up one of the levels, and its items are not as deep
  | @array depth _ _ h _ ih =>
    obtain ⟨inner, rfl⟩ := Nat.exists_eq_add_of_le' hroom
    rw [← add_assoc, skip]
    exact h.reads.bind (reads_skipTimes fun item hmem ↦ ih item hmem (Nat.le_add_left depth inner))
  | @map depth _ _ _ h hlength _ ih =>
    obtain ⟨inner, rfl⟩ := Nat.exists_eq_add_of_le' hroom
    have hitems := reads_skipTimes fun item hmem ↦ ih item hmem (Nat.le_add_left depth inner)
    rw [hlength] at hitems
    rw [← add_assoc, skip]
    exact h.reads.bind hitems

/-- **No value is passed over by another length**, however deep it is. -/
theorem IsValue.takes_skip (h : IsValue depth bytes) : Takes (skip room) bytes := by
  induction h generalizing room with
  | scalar hscalar h => exact ((IsValue.scalar hscalar h).reads_skip room.zero_le).takes
  | text h => exact ((IsValue.text h).reads_skip room.zero_le).takes
  | binary h => exact ((IsValue.binary h).reads_skip room.zero_le).takes
  | @extension _ tag _ content h =>
    cases room with
    | zero =>
      rw [skip]
      exact Takes.bind_of_reads h.reads (.throw _)
    | succ room =>
      have hvalue : IsValue 1 (_ ++ tag :: content) := .extension h
      exact (hvalue.reads_skip (Nat.le_add_left 1 room)).takes
  -- without a level left the container is refused, which is no other length either
  | array h _ ih =>
    rw [skip.eq_def]
    refine Takes.bind_of_reads h.reads ?_
    cases room with
    | zero => exact .throw _
    | succ room => exact takes_skipTimes fun item hmem ↦ ih item hmem
  | map h hlength _ ih =>
    rw [skip.eq_def]
    refine Takes.bind_of_reads h.reads ?_
    cases room with
    | zero => exact .throw _
    | succ room =>
      have hitems : Takes (skipTimes (skip room) _) _ :=
        takes_skipTimes fun item hmem ↦ ih item hmem
      rw [hlength] at hitems
      exact hitems

/-! ### Numbers -/

/-- The head is an integer that fits into a byte. -/
def Head.IsByte (value : UInt8) : Head → Prop
  | .unsigned n => n = value.toNat
  | .signed n => n = value.toNat
  | _ => False

private theorem ite_eq_ok_iff {p : Prop} [Decidable p] {between left : Bytes} {byte value : UInt8} :
    (if p then pure byte else throw .unexpectedValue : Decoder UInt8) between = .ok (value, left) ↔
      (p ∧ byte = value) ∧ between = left := by
  split
  · rename_i hp
    refine ⟨?_, ?_⟩
    · rintro ⟨⟩
      exact ⟨⟨hp, rfl⟩, rfl⟩
    · rintro ⟨⟨-, rfl⟩, rfl⟩
      rfl
  · rename_i hp
    exact ⟨nofun, fun h ↦ absurd h.1.1 hp⟩

/-- **A number is read as a byte** if it is one, whatever form it has. -/
theorem byteValue_eq_ok_iff {left : Bytes} {value : UInt8} :
    byteValue bytes = .ok (value, left) ↔
      ∃ head : Head, Head.read bytes = .ok (head, left) ∧ head.IsByte value := by
  have hlt := value.toNat_lt
  have hunsigned (n : ℕ) : n < 256 ∧ UInt8.ofNat n = value ↔ n = value.toNat := by
    rw [← UInt8.toNat_inj, UInt8.toNat_ofNat']
    omega
  have hsigned (n : ℤ) : (0 ≤ n ∧ n < 256) ∧ UInt8.ofNat n.toNat = value ↔ n = value.toNat := by
    rw [← UInt8.toNat_inj, UInt8.toNat_ofNat']
    omega
  have hnumber (marker : Marker) (tail : Bytes) :
      (do
        match ← Head.ofMarker marker with
        | .unsigned n => if n < 256 then pure (UInt8.ofNat n) else throw .unexpectedValue
        | .signed n =>
          if 0 ≤ n ∧ n < 256 then pure (UInt8.ofNat n.toNat) else throw .unexpectedValue
        | _ => throw .unexpectedValue : Decoder UInt8) tail = .ok (value, left) ↔
        ∃ head : Head, Head.ofMarker marker tail = .ok (head, left) ∧ head.IsByte value := by
    rw [bind_eq_ok_iff]
    refine exists_congr fun head ↦ ?_
    cases head with
    | unsigned n => simp [ite_eq_ok_iff, hunsigned, Head.IsByte, and_comm, and_assoc]
    | signed n => simp [ite_eq_ok_iff, hsigned, Head.IsByte, and_comm, and_assoc]
    | _ => exact ⟨nofun, nofun⟩
  cases bytes with
  | nil => exact ⟨nofun, nofun⟩
  | cons byte tail =>
    have hmarker : Marker.read (byte :: tail) = .ok (Marker.ofByte byte, tail) := rfl
    rw [byteValue, Head.read, bind_of_eq hmarker, bind_of_eq hmarker]
    -- only a marker of an integer announces a number; the others are refused on either side
    cases Marker.ofByte byte with
    | text size | binary size | array size | map size | extension size =>
      refine ⟨nofun, ?_⟩
      rintro ⟨head, hread, hbyte⟩
      obtain ⟨n, -, rfl⟩ := map_eq_ok_iff.1 hread
      exact hbyte.elim
    | reserved => exact ⟨nofun, nofun⟩
    | _ => exact hnumber _ tail

/-- A number is read from any form of it. -/
theorem reads_byteValue_of_form {head : Head} {value : UInt8} (h : head.Form bytes)
    (hbyte : head.IsByte value) : Reads byteValue bytes value :=
  fun rest ↦ byteValue_eq_ok_iff.2 ⟨head, h.reads rest, hbyte⟩

/-! ### What fields read -/

/-- What is behind the head of a well-formed value, as far as readers of other kinds look at it. -/
def Head.Holds (content : Bytes) : Head → Prop
  | .text length | .binary length => content.length = length
  | .array length => ∃ (items : List Bytes) (depth : ℕ), items.length = length ∧
      items.flatten = content ∧ ∀ item ∈ items, IsValue depth item
  | .map _ | .extension _ => True
  | .nil | .bool _ | .unsigned _ | .signed _ | .float => content = []

theorem IsValue.exists_head (h : IsValue depth bytes) :
    ∃ (head : Head) (front content : Bytes), bytes = front ++ content ∧ head.Form front ∧
      head.Holds content := by
  cases h with
  | @scalar _ head _ hscalar h =>
    refine ⟨head, bytes, [], (List.append_nil bytes).symm, h, ?_⟩
    cases head <;> first | rfl | exact hscalar.elim
  | text h =>
    obtain ⟨h⟩ := h
    exact ⟨_, _, _, rfl, h, rfl⟩
  | binary h =>
    obtain ⟨h⟩ := h
    exact ⟨_, _, _, rfl, h, rfl⟩
  | extension h => exact ⟨_, _, _, rfl, h, trivial⟩
  | array h hitems => exact ⟨_, _, _, rfl, h, _, _, rfl, rfl, hitems⟩
  | map h => exact ⟨_, _, _, rfl, h, trivial⟩

theorem takes_takeBytes (bytes : Bytes) : Takes (takeBytes bytes.length) bytes :=
  (reads_takeBytes bytes).takes

theorem takes_refuse {α : Type} (head : Head) : Takes (refuse room head : Decoder α) bytes := by
  cases head with
  | array | map | extension => cases room <;> exact .throw _
  | _ => exact .throw _

theorem takes_byteValue (h : IsValue depth bytes) : Takes byteValue bytes := by
  intro rest value left hread
  obtain ⟨head, front, content, rfl, hform, hcontent⟩ := h.exists_head
  obtain ⟨other, hhead, hbyte⟩ := byteValue_eq_ok_iff.1 hread
  rw [List.append_assoc] at hhead
  obtain ⟨rfl, rfl⟩ := hform.reads.eq hhead
  cases other with
  | unsigned | signed =>
    obtain rfl : content = [] := hcontent
    rfl
  | _ => exact hbyte.elim

theorem takes_byteValues {items : List Bytes} (h : ∀ item ∈ items, IsValue depth item) :
    Takes (byteValues items.length) items.flatten := by
  induction items with
  | nil => exact (Reads.pure []).takes
  | cons item items ih =>
    refine (takes_byteValue (h item List.mem_cons_self)).bind fun byte ↦ ?_
    refine (ih fun other hmem ↦ h other (List.mem_cons_of_mem _ hmem)).bind_pure fun others ↦ ?_
    exact (Reads.pure (byte :: others)).takes

/-- A text that is taken is accepted or refused by its bytes alone. -/
private theorem takes_textOfBytes (content : Bytes) (refusal : DecodeError) :
    Takes (do
      match Bytes.toString? (← takeBytes content.length) with
      | some text => pure text
      | none => throw refusal : Decoder String) content := by
  refine (takes_takeBytes content).bind_pure fun bytes ↦ ?_
  split
  · exact (Reads.pure _).takes
  · exact .throw _

theorem takes_textOf {head : Head} {content : Bytes} (h : head.Holds content) :
    Takes (textOf room head) content := by
  unfold textOf
  split
  · obtain rfl : content.length = _ := h
    exact takes_textOfBytes content _
  · obtain rfl : content.length = _ := h
    exact takes_textOfBytes content _
  · exact takes_refuse _

theorem takes_binaryOf {head : Head} {content : Bytes} (h : head.Holds content) :
    Takes (binaryOf room head) content := by
  unfold binaryOf
  split
  · obtain rfl : content.length = _ := h
    exact takes_takeBytes content
  · obtain rfl : content.length = _ := h
    exact takes_takeBytes content
  · obtain ⟨items, depth, rfl, rfl, hitems⟩ := h
    cases room with
    | zero => exact .throw _
    | succ room => exact takes_byteValues hitems
  · exact takes_refuse _

section OfHead

variable {α : Type} {ofHead : Head → Decoder α}

/-- **A reader that goes by the head takes a whole value or fails.** -/
theorem IsValue.takes (h : IsValue depth bytes)
    (hof : ∀ {head : Head} {content : Bytes}, head.Holds content → Takes (ofHead head) content) :
    Takes (Head.read >>= ofHead) bytes := by
  obtain ⟨head, front, content, rfl, hform, hcontent⟩ := h.exists_head
  exact Takes.bind_of_reads hform.reads (hof hcontent)

theorem IsValue.takes_orNil (h : IsValue depth bytes)
    (hof : ∀ {head : Head} {content : Bytes}, head.Holds content → Takes (ofHead head) content) :
    Takes (orNil ofHead) bytes := by
  refine h.takes fun {head content} hcontent ↦ ?_
  cases head with
  | nil =>
    obtain rfl : content = [] := hcontent
    exact (Reads.pure none).takes
  | _ => exact (hof hcontent).map some

end OfHead

end FramedExchange.MessagePack
