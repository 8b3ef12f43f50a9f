import FramedExchange.MessagePack.Record
import FramedExchange.Proofs.Envelope.WellFormed
import Mathlib.Data.List.Forall2

/-!
# Entries of a map say what is in a record

A record that is written as a map is a head and then, for each entry, the text of its key and a
value (`MapForm`). An entry under an unknown key is passed over and any other fills its field
(`readEntries_of_unknown`, `readEntries_of_known`).

* If the values are well-formed and the record is read, then no field has occurred twice and each
  field that the record may not lack has occurred (`exists_error_of_occurrences`).
* If no field occurs twice and each entry says something that its field can read, then the record
  that is read is what the entries say one after the other (`reads_readEntries`), and a field holds
  exactly what some entry says about it (`get_foldl_eq_some_iff`).
-/

namespace FramedExchange.MessagePack

/-- The bytes that the entries of a map may be written in, for their keys and the bytes of their
values. -/
inductive EntriesForm : List (Bytes × Bytes) → Bytes → Prop
  | nil : EntriesForm [] []
  | cons {key value front bytes : Bytes} {pairs : List (Bytes × Bytes)} (hkey : TextForm key front)
      (hmore : EntriesForm pairs bytes) :
      EntriesForm ((key, value) :: pairs) (front ++ (value ++ bytes))

/-- The bytes that a map with texts for its keys may be written in. -/
inductive MapForm (pairs : List (Bytes × Bytes)) : Bytes → Prop
  | mk {head body : Bytes} (hhead : (Head.map pairs.length).Form head)
      (hbody : EntriesForm pairs body) : MapForm pairs (head ++ body)

namespace Record

variable {σ : Type} {fields : List (RecordField σ)} {room entries : ℕ} {record filled : σ}
variable {key bytes rest left : Bytes} {pairs : List (Bytes × Bytes)}

/-- A field of a record stands for itself: it is found by its name, takes whole values, and fills
itself and no other field. -/
structure IsApart (fields : List (RecordField σ)) (field : RecordField σ) : Prop where
  field?_name : field? fields (.name (Bytes.ofString field.name)) = some field
  takes_fill : ∀ {depth : ℕ} {value : Bytes}, IsValue depth value →
    ∀ room record, Takes (field.fill room record) value
  isFilled_fill : ∀ {room : ℕ} {record filled : σ} {bytes left : Bytes},
    field.fill room record bytes = .ok (filled, left) → field.isFilled filled = true
  isFilled_other : ∀ {room : ℕ} {record filled : σ} {bytes left : Bytes},
    field.fill room record bytes = .ok (filled, left) → ∀ other ∈ fields, other ≠ field →
      other.isFilled filled = other.isFilled record

/-- A field that reads a value and puts it into the record stands for itself. -/
theorem isApart_of_reader {α : Type} {field : RecordField σ} {reader : ℕ → Decoder α}
    {put : α → σ → σ}
    (hname : field? fields (.name (Bytes.ofString field.name)) = some field)
    (hfill : ∀ room record, field.fill room record = (reader room >>= fun a ↦ pure (put a record)))
    (htakes : ∀ {depth : ℕ} {value : Bytes}, IsValue depth value →
      ∀ room, Takes (reader room) value)
    (hself : ∀ a record, field.isFilled (put a record) = true)
    (hother : ∀ other ∈ fields, other ≠ field →
      ∀ a record, other.isFilled (put a record) = other.isFilled record) :
    IsApart fields field := by
  refine ⟨hname, fun hvalue room record ↦ ?_, fun {room record filled bytes left} hread ↦ ?_,
    fun {room record filled bytes left} hread other hmem hne ↦ ?_⟩
  · rw [hfill]
    exact (htakes hvalue room).bind_pure fun a ↦ (Reads.pure _).takes
  · rw [hfill] at hread
    obtain ⟨a, _, -, ⟨⟩⟩ := bind_eq_ok_iff.1 hread
    exact hself a record
  · rw [hfill] at hread
    obtain ⟨a, _, -, ⟨⟩⟩ := bind_eq_ok_iff.1 hread
    exact hother other hmem hne a record

theorem eq_of_name {field other : RecordField σ} (hfield : IsApart fields field)
    (hother : IsApart fields other)
    (hname : Bytes.ofString field.name = Bytes.ofString other.name) :
    other = field := by
  have hfound := hother.field?_name
  rw [← hname, hfield.field?_name] at hfound
  exact (Option.some.inj hfound).symm

/-! ### One entry -/

theorem reads_readKey (h : TextForm key bytes) : Reads (readKey room) bytes (.name key) := by
  obtain ⟨h⟩ := h
  exact h.reads.bind ((reads_takeBytes key).map Key.name)

theorem field?_eq_none_iff :
    field? fields (.name key) = none ↔ ∀ field ∈ fields, key ≠ Bytes.ofString field.name := by
  rw [field?, List.find?_eq_none]
  refine forall₂_congr fun field _ ↦ ?_
  rw [beq_iff_eq]
  exact not_congr eq_comm

theorem name_eq_of_field?_eq_some {field : RecordField σ}
    (h : field? fields (.name key) = some field) :
    field ∈ fields ∧ Bytes.ofString field.name = key := by
  refine ⟨List.mem_of_find?_eq_some h, ?_⟩
  simpa using List.find?_some h

/-- An entry under an unknown key is passed over. -/
theorem readEntries_of_unknown (hkey : TextForm key bytes) (h : field? fields (.name key) = none) :
    readEntries fields room (entries + 1) record (bytes ++ rest) =
      (skip room >>= fun _ ↦ readEntries fields room entries record) rest := by
  rw [readEntries, bind_of_eq (reads_readKey hkey rest), h]

/-- An entry under a known key fills its field, unless the field has been filled before. -/
theorem readEntries_of_known {field : RecordField σ} (hkey : TextForm key bytes)
    (h : field? fields (.name key) = some field) :
    readEntries fields room (entries + 1) record (bytes ++ rest) =
      if field.isFilled record then .error (.duplicateField field.name)
      else (field.fill room record >>= readEntries fields room entries) rest := by
  rw [readEntries, bind_of_eq (reads_readKey hkey rest), h]
  show (if field.isFilled record then
    (throw (.duplicateField field.name) : Decoder PUnit) >>= fun _ ↦ _ else _ : Decoder σ) rest = _
  split
  · rfl
  · rfl

/-! ### Known keys -/

/-- How often a key occurs. -/
def occurrences (key : Bytes) (pairs : List (Bytes × Bytes)) : ℕ := (pairs.map Prod.fst).count key

theorem occurrences_cons_self (key value : Bytes) :
    occurrences key ((key, value) :: pairs) = occurrences key pairs + 1 :=
  List.count_cons_self

theorem occurrences_cons_of_ne {other value : Bytes} (h : key ≠ other) :
    occurrences other ((key, value) :: pairs) = occurrences other pairs :=
  List.count_cons_of_ne h

/-- **Every occurrence of a known key fills its field**, which has been empty. -/
theorem occurrences_add_toNat (h : ∀ field ∈ fields, IsApart fields field)
    (hentries : EntriesForm pairs bytes)
    (hvalues : ∀ pair ∈ pairs, ∃ depth, IsValue depth pair.2)
    (hread : readEntries fields room pairs.length record (bytes ++ rest) = .ok (filled, left)) :
    ∀ field ∈ fields,
      occurrences (Bytes.ofString field.name) pairs + (field.isFilled record).toNat =
        (field.isFilled filled).toNat := by
  induction hentries generalizing record with
  | nil =>
    cases hread
    exact fun field _ ↦ Nat.zero_add _
  | @cons key value front bytes pairs hkey hmore ih =>
    intro other hother
    obtain ⟨depth, hvalue⟩ := hvalues _ List.mem_cons_self
    have hothers := fun pair hmem ↦ hvalues pair (List.mem_cons_of_mem _ hmem)
    rw [List.append_assoc, List.append_assoc] at hread
    rcases hfield : field? fields (.name key) with - | field
    · rw [List.length_cons, readEntries_of_unknown hkey hfield] at hread
      obtain ⟨_, between, hskip, hread⟩ := bind_eq_ok_iff.1 hread
      obtain rfl := hvalue.takes_skip hskip
      rw [occurrences_cons_of_ne (field?_eq_none_iff.1 hfield other hother)]
      exact ih hothers hread other hother
    · rw [List.length_cons, readEntries_of_known hkey hfield] at hread
      split at hread
      · cases hread
      · rename_i hempty
        obtain ⟨record', between, hfill, hread⟩ := bind_eq_ok_iff.1 hread
        obtain ⟨hmem, rfl⟩ := name_eq_of_field?_eq_some hfield
        obtain rfl := (h field hmem).takes_fill hvalue room record hfill
        have hlater := ih hothers hread other hother
        -- the field that is filled now was empty and stays filled, so it does not occur again
        by_cases hname : Bytes.ofString field.name = Bytes.ofString other.name
        · obtain rfl := eq_of_name (h field hmem) (h other hother) hname
          rw [(h other hmem).isFilled_fill hfill] at hlater
          rw [occurrences_cons_self, Bool.eq_false_of_not_eq_true hempty, ← hlater]
          rfl
        · have hne : other ≠ field := fun heq ↦ hname (heq ▸ rfl)
          rw [(h field hmem).isFilled_other hfill other hother hne] at hlater
          rw [occurrences_cons_of_ne hname, hlater]

/-! ### What entries say -/

/-- What an entry says to a record: nothing if its key is unknown, and otherwise what its field
reads. -/
inductive Says (fields : List (RecordField σ)) (room : ℕ) : Bytes × Bytes → (σ → σ) → Prop
  | nothing {key value : Bytes} {put : σ → σ} (hfield : field? fields (.name key) = none)
      (hskip : Reads (skip room) value ()) (hput : ∀ record, put record = record) :
      Says fields room (key, value) put
  | filling {key value : Bytes} {field : RecordField σ} {put : σ → σ}
      (hfield : field? fields (.name key) = some field)
      (hfill : ∀ record, Reads (field.fill room record) value (put record)) :
      Says fields room (key, value) put

section Sayings

variable {ε : Type} {sayings : List ε} {put : ε → σ → σ} {form : ε → Bytes × Bytes → Prop}

/-- **The entries of a map say one after the other** what is in the record, if no field occurs
twice. -/
theorem reads_readEntries (h : ∀ field ∈ fields, IsApart fields field)
    (hput : ∀ saying pair, form saying pair → Says fields room pair (put saying))
    (hentries : EntriesForm pairs bytes) (hforms : List.Forall₂ form sayings pairs)
    (honce : ∀ field ∈ fields,
      occurrences (Bytes.ofString field.name) pairs + (field.isFilled record).toNat ≤ 1) :
    Reads (readEntries fields room pairs.length record) bytes
      (sayings.foldl (fun record saying ↦ put saying record) record) := by
  induction hentries generalizing record sayings with
  | nil =>
    cases hforms
    exact Reads.pure record
  | @cons key value front bytes pairs hkey hmore ih =>
    obtain ⟨saying, sayings, hform, hlater, rfl⟩ := List.forall₂_cons_right_iff.1 hforms
    intro rest
    rw [List.append_assoc]
    rw [List.length_cons, List.foldl_cons]
    rcases hput _ _ hform with ⟨hfield, hskip, hsame⟩ | @⟨_, _, field, _, hfield, hfill⟩
    · rw [readEntries_of_unknown hkey hfield, hsame]
      refine hskip.bind (ih hlater fun other hother ↦ ?_) rest
      rw [← occurrences_cons_of_ne (field?_eq_none_iff.1 hfield other hother)]
      exact honce other hother
    · -- the field occurs here, so it has been empty up to now
      obtain ⟨hmem, rfl⟩ := name_eq_of_field?_eq_some hfield
      have hself := honce field hmem
      rw [occurrences_cons_self] at hself
      have hempty : ¬field.isFilled record = true := by
        intro hfilled
        rw [hfilled, Bool.toNat_true] at hself
        omega
      rw [readEntries_of_known hkey hfield, if_neg hempty]
      refine (hfill record).bind (ih hlater fun other hother ↦ ?_) rest
      have hread := hfill record []
      by_cases hname : Bytes.ofString field.name = Bytes.ofString other.name
      · obtain rfl := eq_of_name (h field hmem) (h other hother) hname
        rw [(h other hmem).isFilled_fill hread, Bool.toNat_true]
        omega
      · have hne : other ≠ field := fun heq ↦ hname (heq ▸ rfl)
        rw [(h field hmem).isFilled_other hread other hother hne, ← occurrences_cons_of_ne hname]
        exact honce other hother

/-- **A field holds what some entry says about it**, if at most one entry does. -/
theorem get_foldl_eq_some_iff {α : Type} {a : α} (get : σ → Option α) (said : ε → Option α)
    (hget : ∀ saying record, get (put saying record) = (said saying).or (get record))
    (hkey : ∀ saying pair, form saying pair → (said saying).isSome → pair.1 = key)
    (hforms : List.Forall₂ form sayings pairs)
    (honce : occurrences key pairs + (get record).isSome.toNat ≤ 1) :
    get (sayings.foldl (fun record saying ↦ put saying record) record) = some a ↔
      get record = some a ∨ ∃ saying ∈ sayings, said saying = some a := by
  induction hforms generalizing record with
  | nil => simp
  | @cons saying pair sayings pairs hform hforms ih =>
    obtain ⟨other, value⟩ := pair
    rw [List.foldl_cons]
    rcases hsaid : said saying with - | b
    · have hsame : get (put saying record) = get record := by rw [hget, hsaid, Option.none_or]
      have hle : occurrences key pairs ≤ occurrences key ((other, value) :: pairs) :=
        List.count_le_count_cons
      rw [ih (by rw [hsame]; omega), hsame]
      simp [hsaid]
    · obtain rfl : other = key := hkey _ _ hform (hsaid ▸ rfl)
      rw [occurrences_cons_self] at honce
      have hnew : get (put saying record) = some b := by rw [hget, hsaid, Option.some_or]
      have hnone : get record = none := by
        rcases hrecord : get record with - | c
        · rfl
        · rw [hrecord, Option.isSome_some, Bool.toNat_true] at honce
          omega
      rw [ih (by rw [hnew, Option.isSome_some, Bool.toNat_true]; omega), hnew, hnone]
      simp [hsaid]

theorem get_foldl_of_empty {α : Type} (get : σ → Option α) (said : ε → Option α)
    (hget : ∀ saying record, get (put saying record) = (said saying).or (get record))
    (hkey : ∀ saying pair, form saying pair → (said saying).isSome → pair.1 = key)
    (hforms : List.Forall₂ form sayings pairs) (honce : occurrences key pairs ≤ 1)
    (hempty : get record = none) (a : α) :
    get (sayings.foldl (fun record saying ↦ put saying record) record) = some a ↔
      ∃ saying ∈ sayings, said saying = some a := by
  rw [get_foldl_eq_some_iff get said hget hkey hforms (by rwa [hempty]), hempty]
  simp

end Sayings

/-! ### Whole records -/

theorem checkFilled_eq_ok_iff :
    checkFilled fields record bytes = .ok ((), left) ↔
      (∀ field ∈ fields, field.mayLack = false → field.isFilled record = true) ∧ bytes = left := by
  rcases hfind : fields.find? (fun field ↦ !field.mayLack && !field.isFilled record) with - | field
  · rw [checkFilled, hfind]
    have hnone := List.find?_eq_none.1 hfind
    refine ⟨?_, ?_⟩
    · rintro ⟨⟩
      refine ⟨fun field hfield hmust ↦ ?_, rfl⟩
      simpa [hmust] using hnone field hfield
    · rintro ⟨-, rfl⟩
      rfl
  · rw [checkFilled, hfind]
    refine ⟨nofun, fun h ↦ ?_⟩
    obtain ⟨hmust, hempty⟩ : field.mayLack = false ∧ field.isFilled record = false := by
      simpa using List.find?_some hfind
    rw [h.1 field (List.mem_of_find?_eq_some hfind) hmust] at hempty
    cases hempty

/-- **A record is read from a map** if its entries are read and leave nothing out. -/
theorem read_eq_ok_iff {head body : Bytes} (hhead : (Head.map entries).Form head) :
    read fields record (head ++ body) = .ok (filled, left) ↔
      readEntries fields (maxDepth - 1) entries record body = .ok (filled, left) ∧
        ∀ field ∈ fields, field.mayLack = false → field.isFilled filled = true := by
  rw [read, bind_of_eq (hhead.reads body)]
  refine bind_eq_ok_iff.trans ⟨?_, ?_⟩
  · rintro ⟨record', between, hread, hcheck⟩
    obtain ⟨_, between', hcheck, ⟨⟩⟩ := bind_eq_ok_iff.1 hcheck
    obtain ⟨hfilled, rfl⟩ := checkFilled_eq_ok_iff.1 hcheck
    exact ⟨hread, hfilled⟩
  · rintro ⟨hread, hfilled⟩
    have hcheck : checkFilled fields filled left = .ok ((), left) :=
      checkFilled_eq_ok_iff.2 ⟨hfilled, rfl⟩
    exact ⟨filled, left, hread, bind_eq_ok_iff.2 ⟨(), left, hcheck, rfl⟩⟩

/-- **What the entries say is what is read**, unless a field has been left out that may not lack. -/
theorem ofRead_eq_ok_iff {ε β : Type} {sayings : List ε} {put : ε → σ → σ}
    {form : ε → Bytes × Bytes → Prop} {ofRecord : σ → Except DecodeError β} {value : β}
    (h : ∀ field ∈ fields, IsApart fields field)
    (hput : ∀ saying pair, form saying pair → Says fields (maxDepth - 1) pair (put saying))
    (hmap : MapForm pairs bytes) (hforms : List.Forall₂ form sayings pairs)
    (honce : ∀ field ∈ fields, occurrences (Bytes.ofString field.name) pairs ≤ 1)
    (hempty : ∀ field ∈ fields, field.isFilled record = false)
    (hsaid : sayings.foldl (fun record saying ↦ put saying record) record = filled) :
    (read fields record (bytes ++ rest) >>= fun read ↦ ofRecord read.1) = .ok value ↔
      (∀ field ∈ fields, field.mayLack = false → field.isFilled filled = true) ∧
        ofRecord filled = .ok value := by
  obtain ⟨hhead, hbody⟩ := hmap
  have hreads := reads_readEntries h hput hbody hforms fun field hfield ↦ by
    rw [hempty field hfield]
    exact honce field hfield
  rw [hsaid] at hreads
  rw [List.append_assoc]
  refine ⟨fun hvalue ↦ ?_, ?_⟩
  · rcases hread : read fields record (_ ++ (_ ++ rest)) with error | ⟨draft, left⟩
    · rw [hread] at hvalue
      cases hvalue
    · rw [hread] at hvalue
      obtain ⟨hentries, hfilled⟩ := (read_eq_ok_iff hhead).1 hread
      obtain ⟨rfl, -⟩ := hreads.eq hentries
      exact ⟨hfilled, hvalue⟩
  · rintro ⟨hfilled, hvalue⟩
    rw [(read_eq_ok_iff hhead).2 ⟨hreads rest, hfilled⟩]
    exact hvalue

/-- **A record is refused** if a known key occurs twice, or if it does not occur and the field may
not lack. -/
theorem exists_error_of_occurrences {β : Type} {ofRecord : σ → Except DecodeError β}
    {field : RecordField σ} (h : ∀ field ∈ fields, IsApart fields field)
    (hmap : MapForm pairs bytes)
    (hvalues : ∀ pair ∈ pairs, ∃ depth, IsValue depth pair.2)
    (hempty : ∀ field ∈ fields, field.isFilled record = false) (hfield : field ∈ fields)
    (hwrong : 1 < occurrences (Bytes.ofString field.name) pairs ∨
      field.mayLack = false ∧ occurrences (Bytes.ofString field.name) pairs = 0) :
    ∃ error,
      (read fields record (bytes ++ rest) >>= fun read ↦ ofRecord read.1) = .error error := by
  rcases hread : read fields record (bytes ++ rest) with error | ⟨filled, left⟩
  · exact ⟨error, rfl⟩
  · obtain ⟨hhead, hbody⟩ := hmap
    rw [List.append_assoc, read_eq_ok_iff hhead] at hread
    have hcount := occurrences_add_toNat h hbody hvalues hread.1 field hfield
    rw [hempty field hfield, Bool.toNat_false, Nat.add_zero] at hcount
    exfalso
    rcases hwrong with htwice | ⟨hmust, hnone⟩
    · have hle := (field.isFilled filled).toNat_le
      omega
    · rw [hread.2 field hfield hmust, hnone] at hcount
      cases hcount

end Record

end FramedExchange.MessagePack
