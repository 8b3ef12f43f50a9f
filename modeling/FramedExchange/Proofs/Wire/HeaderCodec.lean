import FramedExchange.Header
import FramedExchange.Proofs.Wire.BigEndian

/-!
# Headers are read as they were written

`Header.decode` undoes `Header.encode` on the headers of this protocol (`decode_encode`) and refuses
every other header by its own magic number and version. In the other direction, ten bytes that
are read as a header are the bytes of that header (`encode_of_decode`), so no two strings of ten
bytes are the same header.

A header is written in two ways: `Header.encode` fills in ten bytes, and `Header.encodeInto` adds
one field after the other to a buffer. `Header.IsCodec` says how the two of them and the reading
agree. What it says of any ten bytes goes back to one fact: they are the bytes of some header
(`exists_encode_eq`).
-/

namespace FramedExchange.Header

/-- A header with the magic number and the version of this protocol. -/
structure IsOurs (h : Header) : Prop where
  magic : h.magic = protocolMagic
  version : h.version = protocolVersion

instance (h : Header) : Decidable h.IsOurs :=
  decidable_of_iff (h.magic = protocolMagic ∧ h.version = protocolVersion)
    ⟨fun ⟨hm, hv⟩ ↦ ⟨hm, hv⟩, fun ⟨hm, hv⟩ ↦ ⟨hm, hv⟩⟩

theorem isOurs_make (code length : UInt16) : (make code length).IsOurs := ⟨rfl, rfl⟩

/-- A reply to a header of this protocol is one too: only code and length change. -/
theorem IsOurs.reply {h : Header} (hours : h.IsOurs) (code length : UInt16) :
    (h.reply code length).IsOurs :=
  ⟨hours.magic, hours.version⟩

theorem encode_eq_append (h : Header) :
    h.encode = Bytes.ofNat 4 h.magic.toNat ++ (Bytes.ofNat 2 h.version.toNat ++
      (Bytes.ofNat 2 h.code.toNat ++ Bytes.ofNat 2 h.length.toNat)) := by
  -- each field is put behind the fields before it, where zeros are left for it
  rw [encode, ← List.nil_append (List.replicate size 0), Bytes.overwrite_append List.length_nil,
    Bytes.overwrite_append, Bytes.overwrite_append, Bytes.overwrite_append]
  · simp [size]
  all_goals simp

/-- Each field has its most significant byte first. -/
example : (make 0x0102 0x0304).encode =
    [0x56, 0x53, 0x4F, 0x4B, 0x00, 0x01, 0x01, 0x02, 0x03, 0x04] := by decide

/-- Field after field, a header is added to what a buffer holds as it is encoded. -/
@[simp]
theorem bytes_encodeInto (h : Header) (buffer : Buffer) :
    (h.encodeInto buffer).bytes = buffer.bytes ++ h.encode := by
  simp only [encodeInto, Buffer.bytes_append, encode_eq_append, List.append_assoc]

/-! ### Reading what was written -/

private theorem toNat_ofNat_two (n : UInt16) :
    UInt16.ofNat (Bytes.toNat (Bytes.ofNat 2 n.toNat)) = n := by
  rw [Bytes.toNat_ofNat_of_lt (by simpa using n.toNat_lt), UInt16.ofNat_toNat]

private theorem toNat_ofNat_four (n : UInt32) :
    UInt32.ofNat (Bytes.toNat (Bytes.ofNat 4 n.toNat)) = n := by
  rw [Bytes.toNat_ofNat_of_lt (by simpa using n.toNat_lt), UInt32.ofNat_toNat]

/-- **Reading the bytes of any header** gives the header if it is one of this protocol, and
otherwise the refusal that names its magic number and its version. -/
theorem decode_encode_eq (h : Header) :
    decode h.encode =
      if h.IsOurs then .ok h else .error (.malformedHeader h.magic h.version) := by
  -- each field is found behind the fields that are written before it
  have hmagic : h.encode.take 4 = Bytes.ofNat 4 h.magic.toNat := by
    rw [encode_eq_append, List.take_left' (Bytes.length_ofNat ..)]
  have hafter : h.encode.drop 4 = Bytes.ofNat 2 h.version.toNat ++
      (Bytes.ofNat 2 h.code.toNat ++ Bytes.ofNat 2 h.length.toNat) := by
    rw [encode_eq_append, List.drop_left' (Bytes.length_ofNat ..)]
  have hversion : (h.encode.drop 4).take 2 = Bytes.ofNat 2 h.version.toNat := by
    rw [hafter, List.take_left' (Bytes.length_ofNat ..)]
  have hcode : (h.encode.drop 6).take 2 = Bytes.ofNat 2 h.code.toNat := by
    rw [show h.encode.drop 6 = (h.encode.drop 4).drop 2 by simp, hafter,
      List.drop_left' (Bytes.length_ofNat ..), List.take_left' (Bytes.length_ofNat ..)]
  have hlength : (h.encode.drop 8).take 2 = Bytes.ofNat 2 h.length.toNat := by
    rw [show h.encode.drop 8 = ((h.encode.drop 4).drop 2).drop 2 by simp, hafter,
      List.drop_left' (Bytes.length_ofNat ..), List.drop_left' (Bytes.length_ofNat ..),
      List.take_of_length_le (Bytes.length_ofNat ..).le]
  rw [decode, hmagic, hversion, hcode, hlength, toNat_ofNat_four, toNat_ofNat_two,
    toNat_ofNat_two, toNat_ofNat_two]
  by_cases hours : h.IsOurs
  · rw [if_pos hours, if_pos ⟨hours.magic, hours.version⟩]
  · rw [if_neg hours, if_neg fun ⟨hm, hv⟩ ↦ hours ⟨hm, hv⟩]

theorem decode_encode {h : Header} (hours : h.IsOurs) : decode h.encode = .ok h := by
  rw [decode_encode_eq, if_pos hours]

/-- What is refused is refused for its magic number or its version, which leaves no way to go on. -/
theorem isBroken_of_decode {bytes : Bytes} {error : FrameError}
    (hdecode : decode bytes = .error error) :
    error.isBroken = true := by
  simp only [decode] at hdecode
  split at hdecode
  · cases hdecode
  · cases hdecode
    rfl

/-! ### Writing what was read -/

/-- What is read as a header has the magic number and the version of this protocol. -/
theorem isOurs_of_decode {bytes : Bytes} {h : Header} (hdecode : decode bytes = .ok h) :
    h.IsOurs := by
  simp only [decode] at hdecode
  split at hdecode
  · rename_i hours
    cases hdecode
    exact ⟨hours.1, hours.2⟩
  · cases hdecode

private theorem ofNat_two_toNat {field : Bytes} (hlength : field.length = 2) :
    Bytes.ofNat 2 (UInt16.ofNat field.toNat).toNat = field := by
  have hlt := field.toNat_lt
  rw [hlength] at hlt
  rw [UInt16.toNat_ofNat_of_lt' hlt, Bytes.ofNat_toNat_of_length hlength]

private theorem ofNat_four_toNat {field : Bytes} (hlength : field.length = 4) :
    Bytes.ofNat 4 (UInt32.ofNat field.toNat).toNat = field := by
  have hlt := field.toNat_lt
  rw [hlength] at hlt
  rw [UInt32.toNat_ofNat_of_lt' hlt, Bytes.ofNat_toNat_of_length hlength]

/-- **Any ten bytes are the bytes of a header**, of whatever protocol. -/
theorem exists_encode_eq {bytes : Bytes} (hlength : bytes.length = size) :
    ∃ h : Header, h.encode = bytes := by
  have hten : bytes.length = 10 := hlength
  refine ⟨⟨UInt32.ofNat (Bytes.toNat (bytes.take 4)),
    UInt16.ofNat (Bytes.toNat ((bytes.drop 4).take 2)),
    UInt16.ofNat (Bytes.toNat ((bytes.drop 6).take 2)),
    UInt16.ofNat (Bytes.toNat ((bytes.drop 8).take 2))⟩, ?_⟩
  rw [encode_eq_append, ofNat_four_toNat (by simp [hten]), ofNat_two_toNat (by simp [hten]),
    ofNat_two_toNat (by simp [hten]), ofNat_two_toNat (by simp [hten])]
  -- each field is cut off the front of what the fields before it have left
  have htail : (bytes.drop 8).take 2 = bytes.drop 8 :=
    List.take_of_length_le (by simp [hten])
  have hsix : (bytes.drop 6).take 2 ++ bytes.drop 8 = bytes.drop 6 := by
    rw [show bytes.drop 8 = (bytes.drop 6).drop 2 by simp, List.take_append_drop]
  have hfour : (bytes.drop 4).take 2 ++ bytes.drop 6 = bytes.drop 4 := by
    rw [show bytes.drop 6 = (bytes.drop 4).drop 2 by simp, List.take_append_drop]
  rw [htail, hsix, hfour, List.take_append_drop]

/-- **Ten bytes that are read as a header are the bytes of that header.** -/
theorem encode_of_decode {bytes : Bytes} {h : Header} (hlength : bytes.length = size)
    (hdecode : decode bytes = .ok h) : h.encode = bytes := by
  obtain ⟨found, rfl⟩ := exists_encode_eq hlength
  rw [decode_encode_eq] at hdecode
  split at hdecode
  · cases hdecode
    rfl
  · cases hdecode

/-! ### How writing and reading agree -/

/-- Bytes begin with a magic number and a version, both big endian. -/
def BeginsWith (magic : UInt32) (version : UInt16) (bytes : Bytes) : Prop :=
  Bytes.ofNat 4 magic.toNat ++ Bytes.ofNat 2 version.toNat <+: bytes

private theorem ofNat_two_injective {m n : UInt16}
    (h : Bytes.ofNat 2 m.toNat = Bytes.ofNat 2 n.toNat) : m = n := by
  rw [← toNat_ofNat_two m, h, toNat_ofNat_two]

private theorem ofNat_four_injective {m n : UInt32}
    (h : Bytes.ofNat 4 m.toNat = Bytes.ofNat 4 n.toNat) : m = n := by
  rw [← toNat_ofNat_four m, h, toNat_ofNat_four]

/-- What the bytes of a header begin with are its own magic number and version. -/
theorem beginsWith_encode_iff {magic : UInt32} {version : UInt16} {h : Header} :
    BeginsWith magic version h.encode ↔ h.magic = magic ∧ h.version = version := by
  constructor
  · rintro ⟨rest, hrest⟩
    rw [encode_eq_append, List.append_assoc] at hrest
    obtain ⟨hfirst, hbehind⟩ := List.append_inj hrest (by simp)
    obtain ⟨hsecond, -⟩ := List.append_inj hbehind (by simp)
    exact ⟨(ofNat_four_injective hfirst).symm, (ofNat_two_injective hsecond).symm⟩
  · rintro ⟨rfl, rfl⟩
    rw [encode_eq_append, ← List.append_assoc]
    exact List.prefix_append ..

/-- Ten bytes are read as a header if they begin with the magic number and the version of this
protocol, and only then. -/
theorem exists_decode_eq_ok_iff {bytes : Bytes} (hlength : bytes.length = size) :
    (∃ h, decode bytes = .ok h) ↔ BeginsWith protocolMagic protocolVersion bytes := by
  obtain ⟨found, rfl⟩ := exists_encode_eq hlength
  rw [decode_encode_eq, beginsWith_encode_iff]
  by_cases hours : found.IsOurs
  · rw [if_pos hours]
    exact ⟨fun _ ↦ ⟨hours.magic, hours.version⟩, fun _ ↦ ⟨found, rfl⟩⟩
  · rw [if_neg hours]
    exact ⟨nofun, fun ⟨hmagic, hversion⟩ ↦ (hours ⟨hmagic, hversion⟩).elim⟩

/-- Ten bytes that are refused are reported by the magic number and the version that they begin
with. -/
theorem exists_beginsWith_of_decode {bytes : Bytes} {error : FrameError}
    (hlength : bytes.length = size) (hdecode : decode bytes = .error error) :
    ∃ magic version, error = .malformedHeader magic version ∧ BeginsWith magic version bytes := by
  obtain ⟨found, rfl⟩ := exists_encode_eq hlength
  rw [decode_encode_eq] at hdecode
  split at hdecode
  · cases hdecode
  · cases hdecode
    exact ⟨found.magic, found.version, rfl, beginsWith_encode_iff.2 ⟨rfl, rfl⟩⟩

/-- Two ways of writing headers, as bytes and into a buffer, and a way of reading them that lose
nothing and agree with each other. -/
structure IsCodec (encode : Header → Bytes) (encodeInto : Header → Buffer → Buffer)
    (decode : Bytes → Except FrameError Header) : Prop where
  length_encode : ∀ h, (encode h).length = size
  /-- What begins with the magic number and the version of this protocol is read as a header, and
  nothing else is. -/
  exists_decode_iff : ∀ bytes : Vector UInt8 size,
    (∃ h, decode bytes.toList = .ok h) ↔ BeginsWith protocolMagic protocolVersion bytes.toList
  /-- What is read as a header is what the header is written as. -/
  encode_of_decode : ∀ (bytes : Vector UInt8 size) (h : Header),
    decode bytes.toList = .ok h → encode h = bytes.toList
  /-- What is refused is reported by the magic number and the version that it begins with. -/
  beginsWith_of_decode : ∀ (bytes : Vector UInt8 size) (error : FrameError),
    decode bytes.toList = .error error → ∃ magic version,
      error = .malformedHeader magic version ∧ BeginsWith magic version bytes.toList
  /-- A header of this protocol is read back, and any other is refused by its own magic number and
  version. -/
  decode_encode : ∀ h, decode (encode h) =
    if h.magic = protocolMagic ∧ h.version = protocolVersion then .ok h
    else .error (.malformedHeader h.magic h.version)
  /-- What a buffer holds stays as it is, and exactly the bytes of the header come behind it. -/
  bytes_encodeInto : ∀ h buffer, (encodeInto h buffer).bytes = buffer.bytes ++ encode h

/-- **Headers are written and read without loss**, and written in both ways alike. -/
theorem isCodec_encode : IsCodec encode encodeInto decode where
  length_encode := length_encode
  exists_decode_iff bytes := exists_decode_eq_ok_iff bytes.length_toList
  encode_of_decode bytes _ hdecode := encode_of_decode bytes.length_toList hdecode
  beginsWith_of_decode bytes _ hdecode := exists_beginsWith_of_decode bytes.length_toList hdecode
  decode_encode h := by
    rw [decode_encode_eq]
    exact if_congr ⟨fun hours ↦ ⟨hours.magic, hours.version⟩, fun ⟨hm, hv⟩ ↦ ⟨hm, hv⟩⟩ rfl rfl
  bytes_encodeInto := bytes_encodeInto

end FramedExchange.Header
