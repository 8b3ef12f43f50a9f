import FramedExchange.Frame
import FramedExchange.Proofs.Wire.HeaderCodec

/-!
# A byte string falls into frames in one way

A frame is valid when its header is one of this protocol and says how long the body is.
`Frame.first?` finds a frame exactly where the bytes begin with a valid one (`first?_eq_some_iff`),
so that `Frame.split` is the cut of a byte string into valid frames and a rest that begins with
none:

* `isCut_split`: it is such a cut;
* `IsCut.split_eq`: there is no other.

The cut of bytes that begin with valid frames is those frames and then the cut of what follows
(`split_flatMap_append`). That is all that a reader of pipelined requests has to know about bytes
that have not arrived yet. Valid frames that break off somewhere are cut into the first of them, and
their rest is wrong only in being too short (`exists_isCut_cutShort`).
-/

namespace FramedExchange.Frame

/-- The header is one of this protocol and gives the length of the body. -/
structure IsValid (frame : Frame) : Prop where
  isOurs : frame.header.IsOurs
  length : frame.header.length.toNat = frame.body.length

/-- The frame that carries a body under a header, whose length is set from the body. -/
def ofBody (header : Header) (body : Bytes) : Frame :=
  ⟨{ header with length := UInt16.ofNat body.length }, body⟩

theorem isValid_ofBody {header : Header} {body : Bytes} (hours : header.IsOurs)
    (hfits : body.length ≤ maxBody) : (ofBody header body).IsValid where
  isOurs := ⟨hours.magic, hours.version⟩
  length := UInt16.toNat_ofNat_of_lt' (Nat.lt_succ_of_le hfits)

/-- The bytes of a frame are a header and the body. -/
theorem length_encode (frame : Frame) : frame.encode.length = Header.size + frame.body.length := by
  simp [encode]

theorem encode_ne_nil (frame : Frame) : frame.encode ≠ [] := by
  intro h
  have hlength := frame.length_encode
  rw [h, List.length_nil, Header.size] at hlength
  omega

/-! ### The first frame -/

theorem first?_encode_append {frame : Frame} (hvalid : frame.IsValid) (rest : Bytes) :
    first? (frame.encode ++ rest) = some (frame, rest) := by
  have hlength : (frame.encode ++ rest).length =
      Header.size + frame.body.length + rest.length := by
    simp [length_encode]
  have hhead : (frame.encode ++ rest).take Header.size = frame.header.encode := by
    rw [encode, List.append_assoc, List.take_left' frame.header.length_encode]
  have hbody : (frame.encode ++ rest).drop Header.size = frame.body ++ rest := by
    rw [encode, List.append_assoc, List.drop_left' frame.header.length_encode]
  have hrest : (frame.encode ++ rest).drop (Header.size + frame.body.length) = rest :=
    List.drop_left' frame.length_encode
  unfold first?
  rw [if_neg (by omega), hhead, Header.decode_encode hvalid.isOurs]
  show (if (frame.encode ++ rest).length - Header.size < frame.header.length.toNat then none
    else some (_, _)) = _
  rw [hvalid.length, if_neg (by omega), hbody, hrest, List.take_left]

/-- What is found is a valid frame, and the bytes are those of the frame and then the rest. -/
theorem eq_append_of_first? {bytes rest : Bytes} {frame : Frame}
    (h : first? bytes = some (frame, rest)) : frame.IsValid ∧ bytes = frame.encode ++ rest := by
  unfold first? at h
  split at h
  · cases h
  · rename_i hlong
    split at h
    · cases h
    · rename_i header hdecode
      split at h
      · cases h
      · rename_i hfull
        cases h
        -- header, body and rest are cut off one after another
        have hsize : (bytes.take Header.size).length = Header.size := by
          rw [List.length_take]
          omega
        refine ⟨⟨Header.isOurs_of_decode hdecode, ?_⟩, ?_⟩
        · simp only [List.length_take, List.length_drop]
          omega
        · rw [encode, Header.encode_of_decode hsize hdecode, List.append_assoc, ← List.drop_drop,
            List.take_append_drop, List.take_append_drop]

/-- **A frame is found exactly where the bytes begin with a valid one.** -/
theorem first?_eq_some_iff {bytes rest : Bytes} {frame : Frame} :
    first? bytes = some (frame, rest) ↔ frame.IsValid ∧ bytes = frame.encode ++ rest := by
  constructor
  · exact eq_append_of_first?
  · rintro ⟨hvalid, rfl⟩
    exact first?_encode_append hvalid rest

theorem first?_eq_none_iff {bytes : Bytes} :
    first? bytes = none ↔ ∀ (frame : Frame) (rest : Bytes), frame.IsValid →
      bytes ≠ frame.encode ++ rest := by
  constructor
  · rintro h frame rest hvalid rfl
    rw [first?_encode_append hvalid] at h
    cases h
  · intro h
    rcases hfirst : first? bytes with - | ⟨frame, rest⟩
    · rfl
    · obtain ⟨hvalid, heq⟩ := eq_append_of_first? hfirst
      exact absurd heq (h frame rest hvalid)

/-- What is wrong with bytes that begin with no frame, if no others follow them. -/
def defect (bytes : Bytes) : FrameError :=
  if bytes.length < Header.size then .closed
  else match Header.decode (bytes.take Header.size) with
    | .error error => error
    | .ok _ => .closed

theorem isBroken_defect (bytes : Bytes) : (defect bytes).isBroken = true := by
  unfold defect
  split
  · rfl
  · split
    · rename_i hdecode
      exact Header.isBroken_of_decode hdecode
    · rfl

/-- Bytes that are no whole frame and may still become one: a header is not there, or it is one of
this protocol and announces more than there is. -/
def IsIncomplete (bytes : Bytes) : Prop :=
  ∀ (header : Header) (rest : Bytes), bytes = header.encode ++ rest →
    header.IsOurs ∧ rest.length < header.length.toNat

/-- Behind a header that announces no more than there is stands its body. -/
theorem encode_append_eq (header : Header) (rest : Bytes) : header.encode ++ rest =
    encode ⟨header, rest.take header.length.toNat⟩ ++ rest.drop header.length.toNat := by
  rw [encode, List.append_assoc, List.take_append_drop]

theorem isValid_take {header : Header} {rest : Bytes} (hours : header.IsOurs)
    (hlong : header.length.toNat ≤ rest.length) :
    IsValid ⟨header, rest.take header.length.toNat⟩ :=
  ⟨hours, (List.length_take_of_le hlong).symm⟩

/-- Bytes that begin with no frame and are wrong only in being too short. -/
theorem isIncomplete_of_first?_eq_none {bytes : Bytes} (hfirst : first? bytes = none)
    (hdefect : defect bytes = .closed) : IsIncomplete bytes := by
  rintro header rest rfl
  have hsize : ¬(header.encode ++ rest).length < Header.size := by
    rw [List.length_append, header.length_encode]
    exact Nat.not_lt.2 (Nat.le_add_right ..)
  rw [defect, if_neg hsize, List.take_left' header.length_encode,
    Header.decode_encode_eq] at hdefect
  by_cases hours : header.IsOurs
  · refine ⟨hours, Nat.lt_of_not_le fun hlong ↦ ?_⟩
    rw [encode_append_eq, first?_encode_append (isValid_take hours hlong)] at hfirst
    cases hfirst
  · rw [if_neg hours] at hdefect
    cases hdefect

/-! ### The cut into frames -/

theorem split_of_first?_eq_none {bytes : Bytes} (h : first? bytes = none) :
    split bytes = ([], bytes) := by
  rw [split]
  split
  · rfl
  · rename_i hfound
    rw [h] at hfound
    cases hfound

theorem split_of_first?_eq_some {bytes rest : Bytes} {frame : Frame}
    (h : first? bytes = some (frame, rest)) :
    split bytes = (frame :: (split rest).1, (split rest).2) := by
  rw [split]
  split
  · rename_i hfound
    rw [h] at hfound
    cases hfound
  · rename_i hfound
    rw [h] at hfound
    cases hfound
    rfl

/-- What holds of bytes that begin with no frame, and passes from a rest to the bytes with one more
valid frame in front, holds of all bytes. -/
@[elab_as_elim]
theorem cutInduction {motive : Bytes → Prop} (bytes : Bytes)
    (none : ∀ bytes, first? bytes = .none → motive bytes)
    (some : ∀ (frame : Frame) (rest : Bytes), frame.IsValid → motive rest →
      motive (frame.encode ++ rest)) : motive bytes := by
  induction bytes using split.induct with
  | case1 bytes hnone => exact none bytes hnone
  | case2 bytes frame rest hfirst frames left heq ih =>
    obtain ⟨hvalid, rfl⟩ := eq_append_of_first? hfirst
    exact some frame rest hvalid ih

/-- Bytes that begin with valid frames are cut into those and the cut of what follows. -/
theorem split_flatMap_append {frames : List Frame} (hvalid : ∀ frame ∈ frames, frame.IsValid)
    (rest : Bytes) :
    split (frames.flatMap encode ++ rest) = (frames ++ (split rest).1, (split rest).2) := by
  induction frames with
  | nil => rfl
  | cons frame frames ih =>
    have hfirst := first?_encode_append (hvalid frame List.mem_cons_self)
      (frames.flatMap encode ++ rest)
    rw [List.flatMap_cons, List.append_assoc, split_of_first?_eq_some hfirst,
      ih fun other hmem ↦ hvalid other (List.mem_cons_of_mem _ hmem)]
    rfl

/-- A byte string is cut into valid frames and a rest that begins with none. -/
structure IsCut (bytes : Bytes) (frames : List Frame) (rest : Bytes) : Prop where
  joined : bytes = frames.flatMap encode ++ rest
  valid : ∀ frame ∈ frames, frame.IsValid
  /-- No further frame could be cut off the front of the rest. -/
  maximal : ∀ (frame : Frame) (more : Bytes), frame.IsValid → rest ≠ frame.encode ++ more

/-- **`split` is a cut.** -/
theorem isCut_split (bytes : Bytes) : IsCut bytes (split bytes).1 (split bytes).2 := by
  induction bytes using cutInduction with
  | none bytes hnone =>
    rw [split_of_first?_eq_none hnone]
    exact ⟨rfl, by simp, first?_eq_none_iff.1 hnone⟩
  | some frame rest hvalid ih =>
    rw [split_of_first?_eq_some (first?_encode_append hvalid rest)]
    refine ⟨?_, ?_, ih.maximal⟩
    · rw [List.flatMap_cons, List.append_assoc, ← ih.joined]
    · intro other hmem
      rcases List.mem_cons.1 hmem with rfl | hmem
      · exact hvalid
      · exact ih.valid other hmem

/-- **And there is no other cut.** -/
theorem IsCut.split_eq {bytes rest : Bytes} {frames : List Frame} (hcut : IsCut bytes frames rest) :
    split bytes = (frames, rest) := by
  rw [hcut.joined, split_flatMap_append hcut.valid,
    split_of_first?_eq_none (first?_eq_none_iff.2 hcut.maximal), List.append_nil]

/-- Valid frames and nothing behind them are cut into those frames. -/
theorem isCut_flatMap {frames : List Frame} (hvalid : ∀ frame ∈ frames, frame.IsValid) :
    IsCut (frames.flatMap encode) frames [] :=
  ⟨(List.append_nil _).symm, hvalid, first?_eq_none_iff.1 rfl⟩

/-! ### Frames that break off -/

/-- A frame that breaks off is no frame of another kind: its header, as far as it goes, is good. -/
theorem defect_cutShort {frame : Frame} (hvalid : frame.IsValid) {front : Bytes}
    (h : front <+: frame.encode) : defect front = .closed := by
  obtain ⟨lost, hlost⟩ := h
  unfold defect
  rcases Nat.lt_or_ge front.length Header.size with hshort | hlong
  · rw [if_pos hshort]
  · have hhead : front.take Header.size = frame.header.encode := by
      rw [← List.take_append_of_le_length hlong, hlost, encode,
        List.take_left' frame.header.length_encode]
    rw [if_neg (Nat.not_lt.2 hlong), hhead, Header.decode_encode hvalid.isOurs]

/-- A frame that breaks off before its last byte is no whole one. -/
theorem first?_cutShort {frame : Frame} (hvalid : frame.IsValid) {front : Bytes}
    (h : front <+: frame.encode) (hlt : front.length < frame.encode.length) :
    first? front = none := by
  obtain ⟨lost, hlost⟩ := h
  refine first?_eq_none_iff.2 fun other more hother heq ↦ ?_
  have hwhole : frame.encode ++ [] = other.encode ++ (more ++ lost) := by
    rw [List.append_nil, ← hlost, heq, List.append_assoc]
  have hsame := first?_encode_append hvalid []
  rw [hwhole, first?_encode_append hother] at hsame
  obtain ⟨rfl, -⟩ := Prod.mk.inj (Option.some.inj hsame)
  rw [heq, List.length_append] at hlt
  omega

/-- **Bytes that break off somewhere among frames** are the first of those frames, and then bytes
that are wrong only in that more should follow. -/
theorem exists_isCut_cutShort {frames : List Frame} (hvalid : ∀ frame ∈ frames, frame.IsValid)
    {front : Bytes} (h : front <+: frames.flatMap encode) :
    ∃ whole rest, whole <+: frames ∧ IsCut front whole rest ∧ defect rest = .closed := by
  induction frames generalizing front with
  | nil =>
    obtain rfl : front = [] := List.prefix_nil.1 h
    exact ⟨[], [], List.prefix_refl _, isCut_flatMap hvalid, rfl⟩
  | cons frame frames ih =>
    have hframe := hvalid frame List.mem_cons_self
    rw [List.flatMap_cons] at h
    rcases Nat.lt_or_ge front.length frame.encode.length with hlt | hge
    · have hfront : front <+: frame.encode :=
        List.prefix_of_prefix_length_le h (List.prefix_append _ _) hlt.le
      exact ⟨[], front, List.nil_prefix, ⟨rfl, nofun,
        first?_eq_none_iff.1 (first?_cutShort hframe hfront hlt)⟩, defect_cutShort hframe hfront⟩
    · obtain ⟨more, rfl⟩ := List.prefix_of_prefix_length_le (List.prefix_append _ _) h hge
      obtain ⟨whole, rest, hwhole, hcut, hdefect⟩ :=
        ih (fun other hmem ↦ hvalid other (List.mem_cons_of_mem _ hmem))
          ((List.prefix_append_right_inj _).1 h)
      refine ⟨frame :: whole, rest, List.prefix_cons_inj frame |>.2 hwhole,
        ⟨?_, ?_, hcut.maximal⟩, hdefect⟩
      · rw [List.flatMap_cons, List.append_assoc, ← hcut.joined]
      · intro other hmem
        rcases List.mem_cons.1 hmem with rfl | hmem
        · exact hframe
        · exact hcut.valid other hmem

/-- The frames of a cut are all the frames that fit into the bytes from the front on. -/
theorem IsCut.prefix_of_prefix {bytes rest : Bytes} {frames others : List Frame}
    (hcut : IsCut bytes frames rest) (hvalid : ∀ frame ∈ others, frame.IsValid)
    (h : others.flatMap encode <+: bytes) : others <+: frames := by
  obtain ⟨more, rfl⟩ := h
  have hsplit := hcut.split_eq
  rw [split_flatMap_append hvalid] at hsplit
  exact ⟨_, (Prod.mk.inj hsplit).1⟩

/-- Every frame of a cut has a header's worth of bytes at least. -/
theorem size_mul_length_split_le (bytes : Bytes) :
    Header.size * (split bytes).1.length ≤ bytes.length := by
  induction bytes using cutInduction with
  | none bytes hnone => simp [split_of_first?_eq_none hnone]
  | some frame rest hvalid ih =>
    rw [split_of_first?_eq_some (first?_encode_append hvalid rest), List.length_cons,
      List.length_append, length_encode, Nat.mul_succ]
    omega

end FramedExchange.Frame
