import FramedExchange.Proofs.Wire.FrameCut

/-!
# What has been received shows what becomes of a frame

By each moment a stream has brought some bytes, and perhaps what ends the reading behind them. That
decides about a frame: it is there once its last byte is, a bad header shows once the header is
there, and an error or the end of the stream shows once it comes in front of either
(`Received.Shows`, `Received.frame?_eq_some_iff`). What has been decided stays decided, since more
bytes only come behind (`Received.Grows`).
-/

namespace FramedExchange

/-- What a stream has brought. -/
structure Received where
  bytes : Bytes
  /-- What ends the reading behind the bytes, if that has come too. -/
  stop? : Option IoError

namespace Received

variable {received later : Received} {n : ℕ}

/-- Nothing. -/
def empty : Received := ⟨[], none⟩

/-- What has been received behind bytes that were there before. -/
def behind (front : Bytes) (received : Received) : Received :=
  ⟨front ++ received.bytes, received.stop?⟩

/-- What is left without the first `n` bytes. -/
def drop (n : ℕ) (received : Received) : Received := ⟨received.bytes.drop n, received.stop?⟩

theorem behind_append (front more : Bytes) (received : Received) :
    received.behind (front ++ more) = (received.behind more).behind front := by
  rw [behind, List.append_assoc]
  rfl

theorem drop_behind (front : Bytes) (received : Received) :
    (received.behind front).drop front.length = received := by
  rw [drop, behind, List.drop_left]

/-- More may come behind what has been received, but nothing behind what ends the reading. -/
structure Grows (received later : Received) : Prop where
  bytes : received.bytes <+: later.bytes
  stop : ∀ error, received.stop? = some error → later = received

theorem Grows.refl (received : Received) : received.Grows received :=
  ⟨List.prefix_refl _, fun _ _ ↦ rfl⟩

theorem grows_empty (later : Received) : empty.Grows later := ⟨List.nil_prefix, nofun⟩

theorem Grows.behind (h : received.Grows later) (front : Bytes) :
    (received.behind front).Grows (later.behind front) :=
  ⟨(List.prefix_append_right_inj front).2 h.bytes, fun error herror ↦ by rw [h.stop error herror]⟩

theorem Grows.drop (h : received.Grows later) (n : ℕ) : (received.drop n).Grows (later.drop n) := by
  obtain ⟨rest, hrest⟩ := h.bytes
  refine ⟨?_, fun error herror ↦ by rw [h.stop error herror]⟩
  show received.bytes.drop n <+: later.bytes.drop n
  rw [← hrest, List.drop_append]
  exact List.prefix_append _ _

/-! ### What is decided -/

/-- What is decided about taking `n` bytes. -/
def take? (n : ℕ) (received : Received) : Option (Except IoError Bytes) :=
  if n ≤ received.bytes.length then some (.ok (received.bytes.take n))
  else received.stop?.map .error

/-- What is decided about a frame with the bytes of its header, and what has been received behind
them. -/
def frameOf? (raw : Bytes) (received : Received) : Option (Except FrameError Frame) :=
  match Header.decode raw with
  | .error error => some (.error error)
  | .ok header => (received.take? header.length.toNat).map fun result ↦
      (result.map (Frame.mk header)).mapError FrameError.ofIo

/-- What is decided about a frame. -/
def frame? (received : Received) : Option (Except FrameError Frame) :=
  match received.take? Header.size with
  | none => none
  | some (.error error) => some (.error (.ofIo error))
  | some (.ok raw) => (received.drop Header.size).frameOf? raw

theorem take?_behind {front : Bytes} (received : Received) (hle : n ≤ front.length) :
    (received.behind front).take? n = some (.ok (front.take n)) := by
  rw [take?, behind, if_pos, List.take_append_of_le_length hle]
  rw [List.length_append]
  exact Nat.le_add_right_of_le hle

/-- **What has been decided about taking bytes stays decided.** -/
theorem Grows.take? (h : received.Grows later) {result : Except IoError Bytes}
    (htake : received.take? n = some result) : later.take? n = some result := by
  rw [Received.take?] at htake
  split at htake
  · rename_i hle
    obtain ⟨rest, hrest⟩ := h.bytes
    rw [Received.take?, if_pos (hle.trans h.bytes.length_le), ← hrest,
      List.take_append_of_le_length hle, htake]
  · rename_i hfew
    obtain ⟨error, herror, rfl⟩ := Option.map_eq_some_iff.1 htake
    rw [h.stop error herror, Received.take?, if_neg hfew, herror, Option.map_some]

theorem Grows.frameOf? (h : received.Grows later) {raw : Bytes} {result : Except FrameError Frame}
    (hframe : received.frameOf? raw = some result) : later.frameOf? raw = some result := by
  rw [Received.frameOf?] at hframe ⊢
  split at hframe
  · exact hframe
  · obtain ⟨body, hbody, rfl⟩ := Option.map_eq_some_iff.1 hframe
    exact congrArg (Option.map _) (h.take? hbody)

/-- **What has been decided about a frame stays decided.** -/
theorem Grows.frame? (h : received.Grows later) {result : Except FrameError Frame}
    (hframe : received.frame? = some result) : later.frame? = some result := by
  rw [Received.frame?] at hframe ⊢
  rcases htake : received.take? Header.size with - | error | raw
  · rw [htake] at hframe
    cases hframe
  · rw [htake] at hframe
    rw [h.take? htake]
    exact hframe
  · rw [htake] at hframe
    rw [h.take? htake]
    exact (h.drop Header.size).frameOf? hframe

/-! ### What shows -/

variable {header : Header} {rest : Bytes}

/-- What has been received shows what becomes of a frame. -/
inductive Shows (received : Received) : Except FrameError Frame → Prop
  /-- The frame is there. -/
  | frame {frame : Frame} {rest : Bytes} (hvalid : frame.IsValid)
      (hbytes : received.bytes = frame.encode ++ rest) : Shows received (.ok frame)
  /-- The header is another protocol's, whatever length it gives and whatever follows it. -/
  | malformed {header : Header} {rest : Bytes} (hforeign : ¬header.IsOurs)
      (hbytes : received.bytes = header.encode ++ rest) :
      Shows received (.error (.malformedHeader header.magic header.version))
  /-- The stream has ended inside the frame. -/
  | closed {error : IoError} (hstop : received.stop? = some error)
      (hkind : error.kind = .unexpectedEof) (hincomplete : Frame.IsIncomplete received.bytes) :
      Shows received (.error .closed)
  /-- The stream has failed inside the frame. -/
  | failed {error : IoError} (hstop : received.stop? = some error)
      (hkind : error.kind ≠ .unexpectedEof) (hincomplete : Frame.IsIncomplete received.bytes) :
      Shows received (.error (.io error))

theorem frame?_encode_append (hbytes : received.bytes = header.encode ++ rest) :
    received.frame? = frameOf? header.encode ⟨rest, received.stop?⟩ := by
  obtain ⟨bytes, stop?⟩ := received
  obtain rfl : bytes = header.encode ++ rest := hbytes
  show (behind header.encode ⟨rest, stop?⟩).frame? = _
  rw [frame?, take?_behind _ header.length_encode.ge,
    List.take_of_length_le header.length_encode.le, ← header.length_encode]
  exact congrArg (frameOf? header.encode) (drop_behind header.encode _)

theorem frame?_of_foreign (hforeign : ¬header.IsOurs)
    (hbytes : received.bytes = header.encode ++ rest) :
    received.frame? = some (.error (.malformedHeader header.magic header.version)) := by
  rw [frame?_encode_append hbytes, frameOf?, Header.decode_encode_eq, if_neg hforeign]

theorem frame?_of_isOurs (hours : header.IsOurs) (hlong : header.length.toNat ≤ rest.length)
    (hbytes : received.bytes = header.encode ++ rest) :
    received.frame? = some (.ok ⟨header, rest.take header.length.toNat⟩) := by
  rw [frame?_encode_append hbytes, frameOf?, Header.decode_encode hours]
  simp only [take?, if_pos hlong]
  rfl

/-- **Inside a frame only the end of the stream decides.** -/
theorem frame?_of_incomplete (hincomplete : Frame.IsIncomplete received.bytes) :
    received.frame? = received.stop?.map fun error ↦ .error (.ofIo error) := by
  by_cases hfew : received.bytes.length < Header.size
  · rw [frame?, take?, if_neg (Nat.not_le.2 hfew)]
    cases received.stop? <;> rfl
  · have hsize := List.length_take_of_le (Nat.le_of_not_lt hfew)
    obtain ⟨header, hheader⟩ := Header.exists_encode_eq hsize
    have hbytes : received.bytes = header.encode ++ received.bytes.drop Header.size := by
      rw [hheader, List.take_append_drop]
    obtain ⟨hours, hfew⟩ := hincomplete _ _ hbytes
    rw [frame?_encode_append hbytes, frameOf?, Header.decode_encode hours]
    simp only [take?, if_neg (Nat.not_le.2 hfew)]
    cases received.stop? <;> rfl

/-- **What shows is what is decided about the frame.** -/
theorem frame?_eq_some_iff {result : Except FrameError Frame} :
    received.frame? = some result ↔ received.Shows result := by
  constructor
  · intro h
    by_cases hincomplete : Frame.IsIncomplete received.bytes
    · rw [frame?_of_incomplete hincomplete] at h
      obtain ⟨error, hstop, rfl⟩ := Option.map_eq_some_iff.1 h
      rw [FrameError.ofIo]
      split
      · rename_i hkind
        exact .closed hstop hkind hincomplete
      · rename_i hkind
        exact .failed hstop hkind hincomplete
    · -- a header is there, and it is another protocol's or the body is there too
      simp only [Frame.IsIncomplete, not_forall] at hincomplete
      obtain ⟨header, rest, hbytes, hwhole⟩ := hincomplete
      by_cases hours : header.IsOurs
      · have hlong : header.length.toNat ≤ rest.length :=
          Nat.le_of_not_lt fun hfew ↦ hwhole ⟨hours, hfew⟩
        rw [frame?_of_isOurs hours hlong hbytes] at h
        cases h
        exact .frame (Frame.isValid_take hours hlong) (hbytes.trans (Frame.encode_append_eq ..))
      · rw [frame?_of_foreign hours hbytes] at h
        cases h
        exact .malformed hours hbytes
  · rintro (@⟨frame, rest, hvalid, hbytes⟩ | ⟨hforeign, hbytes⟩ | ⟨hstop, hkind, hincomplete⟩ |
      ⟨hstop, hkind, hincomplete⟩)
    · rw [Frame.encode, List.append_assoc] at hbytes
      have hlong : frame.header.length.toNat ≤ (frame.body ++ rest).length := by
        rw [hvalid.length, List.length_append]
        exact Nat.le_add_right ..
      rw [frame?_of_isOurs hvalid.isOurs hlong hbytes, hvalid.length, List.take_left]
    · exact frame?_of_foreign hforeign hbytes
    · rw [frame?_of_incomplete hincomplete, hstop, Option.map_some, FrameError.ofIo, if_pos hkind]
    · rw [frame?_of_incomplete hincomplete, hstop, Option.map_some, FrameError.ofIo, if_neg hkind]

/-- **A frame is there as soon as its last byte is.** -/
theorem frame?_eq_ok_iff {frame : Frame} : received.frame? = some (.ok frame) ↔
    ∃ rest, Frame.first? received.bytes = some (frame, rest) := by
  rw [frame?_eq_some_iff]
  constructor
  · rintro ⟨hvalid, hbytes⟩
    exact ⟨_, Frame.first?_eq_some_iff.2 ⟨hvalid, hbytes⟩⟩
  · rintro ⟨rest, hfirst⟩
    obtain ⟨hvalid, hbytes⟩ := Frame.first?_eq_some_iff.1 hfirst
    exact .frame hvalid hbytes

/-- An error that is decided about a frame is one of the stream, or the header is bad. -/
theorem frame?_eq_error {error : FrameError} (h : received.frame? = some (.error error)) :
    (∃ failure, error = .ofIo failure) ∨
      ∃ magic version, error = .malformedHeader magic version := by
  rcases frame?_eq_some_iff.1 h with - | - | @⟨failure, -, hkind, -⟩ | @⟨failure, -, hkind, -⟩
  · exact .inr ⟨_, _, rfl⟩
  · exact .inl ⟨failure, (if_pos hkind).symm⟩
  · exact .inl ⟨failure, (if_neg hkind).symm⟩

/-- **Nothing is decided about a frame** as long as it is not whole, its header is not bad, and
nothing has ended the reading. -/
theorem frame?_eq_none (hstop : received.stop? = none)
    (hfirst : Frame.first? received.bytes = none)
    (hdefect : Frame.defect received.bytes = .closed) : received.frame? = none := by
  rw [frame?_of_incomplete (Frame.isIncomplete_of_first?_eq_none hfirst hdefect), hstop]
  rfl

end Received

end FramedExchange
