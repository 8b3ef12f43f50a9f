import FramedExchange.Proofs.Stream.Lossless

/-!
# What was written frame by frame is read frame by frame

One writer writes a list of messages, and one reader reads the bytes that have gone out. The sink
may take them in any pieces and the source may bring them in any others, so the two ends agree on
the bytes alone (`exists_writeFrames_eq_ok`, `exists_readFrames_eq_ok`). If the stream ends early,
the reader finds the frames that have come in whole, and then that the stream is closed
(`exists_readFrames_eq_error`).
-/

namespace FramedExchange

/-! ### Writing a list of messages -/

namespace Writer

/-- Write the bodies of messages under their headers, one after another and until one cannot be
written. -/
def writeFrames (limits : Limits) :
    List Frame → Time → Writer → Settled (Except FrameError Unit) × Writer
  | [], now, w => (⟨some (.ok ()), now⟩, w)
  | message :: messages, now, w =>
    match w.writeFrame limits message.header message.body now with
    | (⟨some (.ok ()), time⟩, w) => writeFrames limits messages time w
    | failed => failed

/-- **Messages that fit are written**, each as a frame that says the length of its body. -/
theorem exists_writeFrames_eq_ok {messages : List Frame}
    (hfits : ∀ message ∈ messages, message.body.length ≤ Frame.maxBody) {w : Writer}
    (h : w.sink.IsWilling) (now : Time) :
    ∃ time w', w.writeFrames Limits.none messages now = (⟨some (.ok ()), time⟩, w') ∧
      w'.sink.taken = w.sink.taken ++
        (messages.map fun message ↦ Frame.ofBody message.header message.body).flatMap
          Frame.encode := by
  induction messages generalizing w now with
  | nil => exact ⟨now, w, rfl, (List.append_nil _).symm⟩
  | cons message messages ih =>
    obtain ⟨time, w₁, hwrite, hsink, htaken⟩ :=
      exists_writeFrame_eq_ok h message.header (hfits message List.mem_cons_self) now
    obtain ⟨time', w₂, hrest, htaken'⟩ :=
      ih (fun other hmem ↦ hfits other (List.mem_cons_of_mem _ hmem)) hsink time
    refine ⟨time', w₂, ?_, ?_⟩
    · rw [writeFrames, hwrite]
      exact hrest
    · rw [htaken', htaken, List.map_cons, List.flatMap_cons, List.append_assoc]

end Writer

/-! ### Reading frames -/

namespace Reader

/-- Read one frame after another, at most so many and until one cannot be read: the frames, and how
the reading has ended. -/
def readFrames (limits : Limits) :
    (most : ℕ) → Time → Reader → List Frame × Settled (Except FrameError Unit) × Reader
  | 0, now, r => ([], ⟨some (.ok ()), now⟩, r)
  | most + 1, now, r =>
    match r.readFrame limits now with
    | (⟨some (.ok frame), time⟩, r) =>
      let (frames, ended) := readFrames limits most time r
      (frame :: frames, ended)
    | (⟨some (.error error), time⟩, r) => ([], ⟨some (.error error), time⟩, r)
    | (⟨none, time⟩, r) => ([], ⟨none, time⟩, r)

variable {ends : Bool} {frames : List Frame} {rest : Bytes} {r : Reader}

/-- **The frames in front of the unread bytes are read**, whatever follows them. -/
theorem exists_readFrames_eq_ok (h : r.source.IsLossless ends)
    (hvalid : ∀ frame ∈ frames, frame.IsValid)
    (hunread : r.unread = frames.flatMap Frame.encode ++ rest) (now : Time) :
    ∃ time r', r.readFrames Limits.none frames.length now =
      (frames, ⟨some (.ok ()), time⟩, r') ∧ r'.unread = rest ∧ r'.source.IsLossless ends := by
  induction frames generalizing r now with
  | nil => exact ⟨now, r, rfl, hunread, h⟩
  | cons frame frames ih =>
    rw [List.flatMap_cons, List.append_assoc] at hunread
    have hfirst := Frame.first?_encode_append (hvalid frame List.mem_cons_self)
      (frames.flatMap Frame.encode ++ rest)
    rw [← hunread] at hfirst
    obtain ⟨time, r₁, hread, hleft, hsource⟩ := exists_readFrame_eq_ok h hfirst now
    obtain ⟨time', r₂, hmore, hlast, hsource'⟩ :=
      ih hsource (fun other hmem ↦ hvalid other (List.mem_cons_of_mem _ hmem)) hleft time
    refine ⟨time', r₂, ?_, hlast, hsource'⟩
    rw [List.length_cons, readFrames, hread]
    simp only [hmore]

/-- Reading goes on where the first frames have left off. -/
theorem readFrames_add {more : ℕ} {now time : Time} {r' : Reader} {limits : Limits}
    (h : r.readFrames limits frames.length now = (frames, ⟨some (.ok ()), time⟩, r')) :
    r.readFrames limits (frames.length + more) now =
      (frames ++ (r'.readFrames limits more time).1, (r'.readFrames limits more time).2) := by
  induction frames generalizing r now with
  | nil =>
    cases h
    rw [List.length_nil, Nat.zero_add, List.nil_append]
  | cons frame frames ih =>
    rw [List.length_cons, readFrames] at h
    rw [List.length_cons, Nat.add_right_comm, readFrames]
    rcases hread : r.readFrame limits now with ⟨⟨_ | error | first, time₁⟩, r₁⟩
    · rw [hread] at h
      cases h
    · rw [hread] at h
      cases h
    · rw [hread] at h
      simp only [Prod.mk.injEq, List.cons.injEq] at h
      obtain ⟨⟨rfl, hframes⟩, hended⟩ := h
      have hmore := ih (Prod.ext hframes hended)
      simp only [hmore, List.cons_append]

/-- **What follows the last frame is no frame**, and the stream has ended: then reading fails with
the defect of the rest. -/
theorem exists_readFrames_eq_error (h : r.source.IsLossless true)
    (hcut : Frame.IsCut r.unread frames rest) {most : ℕ} (hmost : frames.length < most)
    (now : Time) :
    ∃ time r', r.readFrames Limits.none most now =
      (frames, ⟨some (.error (Frame.defect rest)), time⟩, r') := by
  obtain ⟨more, rfl⟩ := Nat.exists_eq_add_of_lt hmost
  obtain ⟨time, r₁, hread, hleft, hsource⟩ :=
    exists_readFrames_eq_ok h hcut.valid hcut.joined now
  have hnone : Frame.first? r₁.unread = none := by
    rw [hleft]
    exact Frame.first?_eq_none_iff.2 hcut.maximal
  obtain ⟨time', r₂, hfail, -, -⟩ := exists_readFrame_eq_error hsource hnone time
  rw [hleft] at hfail
  refine ⟨time', r₂, ?_⟩
  rw [Nat.add_assoc, readFrames_add hread, readFrames, hfail]
  simp only [List.append_nil]

end Reader

/-! ### The round trip -/

/-- The messages as they travel. -/
theorem isValid_of_mem_map_ofBody {messages : List Frame}
    (hours : ∀ message ∈ messages, message.header.IsOurs)
    (hfits : ∀ message ∈ messages, message.body.length ≤ Frame.maxBody) :
    ∀ frame ∈ messages.map (fun message ↦ Frame.ofBody message.header message.body),
      frame.IsValid := by
  intro frame hmem
  obtain ⟨message, hmessage, rfl⟩ := List.mem_map.1 hmem
  exact Frame.isValid_ofBody (hours message hmessage) (hfits message hmessage)

/-- **What is written is read back**, whatever the pieces in which it goes out and comes in, and
whatever room there is in the buffers. The frames have the codes and the bodies of the messages, in
their order, and the lengths of those bodies. If the stream ends early, the frames that are wholly
in it are read, and then it is found closed, which leaves no way to go on. -/
theorem Reader.readFrames_of_writeFrames {messages : List Frame}
    (hours : ∀ message ∈ messages, message.header.IsOurs)
    (hfits : ∀ message ∈ messages, message.body.length ≤ Frame.maxBody) {w : Writer}
    (hsink : w.sink.IsWilling) (hfresh : w.sink.sent = []) (start : Time) :
    let frames := messages.map fun message ↦ Frame.ofBody message.header message.body
    (frames.map fun frame ↦ (frame.header.code, frame.body)) =
        (messages.map fun message ↦ (message.header.code, message.body)) ∧
      (∀ frame ∈ frames, frame.header.length.toNat = frame.body.length) ∧
      ∃ time written,
        w.writeFrames Limits.none messages start = (⟨some (.ok ()), time⟩, written) ∧
        ∀ (buffer : Buffer) (source : Source) (ends : Bool) (now : Time), buffer.bytes = [] →
          source.IsLossless ends →
          (source.remaining = written.sink.taken →
            ∃ time r, readFrames Limits.none frames.length now ⟨buffer, source⟩ =
              (frames, ⟨some (.ok ()), time⟩, r) ∧ r.unread = []) ∧
          (ends = true → source.remaining <+: written.sink.taken →
            ∃ whole, whole <+: frames ∧
              (∀ others, others <+: frames →
                (others.flatMap Frame.encode <+: source.remaining ↔ others <+: whole)) ∧
              FrameError.closed.isBroken = true ∧
              ∀ most, whole.length < most →
                ∃ time r, readFrames Limits.none most now ⟨buffer, source⟩ =
                  (whole, ⟨some (.error .closed), time⟩, r)) := by
  intro frames
  have hvalid : ∀ frame ∈ frames, frame.IsValid := isValid_of_mem_map_ofBody hours hfits
  obtain ⟨time, written, hwrite, htaken⟩ := Writer.exists_writeFrames_eq_ok hfits hsink start
  rw [Sink.taken_of_sent_eq_nil hfresh, List.nil_append] at htaken
  refine ⟨?_, fun frame hmem ↦ (hvalid frame hmem).length, time, written, hwrite, ?_⟩
  · rw [List.map_map]
    rfl
  intro buffer source ends now hempty hsource
  have hunread : unread ⟨buffer, source⟩ = source.remaining := by
    rw [unread, hempty, List.nil_append]
  rw [htaken]
  refine ⟨fun hall ↦ ?_, ?_⟩
  · have hframes : unread ⟨buffer, source⟩ = frames.flatMap Frame.encode ++ [] := by
      rw [hunread, hall, List.append_nil]
    obtain ⟨time, r, hread, hleft, -⟩ := exists_readFrames_eq_ok hsource hvalid hframes now
    exact ⟨time, r, hread, hleft⟩
  · rintro rfl hfront
    obtain ⟨whole, rest, hwhole, hcut, hdefect⟩ := Frame.exists_isCut_cutShort hvalid hfront
    refine ⟨whole, hwhole, fun others hothers ↦ ⟨fun hin ↦ ?_, fun hin ↦ ?_⟩, rfl,
      fun most hmost ↦ ?_⟩
    · exact hcut.prefix_of_prefix (fun frame hmem ↦ hvalid frame (hothers.subset hmem)) hin
    · obtain ⟨more, rfl⟩ := hin
      rw [hcut.joined, List.flatMap_append, List.append_assoc]
      exact List.prefix_append _ _
    · rw [← hunread] at hcut
      rw [← hdefect]
      exact exists_readFrames_eq_error hsource hcut hmost now

/-- An empty body and one of two bytes, written byte by byte, and a stream that ends within the
second of them. -/
theorem Reader.readFrames_of_writeFrames_short :
    let messages : List Frame := [⟨.make 7 0, []⟩, ⟨.make 8 0, [1, 2]⟩]
    let frames := messages.map fun message ↦ Frame.ofBody message.header message.body
    let w : Writer := ⟨.withCapacity 0,
      .ofScripts [⟨0, .take 1⟩, ⟨3, .take 4⟩] [⟨4, .success⟩] []⟩
    let bytes := frames.flatMap Frame.encode
    let source := Source.ofScript
      [⟨0, .data (bytes.take 15)⟩, ⟨2, .data ((bytes.drop 15).take 5)⟩, ⟨5, .eof⟩]
    (w.writeFrames Limits.none messages 0).2.sink.taken = bytes ∧
      source.remaining <+: bytes ∧
      ∃ time r, readFrames Limits.none 2 0 ⟨.withCapacity 3, source⟩ =
        (frames.take 1, ⟨some (.error .closed), time⟩, r) := by
  intro messages frames w bytes source
  have hours : ∀ message ∈ messages, message.header.IsOurs := by decide
  have hfits : ∀ message ∈ messages, message.body.length ≤ Frame.maxBody := by decide
  have hsink : w.sink.IsWilling := by
    constructor
    case writes =>
      intro item hmem
      obtain rfl | hmem := List.mem_cons.1 hmem
      · exact ⟨0, rfl⟩
      · exact ⟨3, by rw [List.mem_singleton.1 hmem]⟩
    case flushes =>
      intro item hmem
      rw [List.mem_singleton.1 hmem]
    case shutdowns => exact nofun
  have hsource : source.IsLossless true := ⟨.data 0 _ (.data 2 _ (.eof 5)), by decide, rfl⟩
  obtain ⟨-, -, time, written, hwrite, hread⟩ :=
    readFrames_of_writeFrames hours hfits hsink rfl 0
  have htaken : (w.writeFrames Limits.none messages 0).2.sink.taken = bytes := by decide +kernel
  have hwritten : written.sink.taken = bytes := by rw [← htaken, hwrite]
  have hfront : source.remaining <+: bytes := by decide +kernel
  obtain ⟨whole, hwhole, hmax, -, hends⟩ :=
    (hread (.withCapacity 3) source true 0 rfl hsource).2 rfl (hwritten ▸ hfront)
  -- the first frame is in the stream and the second one is not
  have hfirst : frames.take 1 <+: whole :=
    (hmax _ (List.take_prefix 1 frames)).1 (by decide +kernel)
  have hsecond : ¬ frames <+: whole := by
    intro hall
    exact absurd ((hmax frames (List.prefix_refl _)).2 hall) (by decide +kernel)
  have hwhole : whole = frames.take 1 := by
    have htake : whole = frames.take whole.length := List.prefix_iff_eq_take.1 hwhole
    have hmost : whole.length < 2 := by
      by_contra hmany
      rw [List.take_of_length_le (Nat.le_of_not_lt hmany)] at htake
      exact hsecond (htake ▸ List.prefix_refl _)
    have hleast : 1 ≤ whole.length := hfirst.length_le
    rw [htake, show whole.length = 1 by omega]
  subst hwhole
  exact ⟨htaken, hfront, hends 2 (by decide)⟩

end FramedExchange
