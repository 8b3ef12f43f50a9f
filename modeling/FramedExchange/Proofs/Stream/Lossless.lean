import FramedExchange.Proofs.Stream.Reading
import FramedExchange.Proofs.Stream.Writing

/-!
# Streams that neither fail nor stall

A source is lossless if it brings its bytes piece by piece, in pieces and at moments of any kind,
and then ends the stream or falls silent. A sink is willing if every write takes something, however
little, and every flush succeeds. Between such ends, and without limits, nothing depends on the
pieces and the moments:

* `fetch_eq_ok`, `fetch_eq_closed` and `outcome_fetch_eq_hanging`: fetching succeeds if there are
  enough bytes; otherwise it finds the end of the stream, or waits for ever;
* `exists_readFrame_eq_ok` and `exists_readFrame_eq_error`: a frame is read if the unread bytes
  begin with one, and otherwise the error is the defect of those bytes;
* `exists_writeFrame_eq_ok`: a frame that fits is written.
-/

namespace FramedExchange

/-- A timeout of zero sets no limit. -/
theorem limits_of_unbounded {timeout : Time} (h : timeout = 0) (now : Time) :
    (⟨deadlineAfter now timeout, none⟩ : Limits) = Limits.none := by
  rw [deadlineAfter, if_pos h]
  rfl

/-- Without limits what becomes possible at some moment happens then, or at once if it is
possible. -/
theorem await_none (now moment : Time) :
    await Limits.none now (some moment) = ⟨.done (), max now moment⟩ := by
  rcases Nat.le_total moment now with hle | hge
  · rw [await_of_le hle, Nat.max_eq_left hle]
  · rcases Nat.lt_or_ge now moment with hlt | hle
    · rw [await, if_neg (Nat.not_le.2 hlt), Nat.max_eq_right hge]
      rfl
    · rw [await_of_le hle, Nat.max_eq_left hle]

namespace Source

/-- A script that brings bytes piece by piece and then ends the stream, or falls silent. -/
inductive Brings : (ends : Bool) → List (Scheduled Arrival) → Prop
  | silence : Brings false []
  | eof (due : Time) : Brings true [⟨due, .eof⟩]
  | data {ends : Bool} (due : Time) (bytes : Bytes) {rest : List (Scheduled Arrival)} :
      Brings ends rest → Brings ends (⟨due, .data bytes⟩ :: rest)

/-- **A read from such a script** gets some of the bytes if there are any. Otherwise it gets the end
of the stream, or never ends. -/
theorem readScript_of_brings {ends : Bool} {space : ℕ} (hspace : 0 < space) (now : Time)
    {script : List (Scheduled Arrival)} (h : Brings ends script) :
    (∃ byte bytes time rest, readScript Limits.none space now script =
        (⟨.done (.ok (byte :: bytes)), time⟩, rest, []) ∧ Brings ends rest) ∨
      (∃ time rest, readScript Limits.none space now script = (⟨.done (.ok []), time⟩, rest, []) ∧
        Brings ends rest ∧ bytesOf script = [] ∧ ends = true) ∨
      ((readScript Limits.none space now script).1.outcome = .hanging ∧ bytesOf script = [] ∧
        ends = false) := by
  induction h generalizing now with
  | silence => exact .inr (.inr ⟨rfl, rfl, rfl⟩)
  | eof due =>
    refine .inr (.inl ⟨max now due, [⟨due, .eof⟩], ?_, .eof due, rfl, rfl⟩)
    rw [readScript, dueOf, await_none]
  | @data ends due bytes rest hrest ih =>
    cases bytes with
    | nil =>
      rw [readScript, dueOf, await_none]
      exact ih (max now due)
    | cons byte bytes =>
      refine .inl ?_
      rcases hleft : (byte :: bytes).drop space with - | ⟨first, left⟩
      · refine ⟨byte, bytes, max now due, rest, ?_, hrest⟩
        rw [readScript, dueOf, await_none]
        simp only [hleft]
      · obtain ⟨space, rfl⟩ := Nat.exists_eq_succ_of_ne_zero hspace.ne'
        refine ⟨byte, bytes.take space, max now due, ⟨due, .data (first :: left)⟩ :: rest, ?_,
          .data due _ hrest⟩
        rw [readScript, dueOf, await_none]
        simp only [hleft]
        rfl

/-- A source that loses no byte, never fails and gives no signal. -/
structure IsLossless (ends : Bool) (source : Source) : Prop where
  brings : Brings ends source.script
  burst_pos : 0 < source.burst
  quiet : source.signals = []

/-- What a read from a lossless source has come to. -/
theorem read_cases {ends : Bool} {source source' : Source} (h : source.IsLossless ends) {space : ℕ}
    (hspace : 0 < space) {now : Time} {result : Timed (Except IoError Bytes)}
    (hread : source.read Limits.none now space = (result, source')) :
    (∃ byte bytes, result.outcome = .done (.ok (byte :: bytes)) ∧ source'.IsLossless ends) ∨
      (result.outcome = .done (.ok []) ∧ source'.IsLossless ends ∧ source.remaining = [] ∧
        ends = true) ∨
      (result.outcome = .hanging ∧ source.remaining = [] ∧ ends = false) := by
  have hroom : 0 < min space source.burst := lt_min hspace h.burst_pos
  have hquiet : source.signals ++ [] = [] := by rw [h.quiet, List.append_nil]
  rcases readScript_of_brings hroom now h.brings with
    ⟨byte, bytes, time, rest, hscript, hrest⟩ | ⟨time, rest, hscript, hrest, hnone, hends⟩ | hsilent
  · rw [read, hscript] at hread
    cases hread
    exact .inl ⟨byte, bytes, rfl, hrest, h.burst_pos, hquiet⟩
  · rw [read, hscript] at hread
    cases hread
    exact .inr (.inl ⟨rfl, ⟨hrest, h.burst_pos, hquiet⟩, hnone, hends⟩)
  · cases hread
    exact .inr (.inr hsilent)

end Source

namespace Reader

variable {ends : Bool} {r : Reader}

/-! ### Fetching -/

/-- **Fetching from a lossless source** succeeds exactly if there are enough bytes. -/
private theorem fetch_of_isLossless (h : r.source.IsLossless ends) (n : ℕ) (now : Time) :
    (n ≤ r.unread.length ∧ ∃ time r', r.fetch Limits.none n now = (⟨.done (.ok ()), time⟩, r') ∧
        r'.source.IsLossless ends) ∨
      (r.unread.length < n ∧ ends = true ∧ ∃ time r', r.fetch Limits.none n now =
        (⟨.done (.error .streamClosed), time⟩, r') ∧ r'.source.IsLossless ends) ∨
      (r.unread.length < n ∧ ends = false ∧ (r.fetch Limits.none n now).1.outcome = .hanging) := by
  have hroom : ∀ r : Reader, 0 < (r.buffer.reserve chunk).spare := fun r ↦
    Nat.lt_of_lt_of_le (by decide) (Buffer.le_spare_reserve chunk r.buffer)
  fun_induction fetch Limits.none n now r with
  | case1 now r henough =>
    have hle : r.buffered ≤ r.unread.length := by
      rw [unread, List.length_append]
      exact Nat.le_add_right _ _
    exact .inl ⟨henough.trans hle, now, r, rfl, h⟩
  | case2 now r hfew buffer byte bytes time source hread ih =>
    have hkeep : unread ⟨buffer.append (byte :: bytes), source⟩ = r.unread := by
      rw [← unread_eq_of_read hread]
      simp [unread, Source.gained, buffer]
    rw [hkeep] at ih
    obtain ⟨_, _, -, hsource⟩ | ⟨hend, -⟩ | ⟨hend, -⟩ := Source.read_cases h (hroom r) hread
    · exact ih hsource
    · cases hend
    · cases hend
  | case3 now r hfew buffer time source hread =>
    obtain ⟨_, _, hend, -⟩ | ⟨-, hsource, hnone, hends⟩ | ⟨hend, -⟩ :=
      Source.read_cases h (hroom r) hread
    · cases hend
    · refine .inr (.inl ⟨?_, hends, time, _, rfl, hsource⟩)
      rw [unread, hnone, List.append_nil]
      exact Nat.lt_of_not_le hfew
    · cases hend
  | case4 now r hfew buffer error time source hread =>
    -- a lossless source never fails, and without a deadline no read is given up
    obtain ⟨_, _, hend, -⟩ | ⟨hend, -⟩ | ⟨hend, -⟩ := Source.read_cases h (hroom r) hread
    all_goals cases hend
  | case5 now r hfew buffer time source hread =>
    obtain ⟨_, _, hend, -⟩ | ⟨hend, -⟩ | ⟨hend, -⟩ := Source.read_cases h (hroom r) hread
    all_goals cases hend
  | case6 now r hfew buffer time source hread =>
    obtain ⟨_, _, hend, -⟩ | ⟨hend, -⟩ | ⟨-, hnone, hends⟩ := Source.read_cases h (hroom r) hread
    · cases hend
    · cases hend
    · refine .inr (.inr ⟨?_, hends, rfl⟩)
      rw [unread, hnone, List.append_nil]
      exact Nat.lt_of_not_le hfew

theorem fetch_eq_ok (h : r.source.IsLossless ends) {n : ℕ} (hle : n ≤ r.unread.length)
    (now : Time) :
    ∃ time r', r.fetch Limits.none n now = (⟨.done (.ok ()), time⟩, r') ∧
      r'.source.IsLossless ends := by
  obtain ⟨-, hfetch⟩ | ⟨hlt, -⟩ | ⟨hlt, -⟩ := fetch_of_isLossless h n now
  · exact hfetch
  · omega
  · omega

theorem fetch_eq_closed (h : r.source.IsLossless true) {n : ℕ} (hlt : r.unread.length < n)
    (now : Time) :
    ∃ time r', r.fetch Limits.none n now = (⟨.done (.error .streamClosed), time⟩, r') ∧
      r'.source.IsLossless true := by
  obtain ⟨hle, -⟩ | ⟨-, -, hfetch⟩ | ⟨-, hends, -⟩ := fetch_of_isLossless h n now
  · omega
  · exact hfetch
  · cases hends

theorem outcome_fetch_eq_hanging (h : r.source.IsLossless false) {n : ℕ} (hlt : r.unread.length < n)
    (now : Time) : (r.fetch Limits.none n now).1.outcome = .hanging := by
  obtain ⟨hle, -⟩ | ⟨-, hends, -⟩ | ⟨-, -, hfetch⟩ := fetch_of_isLossless h n now
  · omega
  · cases hends
  · exact hfetch

/-! ### Taking -/

theorem take_eq_ok_of_le (h : r.source.IsLossless ends) {n : ℕ} (hle : n ≤ r.unread.length)
    (now : Time) :
    ∃ time r', r.take Limits.none n now = (⟨.done (.ok (r.unread.take n)), time⟩, r') ∧
      r'.unread = r.unread.drop n ∧ r'.source.IsLossless ends := by
  obtain ⟨time, r', hfetch, hsource⟩ := fetch_eq_ok h hle now
  have htake : r.take Limits.none n now =
      (⟨.done (.ok (r'.buffer.bytes.take n)), time⟩,
        { r' with buffer := r'.buffer.consume n }) := by
    rw [take, hfetch]
  obtain ⟨-, hraw, hleft⟩ := take_eq_ok htake
  rw [hraw] at htake
  exact ⟨time, _, htake, hleft, hsource⟩

theorem take_eq_closed (h : r.source.IsLossless true) {n : ℕ} (hlt : r.unread.length < n)
    (now : Time) :
    ∃ time r', r.take Limits.none n now = (⟨.done (.error .streamClosed), time⟩, r') ∧
      r'.unread = r.unread ∧ r'.source.IsLossless true := by
  obtain ⟨time, r', hfetch, hsource⟩ := fetch_eq_closed h hlt now
  have htake : r.take Limits.none n now = (⟨.done (.error .streamClosed), time⟩, r') := by
    rw [take, hfetch]
  exact ⟨time, r', htake, unread_take_of_ne_ok htake nofun, hsource⟩

/-! ### Frames -/

/-- **A frame is read** if the unread bytes begin with one. -/
theorem exists_readFrame_eq_ok (h : r.source.IsLossless ends) {frame : Frame} {rest : Bytes}
    (hfirst : Frame.first? r.unread = some (frame, rest)) (now : Time) :
    ∃ time r', r.readFrame Limits.none now = (⟨some (.ok frame), time⟩, r') ∧ r'.unread = rest ∧
      r'.source.IsLossless ends := by
  obtain ⟨hvalid, hunread⟩ := Frame.eq_append_of_first? hfirst
  have hlength : r.unread.length = Header.size + frame.body.length + rest.length := by
    rw [hunread, List.length_append, Frame.length_encode]
  have hhead : r.unread.take Header.size = frame.header.encode := by
    rw [hunread, Frame.encode, List.append_assoc, List.take_left' frame.header.length_encode]
  have hsize : Header.size ≤ r.unread.length := by omega
  obtain ⟨time, r₁, htake, hleft, hsource₁⟩ := take_eq_ok_of_le h hsize now
  have hbody : frame.header.length.toNat ≤ r₁.unread.length := by
    rw [hvalid.length, hleft, List.length_drop]
    omega
  obtain ⟨time, r₂, htake', -, hsource₂⟩ := take_eq_ok_of_le hsource₁ hbody time
  have hread : r.readFrame Limits.none now =
      (⟨some (.ok ⟨frame.header, r₁.unread.take frame.header.length.toNat⟩), time⟩, r₂) := by
    rw [readFrame, htake, hhead]
    simp only [Header.decode_encode hvalid.isOurs, readBody, htake']
    rfl
  -- a frame that is read is the first one in any case
  have hsame := readFrame_eq_ok hread
  rw [hfirst] at hsame
  obtain ⟨hframe, hrest⟩ := Prod.mk.inj (Option.some.inj hsame)
  rw [← hframe] at hread
  exact ⟨time, r₂, hread, hrest.symm, hsource₂⟩

/-- **Otherwise the error is the defect of the unread bytes**, once the stream has ended. A header
has been taken if there was one. -/
theorem exists_readFrame_eq_error (h : r.source.IsLossless true)
    (hnone : Frame.first? r.unread = none) (now : Time) :
    ∃ time r', r.readFrame Limits.none now = (⟨some (.error (Frame.defect r.unread)), time⟩, r') ∧
      r'.unread = r.unread.drop (if r.unread.length < Header.size then 0 else Header.size) ∧
      r'.source.IsLossless true := by
  rcases Nat.lt_or_ge r.unread.length Header.size with hshort | hlong
  · obtain ⟨time, r', htake, hkeep, hsource⟩ := take_eq_closed h hshort now
    rw [if_pos hshort]
    refine ⟨time, r', ?_, hkeep, hsource⟩
    rw [readFrame, htake, Frame.defect, if_pos hshort]
    rfl
  · obtain ⟨time, r₁, htake, hleft, hsource₁⟩ := take_eq_ok_of_le h hlong now
    rw [Frame.first?, if_neg (Nat.not_lt.2 hlong)] at hnone
    rw [Frame.defect, if_neg (Nat.not_lt.2 hlong), if_neg (Nat.not_lt.2 hlong), readFrame, htake]
    rcases hdecode : Header.decode (r.unread.take Header.size) with error | header
    · simp only [hdecode]
      exact ⟨time, r₁, rfl, hleft, hsource₁⟩
    · have hfew : r.unread.length - Header.size < header.length.toNat := by
        by_contra hfull
        simp only [hdecode, if_neg hfull, reduceCtorEq] at hnone
      have hshort : r₁.unread.length < header.length.toNat := by
        rw [hleft, List.length_drop]
        exact hfew
      obtain ⟨time', r₂, htake', hkeep, hsource₂⟩ := take_eq_closed hsource₁ hshort time
      simp only [hdecode, readBody, htake']
      exact ⟨time', r₂, rfl, hkeep.trans hleft, hsource₂⟩

end Reader

/-! ### Willing sinks -/

/-- A sink at which every write takes something and every flush succeeds. -/
structure Sink.IsWilling (sink : Sink) : Prop where
  writes : ∀ item ∈ sink.writes, ∃ more, item.event = .take (more + 1)
  flushes : ∀ item ∈ sink.flushes, item.event = .success
  shutdowns : ∀ item ∈ sink.shutdowns, item.event ≠ .stall

namespace Sink

/-- **However little each write takes, all bytes are taken in the end.** -/
theorem writeScript_of_willing (now : Time) (bytes : Bytes) {script : List (Scheduled Acceptance)}
    (h : ∀ item ∈ script, ∃ more, item.event = .take (more + 1)) :
    ∃ time rest sent, writeScript Limits.none now bytes script =
      (⟨.done (.ok ()), time⟩, rest, sent) ∧ ∀ item ∈ rest, item ∈ script := by
  induction script generalizing now bytes with
  | nil =>
    cases bytes with
    | nil => exact ⟨now, [], [], rfl, nofun⟩
    | cons byte bytes => exact ⟨now, [], [.bytes now (byte :: bytes)], rfl, nofun⟩
  | cons item script ih =>
    obtain ⟨due, event⟩ := item
    obtain ⟨more, hevent⟩ := h _ List.mem_cons_self
    obtain rfl : event = .take (more + 1) := hevent
    cases bytes with
    | nil => exact ⟨now, _, [], rfl, fun other hmem ↦ hmem⟩
    | cons byte bytes =>
      obtain ⟨time, rest, sent, hwrite, hrest⟩ := ih (max now due) ((byte :: bytes).drop (more + 1))
        fun other hmem ↦ h other (List.mem_cons_of_mem _ hmem)
      refine ⟨time, rest, .bytes (max now due) ((byte :: bytes).take (more + 1)) :: sent, ?_,
        fun other hmem ↦ List.mem_cons_of_mem _ (hrest other hmem)⟩
      rw [writeScript, dueOfWrite, await_none]
      · simp only [hwrite]
      · exact nofun

theorem callScript_of_success (now : Time) {script : List (Scheduled Completion)}
    (h : ∀ item ∈ script, item.event = .success) :
    ∃ time rest, callScript Limits.none now script = (⟨.done (.ok ()), time⟩, rest) ∧
      ∀ item ∈ rest, item ∈ script := by
  cases script with
  | nil => exact ⟨now, [], rfl, nofun⟩
  | cons item rest =>
    obtain ⟨due, event⟩ := item
    obtain rfl : event = .success := h _ List.mem_cons_self
    refine ⟨max now due, rest, ?_, fun other hmem ↦ List.mem_cons_of_mem _ hmem⟩
    rw [callScript, dueOfCall, await_none]

variable {sink : Sink}

/-- A willing sink takes all bytes and stays willing. -/
theorem IsWilling.writeAll (h : sink.IsWilling) (now : Time) (bytes : Bytes) :
    ∃ time sink', sink.writeAll Limits.none now bytes = (⟨.done (.ok ()), time⟩, sink') ∧
      sink'.IsWilling := by
  obtain ⟨time, rest, sent, hwrite, hrest⟩ := writeScript_of_willing now bytes h.writes
  exact ⟨time, { sink with writes := rest, sent := sink.sent ++ sent },
    by rw [Sink.writeAll, hwrite], fun item hmem ↦ h.writes item (hrest item hmem), h.flushes,
    h.shutdowns⟩

theorem IsWilling.flush (h : sink.IsWilling) (now : Time) :
    ∃ time sink', sink.flush Limits.none now = (⟨.done (.ok ()), time⟩, sink') ∧
      sink'.IsWilling := by
  obtain ⟨time, rest, hcall, hrest⟩ := callScript_of_success now h.flushes
  exact ⟨time, { sink with flushes := rest, sent := sink.sent ++ [.flush time] },
    by rw [Sink.flush, hcall]; rfl,
    h.writes, fun item hmem ↦ h.flushes item (hrest item hmem), h.shutdowns⟩

/-- A willing sink can be shut down, whatever comes of it. -/
theorem IsWilling.shutdown (h : sink.IsWilling) (now : Time) :
    ∃ result time sink', sink.shutdown Limits.none now = (⟨.done result, time⟩, sink') := by
  rcases hscript : sink.shutdowns with - | ⟨⟨due, event⟩, rest⟩
  · exact ⟨.ok (), now, _, by rw [Sink.shutdown, hscript, callScript]⟩
  · have hfirst : ⟨due, event⟩ ∈ sink.shutdowns := by
      rw [hscript]
      exact List.mem_cons_self
    have hevent : event ≠ .stall := h.shutdowns ⟨due, event⟩ hfirst
    rw [Sink.shutdown, hscript, callScript]
    cases event with
    | success =>
      rw [dueOfCall, await_none]
      exact ⟨.ok (), max now due, _, rfl⟩
    | failure error =>
      rw [dueOfCall, await_none]
      exact ⟨.error error, max now due, _, rfl⟩
    | stall => exact absurd rfl hevent

end Sink

namespace Writer

variable {w : Writer}

/-- **A frame that fits is written**, and nothing else. -/
theorem exists_writeFrame_eq_ok (h : w.sink.IsWilling) (header : Header) {body : Bytes}
    (hfits : body.length ≤ Frame.maxBody) (now : Time) :
    ∃ time w', w.writeFrame Limits.none header body now = (⟨some (.ok ()), time⟩, w') ∧
      w'.sink.IsWilling ∧ w'.sink.taken = w.sink.taken ++ (Frame.ofBody header body).encode := by
  obtain ⟨record, hsent, -, hall⟩ := exists_recorded_writeFrame Limits.none header hfits now w
  obtain ⟨time, sink₁, hwrite, hsink₁⟩ := h.writeAll now
    (assemble { header with length := UInt16.ofNat body.length } body w.buffer).bytes
  obtain ⟨time, sink₂, hflush, hsink₂⟩ := hsink₁.flush time
  have hframe : w.writeFrame Limits.none header body now = (⟨some (.ok ()), time⟩,
      ⟨assemble { header with length := UInt16.ofNat body.length } body w.buffer, sink₂⟩) := by
    rw [writeFrame, if_neg (Nat.not_lt.2 hfits), writeRaw, hwrite]
    simp only [hflush]
    rfl
  rw [hframe] at hsent hall
  refine ⟨time, _, hframe, hsink₂, ?_⟩
  rw [Sink.taken_eq_recorded, Sink.taken_eq_recorded, hsent, Sink.recorded_append, hall rfl]

end Writer

end FramedExchange
