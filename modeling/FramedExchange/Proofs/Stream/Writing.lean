import FramedExchange.Stream.Writer
import FramedExchange.Proofs.Wire.FrameCut

/-!
# A frame goes out from its first byte on

A sink keeps a record of what it took, call by call. While a frame is written the record only grows,
and the bytes by which it grows are a prefix of the frame, wherever the writing is cut short: by a
partial acceptance, a failure, a flush that fails or the limits. They are the whole frame, with a
flush behind them, whenever the writer reports success (`exists_sent_writeFrame`). A body that does
not fit is refused before any byte (`writeFrame_of_lt`).

The buffer in which frames are put together does not matter: whatever an earlier frame has left in
it is dropped first (`bytes_assemble`).
-/

namespace FramedExchange

/-- The bytes that an entry of a record tells of. -/
def Sent.payload : Sent → Bytes
  | .bytes _ piece => piece
  | _ => []

namespace Sink

/-- The bytes that a record tells of, in order. -/
def recorded (record : List Sent) : Bytes := record.flatMap Sent.payload

@[simp]
theorem recorded_nil : recorded [] = [] := rfl

@[simp]
theorem recorded_cons (entry : Sent) (record : List Sent) :
    recorded (entry :: record) = entry.payload ++ recorded record := rfl

@[simp]
theorem recorded_append (record more : List Sent) :
    recorded (record ++ more) = recorded record ++ recorded more :=
  List.flatMap_append

theorem taken_eq_recorded (sink : Sink) : sink.taken = recorded sink.sent := by
  refine congrArg (List.flatMap · sink.sent) (funext fun entry ↦ ?_)
  cases entry <;> rfl

/-- A sink whose record is empty has taken nothing. -/
theorem taken_of_sent_eq_nil {sink : Sink} (h : sink.sent = []) : sink.taken = [] := by
  rw [taken_eq_recorded, h, recorded_nil]

/-- A shorter record tells of fewer bytes. -/
theorem recorded_prefix {record more : List Sent} (h : record <+: more) :
    recorded record <+: recorded more := by
  obtain ⟨rest, rfl⟩ := h
  rw [recorded_append]
  exact List.prefix_append _ _

/-! ### Writing, flushing and shutting down -/

/-- **However a write ends, a prefix of the bytes was taken**, and all of them if it succeeds. -/
theorem recorded_writeScript (limits : Limits) (now : Time) (bytes : Bytes)
    (script : List (Scheduled Acceptance)) :
    recorded (writeScript limits now bytes script).2.2 <+: bytes ∧
      ((writeScript limits now bytes script).1.outcome = .done (.ok ()) →
        recorded (writeScript limits now bytes script).2.2 = bytes) := by
  fun_induction writeScript limits now bytes script with
  | case1 => exact ⟨List.nil_prefix, fun _ ↦ rfl⟩
  | case2 => simp [Sent.payload]
  | case4 now bytes item rest hbytes time hawait most hmost hevent result left sent heq ih =>
    -- what this call took, and then what the later ones took of what it had left
    have hjoin : bytes.take most ++ bytes.drop most = bytes := List.take_append_drop most bytes
    rw [heq] at ih
    obtain ⟨⟨more, hmore⟩, hall⟩ := ih
    refine ⟨⟨more, ?_⟩, fun hok ↦ ?_⟩
    · rw [recorded_cons, Sent.payload, List.append_assoc, hmore, hjoin]
    · rw [recorded_cons, Sent.payload, hall hok, hjoin]
  | case5 now bytes item rest hbytes time hawait error hevent hkind ih => exact ih
  | case7 now bytes item rest hbytes time hawait hevent =>
    exact ⟨List.nil_prefix, fun hok ↦ absurd hok (giveUp_ne_done limits time _)⟩
  | case3 | case6 | case8 | case9 => exact ⟨List.nil_prefix, nofun⟩

/-- A record of pieces of bytes and of nothing else. -/
def IsPieces (record : List Sent) : Prop :=
  ∀ entry ∈ record, ∃ time piece, entry = .bytes time piece

/-- A write leaves a record of the pieces that were taken. -/
theorem isPieces_writeScript (limits : Limits) (now : Time) (bytes : Bytes)
    (script : List (Scheduled Acceptance)) :
    IsPieces (writeScript limits now bytes script).2.2 := by
  fun_induction writeScript limits now bytes script with
  | case2 now bytes hbytes => exact List.forall_mem_singleton.2 ⟨now, bytes, rfl⟩
  | case4 now bytes item rest hbytes time hawait most hmost hevent result left sent heq ih =>
    rw [heq] at ih
    exact List.forall_mem_cons.2 ⟨⟨time, bytes.take most, rfl⟩, ih⟩
  | case5 now bytes item rest hbytes time hawait error hevent hkind ih => exact ih
  | case1 | case3 | case6 | case7 | case8 | case9 => exact List.forall_mem_nil _

/-- One more entry about a flush or a shutdown tells of no bytes. -/
theorem recorded_sentOf {entry : Time → Sent} (hentry : ∀ time, (entry time).payload = [])
    (result : Timed (Except IoError Unit)) : recorded (sentOf entry result) = [] := by
  unfold sentOf
  split
  · simp [hentry]
  · rfl

theorem exists_recorded_shutdown (limits : Limits) (now : Time) (sink : Sink) :
    ∃ record, (sink.shutdown limits now).2.sent = sink.sent ++ record ∧ recorded record = [] :=
  ⟨_, rfl, recorded_sentOf (fun _ ↦ rfl) _⟩

/-! ### Time -/

/-- Writing takes no time back. -/
theorem le_time_writeScript (limits : Limits) (now : Time) (bytes : Bytes)
    (script : List (Scheduled Acceptance)) :
    now ≤ (writeScript limits now bytes script).1.time := by
  have hwait (now : Time) (item : Scheduled Acceptance) {outcome : Outcome Unit} {time : Time}
      (hawait : await limits now (dueOfWrite item) = ⟨outcome, time⟩) : now ≤ time := by
    have hle := le_time_await limits now (dueOfWrite item)
    rwa [hawait] at hle
  fun_induction writeScript limits now bytes script with
  | case1 | case2 => exact le_rfl
  | case3 now bytes item rest hbytes time hawait => exact hwait now item hawait
  | case4 now bytes item rest hbytes time hawait most hmost hevent result left sent heq ih =>
    rw [heq] at ih
    exact (hwait now item hawait).trans ih
  | case5 now bytes item rest hbytes time hawait error hevent hkind ih =>
    exact (hwait now item hawait).trans ih
  | case6 now bytes item rest hbytes time hawait => exact hwait now item hawait
  | case7 now bytes item rest hbytes time hawait =>
    exact (hwait now item hawait).trans (le_time_giveUp limits time)
  | case8 now bytes item rest hbytes time hawait => exact hwait now item hawait
  | case9 now bytes item rest hbytes time hawait => exact hwait now item hawait

theorem le_time_callScript (limits : Limits) (now : Time) (script : List (Scheduled Completion)) :
    now ≤ (callScript limits now script).1.time := by
  cases script with
  | nil => exact le_rfl
  | cons item rest =>
    have hwait := le_time_await limits now (dueOfCall item)
    rw [callScript]
    rcases hawait : await limits now (dueOfCall item) with ⟨⟨⟩ | _ | _, time⟩
    all_goals rw [hawait] at hwait
    · rcases item with ⟨due, success | failure | stall⟩
      · exact hwait
      · exact hwait
      · exact hwait.trans (le_time_giveUp limits time)
    · exact hwait
    · exact hwait

/-- A record that tells of frames, one after the other: the bytes of each, and then a flush. -/
inductive Flushed : List Frame → List Sent → Prop
  | nil : Flushed [] []
  | append {frames : List Frame} {record : List Sent} {frame : Frame} (pieces : List Sent)
      (time : Time) : Flushed frames record → recorded pieces = frame.encode →
      Flushed (frames ++ [frame]) (record ++ pieces ++ [.flush time])

end Sink

namespace Writer

/-- **What was in the buffer before does not go out.** -/
theorem bytes_assemble (header : Header) (body : Bytes) (buffer : Buffer) :
    (assemble header body buffer).bytes = header.encode ++ body := by
  simp [assemble]

variable {limits : Limits} {now : Time}

/-- Writing a header and a body as they are adds to the record pieces of a prefix of their bytes. If
it succeeds, it adds all of them, and the flush behind them. -/
theorem exists_sent_writeRaw (limits : Limits) (header : Header) (body : Bytes) (now : Time)
    (w : Writer) :
    ∃ pieces, (w.writeRaw limits header body now).2.sink.sent =
        w.sink.sent ++ pieces ++ Sink.sentOf .flush (w.writeRaw limits header body now).1 ∧
      Sink.IsPieces pieces ∧ Sink.recorded pieces <+: header.encode ++ body ∧
      ((w.writeRaw limits header body now).1.outcome = .done (.ok ()) →
        Sink.recorded pieces = header.encode ++ body) := by
  have hpieces := Sink.isPieces_writeScript limits now (header.encode ++ body) w.sink.writes
  obtain ⟨hfront, hall⟩ :=
    Sink.recorded_writeScript limits now (header.encode ++ body) w.sink.writes
  simp only [writeRaw, bytes_assemble, Sink.writeAll]
  rcases hwrite : Sink.writeScript limits now (header.encode ++ body) w.sink.writes with
    ⟨⟨outcome, time⟩, writes, pieces⟩
  rw [hwrite] at hpieces hfront hall
  rcases outcome with (error | ⟨⟩) | _ | _
  · exact ⟨pieces, (List.append_nil _).symm, hpieces, hfront, nofun⟩
  · exact ⟨pieces, rfl, hpieces, hfront, fun _ ↦ hall rfl⟩
  · exact ⟨pieces, (List.append_nil _).symm, hpieces, hfront, nofun⟩
  · exact ⟨pieces, (List.append_nil _).symm, hpieces, hfront, nofun⟩

/-- Writers on the same sink write alike, whatever their buffers are. -/
theorem writeRaw_congr {w w' : Writer} (h : w.sink = w'.sink) (limits : Limits) (header : Header)
    (body : Bytes) (now : Time) :
    (w.writeRaw limits header body now).1 = (w'.writeRaw limits header body now).1 ∧
      (w.writeRaw limits header body now).2.sink = (w'.writeRaw limits header body now).2.sink := by
  simp only [writeRaw, bytes_assemble, h]
  split <;> exact ⟨rfl, rfl⟩

theorem writeFrame_congr {w w' : Writer} (h : w.sink = w'.sink) (limits : Limits) (header : Header)
    (body : Bytes) (now : Time) :
    (w.writeFrame limits header body now).1 = (w'.writeFrame limits header body now).1 ∧
      (w.writeFrame limits header body now).2.sink =
        (w'.writeFrame limits header body now).2.sink := by
  rw [writeFrame, writeFrame]
  split
  · exact ⟨rfl, h⟩
  · obtain ⟨hresult, hsink⟩ :=
      writeRaw_congr h limits { header with length := UInt16.ofNat body.length } body now
    simp only [hresult, hsink, and_self]

theorem le_time_writeRaw (limits : Limits) (header : Header) (body : Bytes) (now : Time)
    (w : Writer) :
    now ≤ (w.writeRaw limits header body now).1.time := by
  have hle :=
    Sink.le_time_writeScript limits now (assemble header body w.buffer).bytes w.sink.writes
  simp only [writeRaw]
  rcases hwrite : w.sink.writeAll limits now (assemble header body w.buffer).bytes with
    ⟨⟨outcome, time⟩, sink⟩
  have htime : now ≤ time := by
    have hsame := congrArg (·.1.time) hwrite
    exact hle.trans_eq hsame
  rcases outcome with (error | _) | _ | _
  · exact htime
  · exact htime.trans (Sink.le_time_callScript limits time sink.flushes)
  · exact htime
  · exact htime

theorem le_time_writeFrame (limits : Limits) (header : Header) (body : Bytes) (now : Time)
    (w : Writer) : now ≤ (w.writeFrame limits header body now).1.time := by
  rw [writeFrame]
  split
  · exact le_rfl
  · simp only [Timed.time_settle, Timed.time_map]
    exact le_time_writeRaw ..

/-- The writer refuses a body that does not fit before anything else. -/
theorem writeFrame_of_lt {header : Header} {body : Bytes} (hlong : Frame.maxBody < body.length)
    (w : Writer) : w.writeFrame limits header body now =
      (⟨some (.error (.tooLarge body.length)), now⟩, w) := by
  rw [writeFrame, if_pos hlong]

/-- **However the writing of a frame ends, pieces of a prefix of that frame were taken.** If the
writer reports success, they are the whole frame and a flush stands behind them, and otherwise none
does. -/
theorem exists_sent_writeFrame (limits : Limits) (header : Header) {body : Bytes}
    (hfits : body.length ≤ Frame.maxBody) (now : Time) (w : Writer) :
    ∃ pieces, (w.writeFrame limits header body now).2.sink.sent = w.sink.sent ++ pieces ++
        (if (w.writeFrame limits header body now).1.result? = some (.ok ()) then
          [.flush (w.writeFrame limits header body now).1.time] else []) ∧
      Sink.IsPieces pieces ∧ Sink.recorded pieces <+: (Frame.ofBody header body).encode ∧
      ((w.writeFrame limits header body now).1.result? = some (.ok ()) →
        Sink.recorded pieces = (Frame.ofBody header body).encode) := by
  obtain ⟨pieces, hsent, hpieces, hfront, hall⟩ := exists_sent_writeRaw limits
    { header with length := UInt16.ofNat body.length } body now w
  rw [writeFrame, if_neg (Nat.not_lt.2 hfits)]
  rcases hwrite : w.writeRaw limits { header with length := UInt16.ofNat body.length } body now with
    ⟨⟨outcome, time⟩, after⟩
  rw [hwrite] at hsent hall
  refine ⟨pieces, ?_, hpieces, hfront, ?_⟩
  · rcases outcome with (error | ⟨⟩) | _ | _ <;> exact hsent
  · rcases outcome with (error | ⟨⟩) | _ | _
    · exact nofun
    · exact fun _ ↦ hall rfl
    · exact nofun
    · exact nofun

/-- What is recorded of a frame is a prefix of it, and the whole of it if the writer reports
success. -/
theorem exists_recorded_writeFrame (limits : Limits) (header : Header) {body : Bytes}
    (hfits : body.length ≤ Frame.maxBody) (now : Time) (w : Writer) :
    ∃ record, (w.writeFrame limits header body now).2.sink.sent = w.sink.sent ++ record ∧
      Sink.recorded record <+: (Frame.ofBody header body).encode ∧
      ((w.writeFrame limits header body now).1.result? = some (.ok ()) →
        Sink.recorded record = (Frame.ofBody header body).encode) := by
  obtain ⟨pieces, hsent, -, hfront, hall⟩ := exists_sent_writeFrame limits header hfits now w
  rw [List.append_assoc] at hsent
  refine ⟨_, hsent, ?_⟩
  -- the flush adds an entry to the record, but no bytes
  have hflush (done : Prop) [Decidable done] (time : Time) :
      Sink.recorded (if done then [.flush time] else []) = [] := by
    split <;> rfl
  rw [Sink.recorded_append, hflush, List.append_nil]
  exact ⟨hfront, hall⟩

/-- **A frame that the writer reports as written has been flushed** behind its last byte. -/
theorem exists_flushed_writeFrame {header : Header} {body : Bytes} {w : Writer}
    (h : (w.writeFrame limits header body now).1.result? = some (.ok ())) :
    ∃ pieces time, (w.writeFrame limits header body now).2.sink.sent =
        w.sink.sent ++ pieces ++ [.flush time] ∧
      Sink.recorded pieces = (Frame.ofBody header body).encode := by
  rcases Nat.lt_or_ge Frame.maxBody body.length with hlong | hfits
  · rw [writeFrame_of_lt hlong] at h
    cases h
  · obtain ⟨pieces, hsent, -, -, hall⟩ := exists_sent_writeFrame limits header hfits now w
    rw [if_pos h] at hsent
    exact ⟨pieces, _, hsent, hall h⟩

/-- A failure to write a frame that fits leaves the stream of no further use. -/
theorem isBroken_of_writeFrame {header : Header} {body : Bytes}
    (hfits : body.length ≤ Frame.maxBody) {w : Writer} {error : FrameError}
    (h : (w.writeFrame limits header body now).1.result? = some (.error error)) :
    error.isBroken = true := by
  rw [writeFrame, if_neg (by omega)] at h
  rcases hwrite : w.writeRaw limits { header with length := UInt16.ofNat body.length } body now with
    ⟨⟨outcome, time⟩, after⟩
  rw [hwrite] at h
  rcases outcome with (failure | _) | _ | _
  · obtain rfl : FrameError.ofIo failure = error := Except.error.inj (Option.some.inj h)
    exact FrameError.isBroken_ofIo failure
  · cases h
  · cases h
    rfl
  · cases h

end Writer

end FramedExchange
