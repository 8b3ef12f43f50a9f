import FramedExchange.Proofs.Stream.Outcome
import FramedExchange.Proofs.Stream.WritingTime

/-!
# How the writing of a frame comes out

One call after another, a sink takes pieces of what is written until it has all of it or a call
fails (`Sink.Writes`), and then the flush succeeds or fails (`Sink.Flushes`). By each moment this
shows what becomes of the frame (`Sink.Shows`), and the writing comes out with what shows first,
unless its deadline passes before.

Wherever the writing ends, the sink has taken a prefix of the frame, and reported success means that
all of the frame was taken and flushed in time (`Writer.endsAsTaken_writeFrame`). Neither the length
in the header that is handed over matters, nor what an earlier frame has left in the buffer.
-/

namespace FramedExchange

namespace Frame

/-- The bytes that are to go out for a body under a header: the magic number, the version and the
code of the header, the length of the body, and the body. -/
def bytesOf (header : Header) (body : Bytes) : Bytes :=
  Bytes.ofNat 4 header.magic.toNat ++ (Bytes.ofNat 2 header.version.toNat ++
    (Bytes.ofNat 2 header.code.toNat ++ (Bytes.ofNat 2 body.length ++ body)))

/-- The length of a body that fits is not cut. -/
theorem encode_ofBody (header : Header) {body : Bytes} (hfits : body.length ≤ maxBody) :
    (ofBody header body).encode = bytesOf header body := by
  have hlength : (UInt16.ofNat body.length).toNat = body.length :=
    UInt16.toNat_ofNat_of_lt' (Nat.lt_succ_of_le hfits)
  simp only [encode, ofBody, Header.encode_eq_append, hlength, bytesOf, List.append_assoc]

end Frame

/-! ### What shows -/

namespace Sink

/-- What has come of the writing of bytes by a moment, as a script says. -/
inductive Writes (moment : Time) : Bytes → List (Scheduled Acceptance) → Except IoError Unit → Prop
  /-- Nothing is left to be taken. -/
  | whole (script : List (Scheduled Acceptance)) : Writes moment [] script (.ok ())
  /-- Behind the script everything is taken at once. -/
  | rest (bytes : Bytes) : Writes moment bytes [] (.ok ())
  /-- A call takes a piece, and the next one is made with what is left. -/
  | piece {due : Time} {most : ℕ} {bytes : Bytes} {script : List (Scheduled Acceptance)}
      {result : Except IoError Unit} (hleft : bytes ≠ []) (hdue : due ≤ moment) (hmost : 0 < most)
      (h : Writes moment (bytes.drop most) script result) :
      Writes moment bytes (⟨due, .take most⟩ :: script) result
  /-- A call takes nothing. -/
  | nothing {due : Time} {bytes : Bytes} {script : List (Scheduled Acceptance)}
      (hleft : bytes ≠ []) (hdue : due ≤ moment) :
      Writes moment bytes (⟨due, .take 0⟩ :: script) (.error .nothingWritten)
  /-- A call is interrupted, and made again. -/
  | again {due : Time} {error : IoError} {bytes : Bytes} {script : List (Scheduled Acceptance)}
      {result : Except IoError Unit} (hleft : bytes ≠ []) (hdue : due ≤ moment)
      (hkind : error.kind = .interrupted) (h : Writes moment bytes script result) :
      Writes moment bytes (⟨due, .failure error⟩ :: script) result
  /-- A call fails. -/
  | failed {due : Time} {error : IoError} {bytes : Bytes} {script : List (Scheduled Acceptance)}
      (hleft : bytes ≠ []) (hdue : due ≤ moment) (hkind : error.kind ≠ .interrupted) :
      Writes moment bytes (⟨due, .failure error⟩ :: script) (.error error)

/-- What has come of one flush by a moment, as a script says. -/
inductive Flushes (moment : Time) : List (Scheduled Completion) → Except IoError Unit → Prop
  /-- Behind the script every flush succeeds at once. -/
  | rest : Flushes moment [] (.ok ())
  | success {due : Time} {script : List (Scheduled Completion)} (hdue : due ≤ moment) :
      Flushes moment (⟨due, .success⟩ :: script) (.ok ())
  | failed {due : Time} {error : IoError} {script : List (Scheduled Completion)}
      (hdue : due ≤ moment) : Flushes moment (⟨due, .failure error⟩ :: script) (.error error)

/-- What has made the writing or the flush fail by a moment. -/
inductive Fails (sink : Sink) (bytes : Bytes) (moment : Time) (error : IoError) : Prop
  | writing (hwrites : Writes moment bytes sink.writes (.error error))
  | flushing (hwrites : Writes moment bytes sink.writes (.ok ()))
      (hflushes : Flushes moment sink.flushes (.error error))

/-- What has become by a moment of a frame of which these are the bytes. -/
inductive Shows (sink : Sink) (bytes : Bytes) (moment : Time) : Except FrameError Unit → Prop
  /-- It has been taken and flushed. -/
  | sent (hwrites : Writes moment bytes sink.writes (.ok ()))
      (hflushes : Flushes moment sink.flushes (.ok ())) : Shows sink bytes moment (.ok ())
  /-- The stream has ended. -/
  | closed {error : IoError} (hfails : sink.Fails bytes moment error)
      (hkind : error.kind = .unexpectedEof) : Shows sink bytes moment (.error .closed)
  /-- The stream has failed. -/
  | failed {error : IoError} (hfails : sink.Fails bytes moment error)
      (hkind : error.kind ≠ .unexpectedEof) : Shows sink bytes moment (.error (.io error))

variable {sink : Sink} {moment : Time} {bytes : Bytes} {result : Except IoError Unit}

/-- **What has come of a writing is what is decided about it.** -/
theorem writtenBy?_eq_some_iff {script : List (Scheduled Acceptance)} :
    writtenBy? bytes script moment = some result ↔ Writes moment bytes script result := by
  constructor
  · intro h
    -- each call uses up one item of the script and leaves bytes for the rest of it
    induction script generalizing bytes with
    | nil =>
      cases bytes with
      | nil | cons => cases h; exact .rest _
    | cons item script ih =>
      obtain ⟨due, event⟩ := item
      rcases bytes with - | ⟨byte, bytes⟩
      · cases h
        exact .whole _
      have hleft : byte :: bytes ≠ [] := List.cons_ne_nil byte bytes
      simp only [writtenBy?] at h
      split at h
      · cases h
      rename_i hdue
      replace hdue := Nat.le_of_not_lt hdue
      rcases event with (- | most) | error | -
      · cases h
        exact .nothing hleft hdue
      · exact .piece hleft hdue (Nat.succ_pos most) (ih h)
      · by_cases hkind : error.kind = .interrupted
        · simp only [if_pos hkind] at h
          exact .again hleft hdue hkind (ih h)
        · simp only [if_neg hkind] at h
          cases h
          exact .failed hleft hdue hkind
      · cases h
  · intro h
    induction h with
    | whole script => rw [writtenBy?]
    | rest bytes => cases bytes <;> rfl
    | @piece due most bytes script result hleft hdue hmost _ ih =>
      obtain ⟨byte, bytes, rfl⟩ := List.exists_cons_of_ne_nil hleft
      obtain ⟨most, rfl⟩ := Nat.exists_eq_succ_of_ne_zero hmost.ne'
      exact (if_neg (Nat.not_lt.2 hdue)).trans ih
    | nothing hleft hdue =>
      obtain ⟨byte, bytes, rfl⟩ := List.exists_cons_of_ne_nil hleft
      exact if_neg (Nat.not_lt.2 hdue)
    | again hleft hdue hkind _ ih =>
      obtain ⟨byte, bytes, rfl⟩ := List.exists_cons_of_ne_nil hleft
      exact (if_neg (Nat.not_lt.2 hdue)).trans ((if_pos hkind).trans ih)
    | failed hleft hdue hkind =>
      obtain ⟨byte, bytes, rfl⟩ := List.exists_cons_of_ne_nil hleft
      exact (if_neg (Nat.not_lt.2 hdue)).trans (if_neg hkind)

theorem calledBy?_eq_some_iff {script : List (Scheduled Completion)} :
    calledBy? script moment = some result ↔ Flushes moment script result := by
  constructor
  · intro h
    rcases script with - | ⟨⟨due, event⟩, script⟩
    · cases h
      exact .rest
    rw [calledBy?] at h
    split at h
    · cases h
    rename_i hdue
    rcases event with - | error | -
    · cases h
      exact .success (Nat.le_of_not_lt hdue)
    · cases h
      exact .failed (Nat.le_of_not_lt hdue)
    · cases h
  · rintro (- | hdue | hdue)
    · rfl
    · exact if_neg (Nat.not_lt.2 hdue)
    · exact if_neg (Nat.not_lt.2 hdue)

theorem flushedBy?_eq_ok_iff : sink.flushedBy? bytes moment = some (.ok ()) ↔
    Writes moment bytes sink.writes (.ok ()) ∧ Flushes moment sink.flushes (.ok ()) := by
  rw [← writtenBy?_eq_some_iff, ← calledBy?_eq_some_iff, flushedBy?]
  rcases writtenBy? bytes sink.writes moment with - | error | ⟨⟩ <;> simp

theorem flushedBy?_eq_error_iff {error : IoError} :
    sink.flushedBy? bytes moment = some (.error error) ↔ sink.Fails bytes moment error := by
  constructor
  · intro h
    rw [flushedBy?] at h
    rcases hwritten : writtenBy? bytes sink.writes moment with - | failure | ⟨⟩
    all_goals rw [hwritten] at h
    · cases h
    · cases h
      exact .writing (writtenBy?_eq_some_iff.1 hwritten)
    · exact .flushing (writtenBy?_eq_some_iff.1 hwritten) (calledBy?_eq_some_iff.1 h)
  · rintro (hwrites | ⟨hwrites, hflushes⟩)
    · rw [flushedBy?, writtenBy?_eq_some_iff.2 hwrites]
    · rw [flushedBy?, writtenBy?_eq_some_iff.2 hwrites]
      exact calledBy?_eq_some_iff.2 hflushes

end Sink

namespace Writer

/-- **What shows is what is decided about the frame.** -/
theorem frameBy?_eq_some_iff {w : Writer} {frame : Frame} {moment : Time}
    {result : Except FrameError Unit} :
    w.frameBy? frame moment = some result ↔ w.sink.Shows frame.encode moment result := by
  constructor
  · intro h
    obtain ⟨error | ⟨⟩, hfound, rfl⟩ := Option.map_eq_some_iff.1 h
    · have hfails := Sink.flushedBy?_eq_error_iff.1 hfound
      rw [Except.mapError, FrameError.ofIo]
      split
      · rename_i hkind
        exact .closed hfails hkind
      · rename_i hkind
        exact .failed hfails hkind
    · obtain ⟨hwrites, hflushes⟩ := Sink.flushedBy?_eq_ok_iff.1 hfound
      exact .sent hwrites hflushes
  · rw [frameBy?]
    rintro (⟨hwrites, hflushes⟩ | ⟨hfails, hkind⟩ | ⟨hfails, hkind⟩)
    · rw [Sink.flushedBy?_eq_ok_iff.2 ⟨hwrites, hflushes⟩]
      rfl
    · rw [Sink.flushedBy?_eq_error_iff.2 hfails, Option.map_some, Except.mapError, FrameError.ofIo,
        if_pos hkind]
    · rw [Sink.flushedBy?_eq_error_iff.2 hfails, Option.map_some, Except.mapError, FrameError.ofIo,
        if_neg hkind]

/-! ### How a writing comes out -/

/-- How the writing of a body under a header that begins `now` ends. -/
structure EndsAsTaken (deadline : Option Time) (now : Time) (header : Header) (body : Bytes)
    (w : Writer) (written : Settled (Except FrameError Unit) × Writer) : Prop where
  /-- A body that does not fit is refused, and nothing has been done. -/
  tooLarge : Frame.maxBody < body.length →
    written = (⟨some (.error (.tooLarge body.length)), now⟩, w)
  /-- The result is what shows first, or else the deadline that passes. -/
  comesOut : body.length ≤ Frame.maxBody → written.1.ComesOut deadline now
    (w.sink.Shows (Frame.bytesOf header body)) fun _ ↦ .error .timeout
  /-- However it ends, the sink has taken a prefix of the bytes that are to go out. -/
  taken : body.length ≤ Frame.maxBody → ∃ record,
    written.2.sink.sent = w.sink.sent ++ record ∧
      Sink.recorded record <+: Frame.bytesOf header body
  /-- Success is reported exactly if it has taken all of them and was flushed in time after that. -/
  success : body.length ≤ Frame.maxBody → (written.1.result? = some (.ok ()) ↔ ∃ pieces time,
    written.2.sink.sent = w.sink.sent ++ pieces ++ [.flush time] ∧
      Sink.recorded pieces = Frame.bytesOf header body ∧
      ∀ last, deadline = some last → time ≤ max now last)
  /-- Neither the length in the header matters nor what was in the buffer. -/
  unaffected : ∀ length buffer,
    let other := Writer.writeFrame ⟨deadline, none⟩ { header with length } body now ⟨buffer, w.sink⟩
    other.1 = written.1 ∧ other.2.sink = written.2.sink
  /-- Only the refusal leaves the stream of further use. -/
  broken : ∀ error, written.1.result? = some (.error error) →
    (error.isBroken = false ↔ error = .tooLarge body.length)

variable {body : Bytes}

/-- The length in the header is replaced. -/
theorem writeFrame_withLength (limits : Limits) (header : Header) (length : UInt16) (body : Bytes)
    (now : Time) (w : Writer) :
    w.writeFrame limits { header with length } body now = w.writeFrame limits header body now := by
  rw [writeFrame, writeFrame]

theorem comesOut_writeFrame (deadline : Option Time) (now : Time) (header : Header)
    (hfits : body.length ≤ Frame.maxBody) (w : Writer) :
    (w.writeFrame ⟨deadline, none⟩ header body now).1.ComesOut deadline now
      (w.sink.Shows (Frame.bytesOf header body)) fun _ ↦ .error .timeout := by
  obtain ⟨t, hfollows, hwritten⟩ :=
    exists_follows_writeFrame (allows_deadlineFrom now deadline) header hfits w
  have hout := hfollows.comesOut (w.isLasting_frameBy? (Frame.ofBody header body))
    (fun _ _ ↦ frameBy?_eq_some_iff) fun _ ↦ .error .timeout
  rwa [← hwritten, writeFrame_agreeFrom (agreeFrom_deadlineFrom now deadline),
    Frame.encode_ofBody header hfits] at hout

/-- **The writing of a frame comes out as the sink takes it**, whatever the sink does with it,
whatever was left in the buffer and whatever the deadline is. -/
theorem endsAsTaken_writeFrame (deadline : Option Time) (now : Time) (header : Header)
    (body : Bytes) (w : Writer) : w.EndsAsTaken deadline now header body
      (w.writeFrame ⟨deadline, none⟩ header body now) where
  tooLarge hlong := writeFrame_of_lt hlong w
  comesOut hfits := comesOut_writeFrame deadline now header hfits w
  taken hfits := by
    obtain ⟨record, hsent, hfront, -⟩ :=
      exists_recorded_writeFrame ⟨deadline, none⟩ header hfits now w
    exact ⟨record, hsent, Frame.encode_ofBody header hfits ▸ hfront⟩
  success hfits := by
    have hout := comesOut_writeFrame deadline now header hfits w
    obtain ⟨pieces, hsent, hpieces, -, hall⟩ :=
      exists_sent_writeFrame ⟨deadline, none⟩ header hfits now w
    constructor
    · intro hok
      rw [if_pos hok] at hsent
      exact ⟨pieces, _, hsent, Frame.encode_ofBody header hfits ▸ hall hok,
        fun last hlast ↦ hout.time_le hlast⟩
    · rintro ⟨others, time, hflushed, -⟩
      -- without success no flush has been recorded
      by_contra hfail
      rw [if_neg hfail, List.append_nil] at hsent
      rw [hsent, List.append_assoc] at hflushed
      have hflush : .flush time ∈ pieces := by
        rw [List.append_cancel_left hflushed]
        exact List.mem_append_right _ (List.mem_singleton_self _)
      obtain ⟨_, _, hentry⟩ := hpieces _ hflush
      cases hentry
  unaffected length buffer := by
    have hsink : (⟨buffer, w.sink⟩ : Writer).sink = w.sink := rfl
    simp only [writeFrame_withLength]
    exact writeFrame_congr hsink ⟨deadline, none⟩ header body now
  broken error herror := by
    rcases Nat.lt_or_ge Frame.maxBody body.length with hlong | hfits
    · rw [writeFrame_of_lt hlong] at herror
      cases herror
      exact ⟨fun _ ↦ rfl, fun _ ↦ rfl⟩
    · have hbroken := isBroken_of_writeFrame hfits herror
      constructor
      · intro hunbroken
        rw [hunbroken] at hbroken
        cases hbroken
      · rintro rfl
        rfl

/-- A call that was interrupted is not what makes the writing fail: it is made again. -/
theorem writeFrame_of_interrupted :
    let interrupted : IoError := ⟨.interrupted, "interrupted"⟩
    let sink : Sink := .ofScripts [⟨0, .failure interrupted⟩, ⟨0, .stall⟩] [] []
    let written := Writer.writeFrame ⟨some 50, none⟩ (Header.make 7 0) [104, 105] 0
      ⟨.withCapacity 64, sink⟩
    written.1 = ⟨some (.error .timeout), 50⟩ ∧ FrameError.timeout ≠ .ofIo interrupted := by
  decide +kernel

end Writer

end FramedExchange
