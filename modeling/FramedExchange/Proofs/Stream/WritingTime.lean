import FramedExchange.Proofs.Stream.Decision
import FramedExchange.Proofs.Stream.Writing

/-!
# When a frame has been written

The scripts of a sink say how much of what is written has been taken by each moment, and so what is
decided by then about the writing (`Sink.writtenBy?`) and about the flush that follows it
(`Sink.flushedBy?`). What has been decided stays decided.

The writing of a frame follows this decision, in however many pieces the frame is taken, and with
its flush under the same deadline (`Writer.follows_writeRaw`).
-/

namespace FramedExchange

namespace Sink

/-- What is decided by a moment about the writing of bytes, as a script says. -/
def writtenBy? : Bytes → List (Scheduled Acceptance) → Time → Option (Except IoError Unit)
  | [], _, _ => some (.ok ())
  | _, [], _ => some (.ok ())
  | bytes, item :: rest, moment =>
    if moment < item.due then none
    else
      match item.event with
      | .take 0 => some (.error .nothingWritten)
      | .take most => writtenBy? (bytes.drop most) rest moment
      | .failure error =>
        if error.kind = .interrupted then writtenBy? bytes rest moment else some (.error error)
      | .stall => none

/-- What is decided by a moment about one call, as a script says. -/
def calledBy? (script : List (Scheduled Completion)) (moment : Time) :
    Option (Except IoError Unit) :=
  match script with
  | [] => some (.ok ())
  | item :: _ =>
    if moment < item.due then none
    else
      match item.event with
      | .success => some (.ok ())
      | .failure error => some (.error error)
      | .stall => none

/-- What is decided by a moment about the writing of bytes with a flush behind them. -/
def flushedBy? (sink : Sink) (bytes : Bytes) (moment : Time) : Option (Except IoError Unit) :=
  match writtenBy? bytes sink.writes moment with
  | some (.ok ()) => calledBy? sink.flushes moment
  | undone => undone

/-! ### What is decided stays decided -/

theorem isLasting_writtenBy? (bytes : Bytes) (script : List (Scheduled Acceptance)) :
    IsLasting (writtenBy? bytes script) := by
  intro moment later hle result hwritten
  induction script generalizing bytes with
  | nil =>
    cases bytes with
    | nil => exact hwritten
    | cons byte bytes => exact hwritten
  | cons item rest ih =>
    obtain ⟨due, event⟩ := item
    cases bytes with
    | nil => exact hwritten
    | cons byte bytes =>
      simp only [writtenBy?] at hwritten ⊢
      by_cases hdue : moment < due
      · rw [if_pos hdue] at hwritten
        cases hwritten
      · rw [if_neg hdue] at hwritten
        rw [if_neg (Nat.not_lt.2 ((Nat.le_of_not_lt hdue).trans hle))]
        rcases event with (- | most) | error | -
        · exact hwritten
        · exact ih _ hwritten
        · by_cases hkind : error.kind = .interrupted
          · simp only [if_pos hkind] at hwritten ⊢
            exact ih _ hwritten
          · simp only [if_neg hkind] at hwritten ⊢
            exact hwritten
        · cases hwritten

theorem isLasting_calledBy? (script : List (Scheduled Completion)) :
    IsLasting (calledBy? script) := by
  intro moment later hle result hcalled
  cases script with
  | nil => exact hcalled
  | cons item rest =>
    rw [calledBy?] at hcalled ⊢
    by_cases hdue : moment < item.due
    · rw [if_pos hdue] at hcalled
      cases hcalled
    · rw [if_neg hdue] at hcalled
      rwa [if_neg (Nat.not_lt.2 ((Nat.le_of_not_lt hdue).trans hle))]

theorem isLasting_flushedBy? (sink : Sink) (bytes : Bytes) : IsLasting (sink.flushedBy? bytes) := by
  intro moment later hle result hflushed
  rw [flushedBy?] at hflushed ⊢
  rcases hwritten : writtenBy? bytes sink.writes moment with - | error | done
  · rw [hwritten] at hflushed
    cases hflushed
  · rw [hwritten] at hflushed
    rw [isLasting_writtenBy? bytes sink.writes hle hwritten]
    exact hflushed
  · rw [hwritten] at hflushed
    rw [isLasting_writtenBy? bytes sink.writes hle hwritten]
    exact isLasting_calledBy? sink.flushes hle hflushed

/-! ### Writing and flushing follow what is decided -/

variable {deadline : Option Time} {now : Time}

/-- **Writing ends as soon as it is decided.** -/
theorem follows_writeScript (hnow : Limits.allows deadline now) (bytes : Bytes)
    (script : List (Scheduled Acceptance)) :
    Timed.Follows deadline now (writtenBy? bytes script)
      (writeScript ⟨deadline, none⟩ now bytes script).1 := by
  induction script generalizing now bytes with
  | nil => cases bytes <;> exact .atOnce hnow rfl
  | cons item rest ih =>
    obtain ⟨due, event⟩ := item
    rcases bytes with - | ⟨byte, bytes⟩
    · exact .atOnce hnow rfl
    have hbefore (moment : Time)
        (hearly : ∀ there, dueOfWrite ⟨due, event⟩ = some there → moment < there) :
        writtenBy? (byte :: bytes) (⟨due, event⟩ :: rest) moment = none := by
      cases event with
      | take | failure => exact if_pos (hearly due rfl)
      | stall => exact ite_self _
    have hthere {moment : Time} (hge : max now due ≤ moment) : ¬moment < due :=
      Nat.not_lt.2 ((Nat.le_max_right ..).trans hge)
    simp only [writeScript]
    rcases Timed.Follows.await_cases hnow hbefore with
      ⟨_, hdueOf, hdue, hawait, hgoOn⟩ | ⟨last, hawait, hlate⟩ | ⟨hawait, hhanging⟩
    all_goals rw [hawait]
    · rcases event with (- | most) | error | -
      all_goals cases hdueOf
      · exact hgoOn _ (.atOnce hdue (if_neg (hthere le_rfl)))
      · refine hgoOn _ ((ih hdue ((byte :: bytes).drop (most + 1))).congr fun moment hge ↦ ?_)
        exact if_neg (hthere hge)
      · -- an interrupted call is made again, with the same bytes
        by_cases hkind : error.kind = .interrupted
        · simp only [if_pos hkind]
          refine hgoOn _ ((ih hdue (byte :: bytes)).congr fun moment hge ↦ ?_)
          exact (if_neg (hthere hge)).trans (if_pos hkind)
        · simp only [if_neg hkind]
          exact hgoOn _ (.atOnce hdue ((if_neg (hthere le_rfl)).trans (if_neg hkind)))
    · exact hlate
    · exact hhanging

theorem follows_callScript (hnow : Limits.allows deadline now)
    (script : List (Scheduled Completion)) :
    Timed.Follows deadline now (calledBy? script) (callScript ⟨deadline, none⟩ now script).1 := by
  rcases script with - | ⟨⟨due, event⟩, rest⟩
  · exact .atOnce hnow rfl
  have hbefore (moment : Time)
      (hearly : ∀ there, dueOfCall ⟨due, event⟩ = some there → moment < there) :
      calledBy? (⟨due, event⟩ :: rest) moment = none := by
    cases event with
    | success | failure => exact if_pos (hearly due rfl)
    | stall => exact ite_self _
  have hthere : ¬max now due < due := Nat.not_lt.2 (Nat.le_max_right ..)
  rw [callScript]
  rcases Timed.Follows.await_cases hnow hbefore with
    ⟨_, hdueOf, hdue, hawait, hgoOn⟩ | ⟨last, hawait, hlate⟩ | ⟨hawait, hhanging⟩
  all_goals rw [hawait]
  · cases event with
    | success | failure =>
      cases hdueOf
      exact hgoOn _ (.atOnce hdue (if_neg hthere))
    | stall => cases hdueOf
  · exact hlate
  · exact hhanging

end Sink

namespace Writer

variable {deadline : Option Time} {now : Time}

/-- **A header and a body are written as soon as that is decided**, the flush included. -/
theorem follows_writeRaw (hnow : Limits.allows deadline now) (header : Header) (body : Bytes)
    (w : Writer) :
    Timed.Follows deadline now (w.sink.flushedBy? (header.encode ++ body))
      (w.writeRaw ⟨deadline, none⟩ header body now).1 := by
  have hundecided {moment : Time}
      (h : Sink.writtenBy? (header.encode ++ body) w.sink.writes moment = none) :
      w.sink.flushedBy? (header.encode ++ body) moment = none := by
    rw [Sink.flushedBy?, h]
  have hwritten := Sink.follows_writeScript hnow (header.encode ++ body) w.sink.writes
  simp only [writeRaw, bytes_assemble, Sink.writeAll]
  rcases hwrite : Sink.writeScript ⟨deadline, none⟩ now (header.encode ++ body) w.sink.writes with
    ⟨⟨outcome, time⟩, writes, sent⟩
  rw [hwrite] at hwritten
  cases hwritten with
  | done hle htime hdecided hbefore =>
    rename_i result
    cases result with
    | error error =>
      refine .done hle htime ?_ fun moment hge hlt ↦ hundecided (hbefore moment hge hlt)
      rw [Sink.flushedBy?, hdecided]
    | ok =>
      refine ((Sink.follows_callScript htime w.sink.flushes).congr fun moment hge ↦ ?_).goOn hle
        fun moment hge hlt ↦ hundecided (hbefore moment hge hlt)
      have hstill := Sink.isLasting_writtenBy? _ _ hge hdecided
      rw [Sink.flushedBy?, hstill]
  | elapsed hle hdeadline hsilent =>
    exact .elapsed hle hdeadline fun moment hge hlast ↦ hundecided (hsilent moment hge hlast)
  | hanging _ hdeadline hsilent =>
    exact .hanging time hdeadline fun moment hge ↦ hundecided (hsilent moment hge)

/-! ### Frames -/

/-- What is decided by each moment about the frame that a writer writes. -/
def frameBy? (frame : Frame) (w : Writer) (moment : Time) : Option (Except FrameError Unit) :=
  (w.sink.flushedBy? frame.encode moment).map fun result ↦ result.mapError .ofIo

theorem isLasting_frameBy? (frame : Frame) (w : Writer) : IsLasting (w.frameBy? frame) := by
  intro moment later hle result hframe
  obtain ⟨found, hfound, rfl⟩ := Option.map_eq_some_iff.1 hframe
  exact congrArg (Option.map _) (w.sink.isLasting_flushedBy? _ hle hfound)

/-- An error that is decided about a frame is one of the stream. -/
theorem frameBy?_eq_error {frame : Frame} {w : Writer} {moment : Time} {error : FrameError}
    (h : w.frameBy? frame moment = some (.error error)) : ∃ failure, error = .ofIo failure := by
  obtain ⟨failure | done, -, hresult⟩ := Option.map_eq_some_iff.1 h
  · exact ⟨failure, (Except.error.inj hresult).symm⟩
  · cases hresult

/-- **The writing of a frame that fits ends as soon as it is decided about the frame**, or exactly
at the deadline. -/
theorem exists_follows_writeFrame (hnow : Limits.allows deadline now) (header : Header)
    {body : Bytes} (hfits : body.length ≤ Frame.maxBody) (w : Writer) :
    ∃ t, Timed.Follows deadline now (w.frameBy? (Frame.ofBody header body)) t ∧
      (w.writeFrame ⟨deadline, none⟩ header body now).1 = t.settle (.error .timeout) := by
  have hwritten := (follows_writeRaw hnow { header with length := UInt16.ofNat body.length } body
    w).map fun result ↦ result.mapError FrameError.ofIo
  rw [writeFrame, if_neg (Nat.not_lt.2 hfits)]
  exact ⟨_, hwritten, rfl⟩

/-- **A frame that fits is written in time**, in however many pieces. -/
theorem isInTime_writeFrame (header : Header) {body : Bytes} (hfits : body.length ≤ Frame.maxBody)
    (timeout since : Time) (w : Writer) :
    (w.writeFrame ⟨deadlineAfter since timeout, none⟩ header body since).1.IsInTime
      (.error .timeout) timeout since (w.frameBy? (Frame.ofBody header body)) := by
  have hsince : Limits.allows (deadlineAfter since timeout) since :=
    allows_deadlineAfter_iff.2 (.inr (Nat.le_add_right ..))
  obtain ⟨t, hfollows, hwritten⟩ := exists_follows_writeFrame hsince header hfits w
  rw [hwritten]
  exact hfollows.isInTime (w.isLasting_frameBy? (Frame.ofBody header body)) _

end Writer

end FramedExchange
