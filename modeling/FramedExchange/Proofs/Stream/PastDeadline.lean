import FramedExchange.Proofs.Stream.Arrival
import FramedExchange.Proofs.Stream.Resuming
import FramedExchange.Proofs.Stream.Writing

/-!
# A deadline in the past passes at once

What is possible already happens even past the deadline, and what has to be waited for is given up
at once there. So a deadline that lies in the past bounds what begins now just as a deadline that is
now (`deadlineFrom`). Bounds that agree from a moment on (`Limits.AgreeFrom`) make no difference to
what is read or written from that moment on.
-/

namespace FramedExchange

/-- The deadline as it bounds what begins `now`. -/
def deadlineFrom (now : Time) (deadline : Option Time) : Option Time := deadline.map (max now)

variable {now later : Time} {deadline : Option Time} {limits limits' : Limits}

theorem allows_deadlineFrom_iff {moment : Time} : Limits.allows (deadlineFrom now deadline) moment ↔
    ∀ last, deadline = some last → moment ≤ max now last := by
  cases deadline with
  | none => exact ⟨fun _ ↦ nofun, fun _ ↦ rfl⟩
  | some last =>
    refine decide_eq_true_iff.trans ⟨?_, fun h ↦ h last rfl⟩
    rintro h _ ⟨⟩
    exact h

theorem allows_deadlineFrom (now : Time) (deadline : Option Time) :
    Limits.allows (deadlineFrom now deadline) now :=
  allows_deadlineFrom_iff.2 fun _ _ ↦ Nat.le_max_left ..

namespace Limits

/-- Bounds that come to the same for every wait from a moment on. -/
structure AgreeFrom (now : Time) (limits limits' : Limits) : Prop where
  await : ∀ {time : Time}, now ≤ time → ∀ due,
    FramedExchange.await limits time due = FramedExchange.await limits' time due
  giveUp : ∀ {α : Type} {time : Time}, now ≤ time →
    (FramedExchange.giveUp limits time : Timed α) = FramedExchange.giveUp limits' time

namespace AgreeFrom

theorem mono (h : limits.AgreeFrom now limits') (hle : now ≤ later) :
    limits.AgreeFrom later limits' :=
  ⟨fun hlater ↦ h.await (hle.trans hlater), fun hlater ↦ h.giveUp (hle.trans hlater)⟩

/-- A wait that has begun later bounds what goes on behind it alike. -/
theorem after (h : limits.AgreeFrom now limits') {due : Option Time} {outcome : Outcome Unit}
    {time : Time} (hawait : FramedExchange.await limits' now due = ⟨outcome, time⟩) :
    limits.AgreeFrom time limits' := by
  have hle := le_time_await limits' now due
  rw [hawait] at hle
  exact h.mono hle

end AgreeFrom

end Limits

/-- **A deadline in the past bounds a wait like one that is now.** -/
theorem agreeFrom_deadlineFrom (now : Time) (deadline : Option Time) :
    Limits.AgreeFrom now ⟨deadlineFrom now deadline, none⟩ ⟨deadline, none⟩ := by
  cases deadline with
  | none => exact ⟨fun _ _ ↦ rfl, fun _ ↦ rfl⟩
  | some last =>
    have hgive {α : Type} {time : Time} (hle : now ≤ time) :
        (giveUp ⟨some (max now last), none⟩ time : Timed α) =
          giveUp ⟨some last, none⟩ time := by
      show (⟨.elapsed, max time (max now last)⟩ : Timed α) = ⟨.elapsed, max time last⟩
      rw [← Nat.max_assoc, Nat.max_eq_left hle]
    refine ⟨fun {time} hle due ↦ ?_, hgive⟩
    show await ⟨some (max now last), none⟩ time due = _
    cases due with
    | none => exact hgive hle
    | some moment =>
      rw [await, await]
      split
      · rfl
      · -- a moment that is still to come is not before `now`
        rename_i hlater
        have hsame :
            Limits.allows (some (max now last)) moment = Limits.allows (some last) moment := by
          have hnow : ¬moment ≤ now := Nat.not_le.2 (hle.trans_lt (Nat.lt_of_not_le hlater))
          exact decide_eq_decide.2 (le_max_iff.trans (or_iff_right hnow))
        rw [hsame, hgive hle]

/-! ### Reading -/

namespace Source

theorem readScript_agreeFrom (h : limits.AgreeFrom now limits') (space : ℕ)
    (script : List (Scheduled Arrival)) :
    readScript limits space now script = readScript limits' space now script := by
  induction script generalizing now with
  | nil => rw [readScript, readScript, h.giveUp le_rfl]
  | cons item rest ih =>
    rw [readScript, readScript, h.await le_rfl]
    rcases hawait : await limits' now (dueOf item) with ⟨⟨⟩ | _ | _, time⟩
    · have hafter := h.after hawait
      simp only [ih hafter, hafter.giveUp le_rfl]
    · rfl
    · rfl

theorem read_agreeFrom (h : limits.AgreeFrom now limits') (space : ℕ) (source : Source) :
    source.read limits now space = source.read limits' now space := by
  rw [read, read, readScript_agreeFrom h]

end Source

namespace Reader

variable {r : Reader}

theorem fetch_agreeFrom (h : limits.AgreeFrom now limits') (n : ℕ) (r : Reader) :
    r.fetch limits n now = r.fetch limits' n now := by
  fun_induction fetch limits' n now r with
  | case1 now r henough => rw [fetch, if_pos henough]
  | case2 now r hfew buffer byte bytes time source hread ih =>
    have hle :=
      Source.le_time_readScript limits' (min buffer.spare r.source.burst) now r.source.script
    have htime : now ≤ time := hle.trans_eq (congrArg (·.1.time) hread)
    rw [← Source.read_agreeFrom h] at hread
    rw [fetch_of_read_data hfew hread, ih (h.mono htime)]
  | case3 now r hfew buffer time source hread | case4 now r hfew buffer error time source hread
  | case5 now r hfew buffer time source hread | case6 now r hfew buffer time source hread =>
    rw [← Source.read_agreeFrom h] at hread
    rw [fetch_of_read_nothing hfew hread rfl]
    rfl

theorem take_agreeFrom (h : limits.AgreeFrom now limits') (n : ℕ) (r : Reader) :
    r.take limits n now = r.take limits' n now := by
  rw [take, take, fetch_agreeFrom h]

theorem readFrame_agreeFrom (h : limits.AgreeFrom now limits') (r : Reader) :
    r.readFrame limits now = r.readFrame limits' now := by
  have hle := le_time_take limits' Header.size now r
  rw [readFrame, readFrame, take_agreeFrom h]
  rcases htake : r.take limits' Header.size now with ⟨⟨outcome, time⟩, r'⟩
  rw [htake] at hle
  have hbody (header : Header) :
      r'.readBody limits header time = r'.readBody limits' header time := by
    rw [readBody, readBody, take_agreeFrom (h.mono hle)]
  rcases outcome with (error | raw) | _ | _
  · rfl
  · rcases hdecode : Header.decode raw with error | header
    · simp only [hdecode]
    · simp only [hdecode, hbody]
  · rfl
  · rfl

end Reader

/-! ### Writing -/

namespace Sink

theorem writeScript_agreeFrom (h : limits.AgreeFrom now limits') (bytes : Bytes)
    (script : List (Scheduled Acceptance)) :
    writeScript limits now bytes script = writeScript limits' now bytes script := by
  induction script generalizing now bytes with
  | nil => cases bytes <;> rfl
  | cons item rest ih =>
    cases bytes with
    | nil => rfl
    | cons byte bytes =>
      simp only [writeScript, h.await le_rfl]
      rcases hawait : await limits' now (dueOfWrite item) with ⟨⟨⟩ | _ | _, time⟩
      · have hafter := h.after hawait
        simp only [ih hafter, hafter.giveUp le_rfl]
      · rfl
      · rfl

theorem callScript_agreeFrom (h : limits.AgreeFrom now limits')
    (script : List (Scheduled Completion)) :
    callScript limits now script = callScript limits' now script := by
  cases script with
  | nil => rfl
  | cons item rest =>
    rw [callScript, callScript, h.await le_rfl]
    rcases hawait : await limits' now (dueOfCall item) with ⟨⟨⟩ | _ | _, time⟩
    · simp only [(h.after hawait).giveUp le_rfl]
    · rfl
    · rfl

end Sink

namespace Writer

theorem writeRaw_agreeFrom (h : limits.AgreeFrom now limits') (header : Header) (body : Bytes)
    (w : Writer) : w.writeRaw limits header body now = w.writeRaw limits' header body now := by
  have hle :=
    Sink.le_time_writeScript limits' now (assemble header body w.buffer).bytes w.sink.writes
  simp only [writeRaw, Sink.writeAll, Sink.flush, Sink.writeScript_agreeFrom h]
  rcases hwrite :
      Sink.writeScript limits' now (assemble header body w.buffer).bytes w.sink.writes with
    ⟨⟨outcome, time⟩, writes, sent⟩
  rw [hwrite] at hle
  rcases outcome with (error | ⟨⟩) | _ | _
  · rfl
  · simp only [Sink.callScript_agreeFrom (h.mono hle)]
  · rfl
  · rfl

theorem writeFrame_agreeFrom (h : limits.AgreeFrom now limits') (header : Header) (body : Bytes)
    (w : Writer) : w.writeFrame limits header body now = w.writeFrame limits' header body now := by
  rw [writeFrame, writeFrame, writeRaw_agreeFrom h]

end Writer

end FramedExchange
