import FramedExchange.Proofs.Stream.Resuming

/-!
# Reads may be given up at any moment

A reader is asked for one operation after another: to show what comes next, or to take so many
bytes. Each may be cut off by a deadline of its own, or fail with the stream. Whatever has happened
before (`Reader.Leads`), the bytes that were taken, those in the buffer and those that the source
still holds are the whole stream, and the next operation takes the bytes that it returns or none
(`Reader.isCancelSafe_of_leads`).

An operation that was cut off, once or many times (`Operation.CutOff`), can be made again: without a
deadline, or under one that is not missed, it comes to what it would have come to at first.
-/

namespace FramedExchange.Reader

/-- What a reader may be asked for. -/
inductive Operation
  /-- To show the bytes in the buffer, once there are any. -/
  | peek
  /-- To take exactly so many bytes, whoever provides the room for them. -/
  | take (n : ℕ)
deriving DecidableEq, Repr

namespace Operation

variable {op : Operation} {limits : Limits} {now now' time : Time} {r r' : Reader}
variable {result : Except IoError Bytes}

/-- Perform an operation. -/
def perform (limits : Limits) (now : Time) (r : Reader) :
    Operation → Timed (Except IoError Bytes) × Reader
  | peek => r.peek limits now
  | take n => r.take limits n now

/-- The bytes that an operation has taken. -/
def taken (op : Operation) (result : Timed (Except IoError Bytes)) : Bytes :=
  match op, result.outcome with
  | take _, .done (.ok bytes) => bytes
  | _, _ => []

/-! ### Fetching and then the rest -/

/-- How many bytes have to be in the buffer. -/
def need : Operation → ℕ
  | peek => 1
  | take n => n

/-- What an operation returns once there are enough bytes in the buffer. -/
def answer (r : Reader) : Operation → Bytes
  | peek => r.buffer.bytes
  | take n => r.buffer.bytes.take n

/-- What an operation leaves. -/
def leave (r : Reader) : Operation → Reader
  | peek => r
  | take n => { r with buffer := r.buffer.consume n }

/-- An operation fetches, and then it returns its answer or what the fetch has come to. -/
theorem perform_eq (op : Operation) (limits : Limits) (now : Time) (r : Reader) :
    op.perform limits now r =
      match r.fetch limits op.need now with
      | (⟨.done (.ok ()), time⟩, r) => (⟨.done (.ok (op.answer r)), time⟩, op.leave r)
      | (⟨.done (.error error), time⟩, r) => (⟨.done (.error error), time⟩, r)
      | (⟨.elapsed, time⟩, r) => (⟨.elapsed, time⟩, r)
      | (⟨.hanging, time⟩, r) => (⟨.hanging, time⟩, r) := by
  cases op with
  | peek =>
    simp only [perform, Reader.peek, need]
    rcases r.fetch limits 1 now with ⟨⟨(error | ⟨⟩) | _ | _, time⟩, fetched⟩ <;> rfl
  | take n => rfl

/-- An operation that is cut off is one whose fetch is. -/
theorem fetch_of_perform_elapsed (h : op.perform limits now r = (⟨.elapsed, time⟩, r')) :
    r.fetch limits op.need now = (⟨.elapsed, time⟩, r') := by
  rw [perform_eq] at h
  rcases hfetch : r.fetch limits op.need now with ⟨⟨(error | ⟨⟩) | _ | _, moment⟩, fetched⟩
  all_goals
    rw [hfetch] at h
    cases h
  rfl

/-- A deadline that is not missed makes no difference. -/
theorem perform_of_done (h : op.perform limits now r = (⟨.done result, time⟩, r')) :
    op.perform Limits.none now r = (⟨.done result, time⟩, r') := by
  rw [perform_eq] at h ⊢
  rcases hfetch : r.fetch limits op.need now with ⟨⟨fetchResult | _ | _, moment⟩, fetched⟩
  · rw [hfetch] at h
    rw [fetch_of_done hfetch]
    exact h
  all_goals
    rw [hfetch] at h
    cases h

/-- Operations come to the same whose fetches do. -/
private theorem outcome_perform_congr
    (houtcome : (r.fetch Limits.none op.need now).1.outcome =
      (r'.fetch Limits.none op.need now').1.outcome)
    (hsame : (r.fetch Limits.none op.need now).2.Resembles (r'.fetch Limits.none op.need now').2) :
    (op.perform Limits.none now r).1.outcome = (op.perform Limits.none now' r').1.outcome := by
  rw [perform_eq, perform_eq]
  rcases hfetch : r.fetch Limits.none op.need now with ⟨⟨outcome, time⟩, fetched⟩
  rcases hfetch' : r'.fetch Limits.none op.need now' with ⟨⟨outcome', time'⟩, fetched'⟩
  rw [hfetch, hfetch'] at houtcome hsame
  obtain rfl : outcome = outcome' := houtcome
  have hbuffer : fetched.buffer = fetched'.buffer := hsame.buffer
  rcases outcome with (error | ⟨⟩) | _ | _
  · rfl
  · cases op with
    | peek => simp only [answer, hbuffer]
    | take n => simp only [answer, hbuffer]
  · rfl
  · rfl

/-- Without limits it does not matter when an operation begins. -/
theorem outcome_perform_none (op : Operation) (r : Reader) (now now' : Time) :
    (op.perform Limits.none now r).1.outcome = (op.perform Limits.none now' r).1.outcome :=
  outcome_perform_congr (fetch_none_congr (.refl r) op.need now now').1
    (fetch_none_congr (.refl r) op.need now now').2

/-- The readers that an operation can leave which is cut off time and again, at any moments and
under any deadlines. -/
inductive CutOff (op : Operation) (start : Reader) : Reader → Prop
  | never : CutOff op start start
  | again {limits : Limits} {now time : Time} {r r' : Reader} : CutOff op start r →
      op.perform limits now r = (⟨.elapsed, time⟩, r') → CutOff op start r'

/-- **An operation that was cut off comes to what it would have come to at first**, if it is made
again without a deadline. -/
theorem CutOff.outcome_perform (h : op.CutOff r r') (now now' : Time) :
    (op.perform Limits.none now' r').1.outcome = (op.perform Limits.none now r).1.outcome := by
  induction h with
  | never => exact outcome_perform_none op r now' now
  | again _ hcut ih =>
    obtain ⟨houtcome, hsame⟩ := fetch_of_elapsed (fetch_of_perform_elapsed hcut) now'
    exact (outcome_perform_congr houtcome hsame).trans ih

/-! ### What an operation takes -/

theorem unread_leave (op : Operation) (henough : op.need ≤ r.buffered) :
    r.unread = op.taken ⟨.done (.ok (op.answer r)), time⟩ ++ (op.leave r).unread := by
  cases op with
  | peek => rfl
  | take n =>
    have hle : n ≤ r.buffer.bytes.length := henough
    show r.buffer.bytes ++ r.source.remaining =
      r.buffer.bytes.take n ++ ((r.buffer.consume n).bytes ++ r.source.remaining)
    rw [Buffer.bytes_consume, ← List.append_assoc, List.take_append_drop]

/-- **What an operation takes is taken off the front of the unread bytes.** -/
theorem taken_append_unread (op : Operation) (limits : Limits) (now : Time) (r : Reader) :
    op.taken (op.perform limits now r).1 ++ (op.perform limits now r).2.unread = r.unread := by
  have hkeep := r.unread_fetch limits op.need now
  rw [perform_eq]
  rcases hfetch : r.fetch limits op.need now with ⟨⟨(error | ⟨⟩) | _ | _, time⟩, fetched⟩
  all_goals rw [hfetch] at hkeep
  · cases op <;> exact hkeep
  · exact (unread_leave op (le_buffered_of_fetch hfetch)).symm.trans hkeep
  · cases op <;> exact hkeep
  · cases op <;> exact hkeep

/-- An operation that does not succeed takes nothing. -/
theorem taken_of_ne_ok {outcome : Timed (Except IoError Bytes)}
    (hfail : ∀ bytes, outcome.outcome ≠ .done (.ok bytes)) (op : Operation) :
    op.taken outcome = [] := by
  unfold taken
  split
  · rename_i hok
    exact absurd hok (hfail _)
  · rfl

/-- What is shown is in front of all unread bytes, and it is something. -/
theorem shown_of_peek {shown : Bytes}
    (h : peek.perform limits now r = (⟨.done (.ok shown), time⟩, r')) :
    shown ≠ [] ∧ shown <+: r.unread := by
  have hkeep := r.unread_fetch limits 1 now
  rw [perform_eq, need] at h
  rcases hfetch : r.fetch limits 1 now with ⟨⟨(error | ⟨⟩) | _ | _, moment⟩, fetched⟩
  case done.ok =>
    have henough : 1 ≤ fetched.buffer.bytes.length := le_buffered_of_fetch hfetch
    rw [hfetch] at h hkeep
    cases h
    rw [← hkeep]
    exact ⟨List.length_pos_iff.1 henough, List.prefix_append _ _⟩
  all_goals
    rw [hfetch] at h
    cases h

end Operation

/-- What operations can lead to, each at any time and under any deadline, and the bytes that they
have taken. -/
inductive Leads (start : Reader) : Bytes → Reader → Prop
  | start : Leads start [] start
  | perform {taken : Bytes} {r : Reader} (op : Operation) (limits : Limits) (now : Time) :
      Leads start taken r →
      Leads start (taken ++ op.taken (op.perform limits now r).1) (op.perform limits now r).2

/-- **No byte is lost or taken twice**, whatever becomes of the operations. -/
theorem Leads.taken_append_unread {start r : Reader} {taken : Bytes} (h : start.Leads taken r) :
    taken ++ r.unread = start.unread := by
  induction h with
  | start => rfl
  | perform op limits now _ ih => rw [List.append_assoc, op.taken_append_unread, ih]

/-- What can be relied on in a reader of a whole stream from which some bytes have been taken. -/
structure IsCancelSafe (whole taken : Bytes) (r : Reader) : Prop where
  /-- The bytes that were taken, those in the buffer and those that are still to come are the whole
  stream. -/
  conserved : taken ++ r.buffer.bytes ++ r.source.remaining = whole
  /-- What is taken are the bytes that follow those taken before, and as many as were asked for. -/
  take : ∀ n limits now time raw after,
    (Operation.take n).perform limits now r = (⟨.done (.ok raw), time⟩, after) →
      raw = (whole.drop taken.length).take n ∧ raw.length = n ∧
      after.unread = whole.drop (taken.length + n)
  /-- What is shown are some of those bytes, and they stay. -/
  peek : ∀ limits now time shown after,
    Operation.peek.perform limits now r = (⟨.done (.ok shown), time⟩, after) →
      shown ≠ [] ∧ shown <+: whole.drop taken.length ∧ after.unread = r.unread
  /-- An operation that fails or is cut off takes nothing. -/
  failed : ∀ op limits now result after, Operation.perform limits now r op = (result, after) →
    (∀ raw, result.outcome ≠ .done (.ok raw)) → after.unread = r.unread
  /-- An operation that was cut off comes, when it is made again without a deadline, to what it
  would have come to had it never been cut off. So it does under a deadline that is not missed. -/
  resumed : ∀ op after, Operation.CutOff op r after → ∀ now now',
    (op.perform Limits.none now' after).1.outcome = (op.perform Limits.none now r).1.outcome ∧
    ∀ limits time result later, op.perform limits now' after = (⟨.done result, time⟩, later) →
      (op.perform Limits.none now r).1.outcome = .done result

/-- **Reads are safe to cancel**, after any operations on a new reader, however they have ended. -/
theorem isCancelSafe_of_leads {buffer : Buffer} {source : Source} (hempty : buffer.bytes = [])
    {taken : Bytes} {r : Reader} (hleads : Leads ⟨buffer, source⟩ taken r) :
    r.IsCancelSafe source.remaining taken := by
  have hwhole : taken ++ r.unread = source.remaining := by
    rw [hleads.taken_append_unread, unread, hempty, List.nil_append]
  have hunread : source.remaining.drop taken.length = r.unread := by
    rw [← hwhole, List.drop_left]
  constructor
  case conserved =>
    rw [List.append_assoc]
    exact hwhole
  case take =>
    intro n limits now time raw after h
    obtain ⟨hle, rfl, hleft⟩ := take_eq_ok h
    rw [hunread, ← List.drop_drop, hunread, List.length_take]
    exact ⟨rfl, Nat.min_eq_left hle, hleft⟩
  case peek =>
    intro limits now time shown after h
    have hkeep := Operation.peek.taken_append_unread limits now r
    obtain ⟨hne, hfront⟩ := Operation.shown_of_peek h
    rw [h] at hkeep
    rw [hunread]
    exact ⟨hne, hfront, hkeep⟩
  case failed =>
    intro op limits now result after h hfail
    have hkeep := op.taken_append_unread limits now r
    rw [h, op.taken_of_ne_ok hfail] at hkeep
    exact hkeep
  case resumed =>
    intro op after hcut now now'
    refine ⟨hcut.outcome_perform now now', fun limits time result later h ↦ ?_⟩
    rw [← hcut.outcome_perform now now', Operation.perform_of_done h]

/-- Three bytes are awaited of which two come too late, and then in time. -/
theorem isCancelSafe_of_leads_late :
    let source := Source.ofScript [⟨0, .data [1, 2, 3]⟩, ⟨5, .data [4, 5]⟩, ⟨6, .eof⟩]
    let start : Reader := ⟨.withCapacity 4, source⟩
    let first := (Operation.take 2).perform ⟨some 3, none⟩ 0 start
    let second := (Operation.take 3).perform ⟨some 3, none⟩ 1 first.2
    let third := (Operation.take 3).perform ⟨some 8, none⟩ 4 second.2
    first.1 = ⟨.done (.ok [1, 2]), 0⟩ ∧ second.1 = ⟨.elapsed, 3⟩ ∧
      third.1 = ⟨.done (.ok [3, 4, 5]), 5⟩ ∧ Leads start [1, 2] first.2 ∧
      second.2.unread = first.2.unread ∧
      ((Operation.take 3).perform Limits.none 1 first.2).1.outcome = .done (.ok [3, 4, 5]) := by
  intro source start first second third
  have hfirst : first.1 = ⟨.done (.ok [1, 2]), 0⟩ := by decide +kernel
  have hsecond : second.1 = ⟨.elapsed, 3⟩ := by decide +kernel
  have hthird : third.1 = ⟨.done (.ok [3, 4, 5]), 5⟩ := by decide +kernel
  have hleads : Leads start [1, 2] first.2 := by
    have hstart : Leads start [] start := .start
    have hstep := hstart.perform (.take 2) ⟨some 3, none⟩ 0
    rwa [show ((Operation.take 2).perform ⟨some 3, none⟩ 0 start).1 = _ from hfirst] at hstep
  have hcut : (Operation.take 3).CutOff first.2 second.2 :=
    .again .never (Prod.ext hsecond rfl)
  have hsafe := isCancelSafe_of_leads rfl hleads
  exact ⟨hfirst, hsecond, hthird, hleads,
    hsafe.failed (.take 3) ⟨some 3, none⟩ 1 ⟨.elapsed, 3⟩ second.2 (Prod.ext hsecond rfl) (by simp),
    (hsafe.resumed (.take 3) second.2 hcut 1 4).2 ⟨some 8, none⟩ 5 _ third.2 (Prod.ext hthird rfl)⟩

end FramedExchange.Reader
