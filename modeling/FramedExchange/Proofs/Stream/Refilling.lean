import FramedExchange.Proofs.Stream.Resuming

/-!
# A frame that has begun to come in

A fetch makes one read after another until it has enough. Each of them that brings something leads
to a reader with more in its buffer (`Reader.Refill`), and these are all the readers that a fetch is
at between its reads (`Reader.exists_refills_fetch`). Nothing is taken before the fetch has
succeeded, so once there is a byte in the buffer there is one at every moment until all that was
asked for is taken at once.

A frame with its first byte in the buffer is therefore never found not to have begun: when it cannot
be read, the stream is of no further use (`Reader.isBroken_of_readFrame`).
-/

namespace FramedExchange

namespace Reader

open Relation

variable {limits : Limits} {n : ℕ} {now time : Time} {r r' : Reader} {start next : Time × Reader}

/-! ### Between the reads of a fetch -/

/-- One read of a fetch that has brought something, with what the fetch goes on from: the moment and
the reader. -/
inductive Refill (limits : Limits) (n : ℕ) : Time × Reader → Time × Reader → Prop
  | read {now time : Time} {r : Reader} {byte : UInt8} {bytes : Bytes} {source : Source}
      (hfew : ¬ n ≤ r.buffered)
      (hread : r.source.read limits now (r.buffer.reserve chunk).spare =
        (⟨.done (.ok (byte :: bytes)), time⟩, source)) :
      Refill limits n (now, r) (time, ⟨(r.buffer.reserve chunk).append (byte :: bytes), source⟩)

/-- Each read that brings something adds to the buffer. -/
theorem Refill.buffered_lt (h : Refill limits n start next) :
    start.2.buffered < next.2.buffered := by
  obtain ⟨hfew, hread⟩ := h
  simp [buffered, Buffer.length]

theorem buffered_le_of_refills (h : ReflTransGen (Refill limits n) start next) :
    start.2.buffered ≤ next.2.buffered := by
  induction h with
  | refl => exact le_rfl
  | tail _ hstep ih => exact ih.trans hstep.buffered_lt.le

/-- **A fetch is at nothing but its refills** until it ends: with enough in the buffer, or with a
read that brings nothing. -/
theorem exists_refills_fetch (limits : Limits) (n : ℕ) (now : Time) (r : Reader) :
    ∃ last : Time × Reader, ReflTransGen (Refill limits n) (now, r) last ∧
      ((n ≤ last.2.buffered ∧ r.fetch limits n now = (⟨.done (.ok ()), last.1⟩, last.2)) ∨
        ∃ result source, ¬ n ≤ last.2.buffered ∧ Source.gained result = [] ∧
          last.2.source.read limits last.1 (last.2.buffer.reserve chunk).spare = (result, source) ∧
          r.fetch limits n now = (shortage result, ⟨last.2.buffer.reserve chunk, source⟩)) := by
  fun_induction fetch limits n now r with
  | case1 now r henough => exact ⟨(now, r), .refl, .inl ⟨henough, rfl⟩⟩
  | case2 now r hfew buffer byte bytes time source hread ih =>
    obtain ⟨last, hrefills, hend⟩ := ih
    exact ⟨last, .head (.read hfew hread) hrefills, hend⟩
  | case3 now r hfew buffer time source hread
  | case4 now r hfew buffer error time source hread
  | case5 now r hfew buffer time source hread
  | case6 now r hfew buffer time source hread =>
    exact ⟨(now, r), .refl, .inr ⟨_, source, hfew, rfl, hread, rfl⟩⟩

/-- Fetching takes nothing out of the buffer. -/
theorem buffered_le_fetch (limits : Limits) (n : ℕ) (now : Time) (r : Reader) :
    r.buffered ≤ (r.fetch limits n now).2.buffered := by
  obtain ⟨last, hrefills, ⟨-, hfetch⟩ | ⟨result, source, -, -, -, hfetch⟩⟩ :=
    exists_refills_fetch limits n now r
  · rw [hfetch]
    exact buffered_le_of_refills hrefills
  · rw [hfetch]
    show r.buffered ≤ (last.2.buffer.reserve chunk).bytes.length
    rw [Buffer.bytes_reserve]
    exact buffered_le_of_refills hrefills

/-! ### Taking -/

/-- A read that does not succeed takes nothing out of the buffer. -/
theorem buffered_le_of_take_ne_ok {result : Timed (Except IoError Bytes)}
    (h : r.take limits n now = (result, r')) (hfail : ∀ raw, result.outcome ≠ .done (.ok raw)) :
    r.buffered ≤ r'.buffered := by
  have hkeep := buffered_le_fetch limits n now r
  rw [take] at h
  rcases hfetch : r.fetch limits n now with ⟨⟨(error | _) | _ | _, moment⟩, fetched⟩
  all_goals
    rw [hfetch] at h hkeep
    cases h
  · exact hkeep
  · exact absurd rfl (hfail _)
  · exact hkeep
  · exact hkeep

/-! ### Frames -/

/-- A frame that has a byte in the buffer is never found not to have begun. -/
theorem readFrame_ne_idle (hbuffered : r.buffered ≠ 0) :
    (r.readFrame limits now).1.result? ≠ some (.error .idle) := by
  intro hidle
  rw [readFrame] at hidle
  rcases htake : r.take limits Header.size now with ⟨⟨(error | raw) | _ | _, moment⟩, taken⟩
  all_goals rw [htake] at hidle
  · have hbroken := FrameError.isBroken_ofIo error
    rw [Except.error.inj (Option.some.inj hidle)] at hbroken
    cases hbroken
  · rcases hdecode : Header.decode raw with error | header
    · simp only [hdecode] at hidle
      cases Option.some.inj hidle
      cases Header.isBroken_of_decode hdecode
    · simp only [hdecode] at hidle
      rcases hbody : taken.readBody limits header moment with ⟨⟨result?, last⟩, after⟩
      rw [hbody] at hidle
      obtain rfl : result? = some (.error .idle) := hidle
      cases isBroken_of_readBody hbody
  · -- what was in the buffer when the reading began is still there
    have hheld : taken.buffered ≠ 0 := by
      have hle := buffered_le_of_take_ne_ok htake (by rintro raw ⟨⟩)
      omega
    simp only [if_neg hheld] at hidle
    cases hidle
  · cases hidle

/-- **When a frame that has begun cannot be read, the stream is of no further use.** -/
theorem isBroken_of_readFrame (hbuffered : r.buffered ≠ 0) {error : FrameError}
    (h : (r.readFrame limits now).1.result? = some (.error error)) : error.isBroken = true := by
  rcases hread : r.readFrame limits now with ⟨⟨result?, time⟩, r'⟩
  rw [hread] at h
  obtain rfl : result? = some (.error error) := h
  rcases readFrame_eq_error hread with hbroken | ⟨rfl, -⟩
  · exact hbroken
  · exact absurd (congrArg (·.1.result?) hread) (readFrame_ne_idle hbuffered)

end Reader

end FramedExchange
