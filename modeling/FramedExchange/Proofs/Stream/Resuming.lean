import FramedExchange.Proofs.Stream.Lossless

/-!
# A read that was given up can be made again

A deadline may cut a read off between any two of its fetches. What had been fetched by then stays in
the buffer, and the rest of the script is as it was. So the read that is made again goes on where
the first one was cut off:

* `fetch_of_done`: a deadline that is not missed makes no difference;
* `fetch_of_elapsed`: behind one that is missed, reading without a deadline comes to what it would
  have come to in the first place, whenever it begins.

Readers that differ only in the signals they passed over are told apart by nothing here
(`Reader.Resembles`): a signal that a read passes late is noted down with a later moment.
-/

namespace FramedExchange

/-- A wait that was not in vain ends as it would have ended without limits. -/
theorem await_none_of_done {limits : Limits} {now time : Time} {due : Option Time}
    (h : await limits now due = ⟨.done (), time⟩) :
    await Limits.none now due = ⟨.done (), time⟩ := by
  have hgiven : ∀ time, (giveUp limits now : Timed Unit) ≠ ⟨.done (), time⟩ := by
    intro time heq
    exact giveUp_ne_done limits now () (congrArg Timed.outcome heq)
  cases due with
  | none => exact absurd h (hgiven time)
  | some moment =>
    rw [await] at h
    rcases Nat.lt_or_ge now moment with hlater | hdue
    · rw [if_neg (Nat.not_le.2 hlater)] at h
      split at h
      · cases h
        rw [await_none, Nat.max_eq_right (Nat.le_of_lt hlater)]
      · exact absurd h (hgiven time)
    · rw [if_pos hdue] at h
      cases h
      exact await_of_le hdue

namespace Source

variable {limits : Limits} {space : ℕ} {now time : Time} {script left : List (Scheduled Arrival)}
variable {signals : List Time}

/-- Without limits it does not matter when a read begins. -/
theorem readScript_none_congr (space : ℕ) (now now' : Time) (script : List (Scheduled Arrival)) :
    (readScript Limits.none space now script).1.outcome =
        (readScript Limits.none space now' script).1.outcome ∧
      (readScript Limits.none space now script).2.1 =
        (readScript Limits.none space now' script).2.1 := by
  induction script generalizing now now' with
  | nil => exact ⟨rfl, rfl⟩
  | cons item rest ih =>
    obtain ⟨due, event⟩ := item
    cases event with
    | data bytes =>
      simp only [readScript, dueOf, await_none]
      cases bytes with
      | nil => exact ih _ _
      | cons byte bytes =>
        rcases hleft : (byte :: bytes).drop space with - | ⟨first, left⟩
        · simp only [hleft, and_self]
        · simp only [hleft, and_self]
    | signal =>
      simp only [readScript, dueOf, await_none]
      exact ih _ _
    | eof | failure => simp only [readScript, dueOf, await_none, and_self]
    | stall => exact ⟨rfl, rfl⟩

/-- A read that comes to something under a deadline comes to the same without one. -/
theorem readScript_of_done {result : Except IoError Bytes}
    (h : readScript limits space now script = (⟨.done result, time⟩, left, signals)) :
    readScript Limits.none space now script = (⟨.done result, time⟩, left, signals) := by
  induction script generalizing now signals with
  | nil => exact absurd (congrArg (·.1.outcome) h) (giveUp_ne_done limits now result)
  | cons item rest ih =>
    obtain ⟨due, event⟩ := item
    rcases hawait : await limits now (dueOf ⟨due, event⟩) with ⟨⟨⟩ | _ | _, moment⟩
    · rw [readScript, hawait] at h
      rw [readScript, await_none_of_done hawait]
      cases event with
      | data bytes =>
        cases bytes with
        | nil => exact ih h
        | cons byte bytes => exact h
      | signal =>
        rcases hrest : readScript limits space moment rest with ⟨outcome, left', signals'⟩
        simp only [hrest, Prod.mk.injEq] at h
        obtain ⟨rfl, rfl, rfl⟩ := h
        simp only [ih hrest]
      | stall => exact absurd (congrArg (·.1.outcome) h) (giveUp_ne_done limits moment result)
      | eof | failure => exact h
    · rw [readScript, hawait] at h
      cases h
    · rw [readScript, hawait] at h
      cases h

/-- What a read has left that was given up brings to the next read what the script would have
brought. -/
theorem readScript_of_elapsed
    (h : readScript limits space now script = (⟨.elapsed, time⟩, left, signals)) (now' : Time) :
    (readScript Limits.none space now' left).1.outcome =
        (readScript Limits.none space now' script).1.outcome ∧
      (readScript Limits.none space now' left).2.1 =
        (readScript Limits.none space now' script).2.1 := by
  induction script generalizing now signals with
  | nil =>
    simp only [readScript, Prod.mk.injEq] at h
    obtain ⟨-, rfl, -⟩ := h
    exact ⟨rfl, rfl⟩
  | cons item rest ih =>
    obtain ⟨due, event⟩ := item
    rcases hawait : await limits now (dueOf ⟨due, event⟩) with ⟨⟨⟩ | _ | _, moment⟩
    · rw [readScript, hawait] at h
      cases event with
      | data bytes =>
        cases bytes with
        -- an empty piece is passed over, and by then the moment does not matter any more
        | nil =>
          obtain ⟨houtcome, hleft⟩ := ih h
          obtain ⟨hsame, hsameLeft⟩ := readScript_none_congr space now' (max now' due) rest
          simp only [readScript, dueOf, await_none]
          exact ⟨houtcome.trans hsame, hleft.trans hsameLeft⟩
        | cons byte bytes =>
          simp only at h
          split at h <;> cases h
      | signal =>
        rcases hrest : readScript limits space moment rest with ⟨outcome, left', signals'⟩
        simp only [hrest, Prod.mk.injEq] at h
        obtain ⟨rfl, rfl, rfl⟩ := h
        obtain ⟨houtcome, hleft⟩ := ih hrest
        obtain ⟨hsame, hsameLeft⟩ := readScript_none_congr space now' (max now' due) rest
        simp only [readScript, dueOf, await_none]
        exact ⟨houtcome.trans hsame, hleft.trans hsameLeft⟩
      | stall =>
        simp only [Prod.mk.injEq] at h
        obtain ⟨-, rfl, -⟩ := h
        exact ⟨rfl, rfl⟩
      | eof | failure => cases h
    · rw [readScript, hawait] at h
      cases h
      exact ⟨rfl, rfl⟩
    · rw [readScript, hawait] at h
      cases h

/-! ### One read -/

theorem read_of_done {source source' : Source} {result : Except IoError Bytes}
    (h : source.read limits now space = (⟨.done result, time⟩, source')) :
    source.read Limits.none now space = (⟨.done result, time⟩, source') := by
  rcases hread : readScript limits (min space source.burst) now source.script with
    ⟨outcome, left, signals⟩
  rw [read, hread] at h
  cases h
  rw [read, readScript_of_done hread]

/-- Two sources that differ at most in the signals that were passed over. -/
structure Resembles (source source' : Source) : Prop where
  script : source.script = source'.script
  burst : source.burst = source'.burst

theorem read_congr {source source' : Source} (h : source.Resembles source') (space : ℕ)
    (now now' : Time) :
    (source.read Limits.none now space).1.outcome =
        (source'.read Limits.none now' space).1.outcome ∧
      (source.read Limits.none now space).2.Resembles (source'.read Limits.none now' space).2 := by
  obtain ⟨houtcome, hleft⟩ :=
    readScript_none_congr (min space source.burst) now now' source.script
  rw [read, read, ← h.script, ← h.burst]
  exact ⟨houtcome, hleft, rfl⟩

/-- The next read from a source behind one that was given up. -/
theorem read_of_elapsed {source source' : Source}
    (h : source.read limits now space = (⟨.elapsed, time⟩, source')) (now' : Time) :
    (source'.read Limits.none now' space).1.outcome =
        (source.read Limits.none now' space).1.outcome ∧
      (source'.read Limits.none now' space).2.Resembles (source.read Limits.none now' space).2 := by
  rcases hread : readScript limits (min space source.burst) now source.script with
    ⟨outcome, left, signals⟩
  rw [read, hread] at h
  cases h
  obtain ⟨houtcome, hleft⟩ := readScript_of_elapsed hread now'
  exact ⟨houtcome, hleft, rfl⟩

end Source

namespace Buffer

/-- Room that has been made is there. -/
@[simp]
theorem reserve_reserve (extra : ℕ) (b : Buffer) :
    (b.reserve extra).reserve extra = b.reserve extra := by
  rw [reserve, if_pos (le_spare_reserve extra b)]

end Buffer

namespace Reader

variable {limits : Limits} {n : ℕ} {now now' time : Time} {r r' : Reader}

/-! ### Fetching -/

/-- A fetch goes on with the bytes that its first read has brought. -/
theorem fetch_of_read_data {byte : UInt8} {bytes : Bytes} {source : Source}
    (hfew : ¬ n ≤ r.buffered)
    (hread : r.source.read limits now (r.buffer.reserve chunk).spare =
      (⟨.done (.ok (byte :: bytes)), time⟩, source)) :
    r.fetch limits n now =
      fetch limits n time ⟨(r.buffer.reserve chunk).append (byte :: bytes), source⟩ := by
  rw [fetch, if_neg hfew]
  simp only [hread]

/-- What a read that brought nothing means for a fetch: the end of the stream is an error there. -/
def shortage (result : Timed (Except IoError Bytes)) : Timed (Except IoError Unit) :=
  result.map fun
    | .ok _ => .error .streamClosed
    | .error error => .error error

/-- A fetch ends with a read that brings nothing. -/
theorem fetch_of_read_nothing {result : Timed (Except IoError Bytes)} {source : Source}
    (hfew : ¬ n ≤ r.buffered)
    (hread : r.source.read limits now (r.buffer.reserve chunk).spare = (result, source))
    (hnone : Source.gained result = []) :
    r.fetch limits n now = (shortage result, ⟨r.buffer.reserve chunk, source⟩) := by
  obtain ⟨outcome, time⟩ := result
  rw [fetch, if_neg hfew]
  simp only [hread]
  rcases outcome with (error | _ | ⟨byte, bytes⟩) | _ | _
  · rfl
  · rfl
  · cases hnone
  · rfl
  · rfl

/-- A deadline that is not missed makes no difference. -/
theorem fetch_of_done {result : Except IoError Unit}
    (h : r.fetch limits n now = (⟨.done result, time⟩, r')) :
    r.fetch Limits.none n now = (⟨.done result, time⟩, r') := by
  fun_induction fetch limits n now r with
  | case1 now r henough => rwa [fetch, if_pos henough]
  | case2 now r hfew buffer byte bytes moment source hread ih =>
    rw [fetch_of_read_data hfew (Source.read_of_done hread)]
    exact ih h
  | case3 now r hfew buffer moment source hread =>
    rw [fetch_of_read_nothing hfew (Source.read_of_done hread) rfl]
    exact h
  | case4 now r hfew buffer error moment source hread =>
    rw [fetch_of_read_nothing hfew (Source.read_of_done hread) rfl]
    exact h
  | case5 | case6 => cases h

/-- Two readers that differ at most in the signals that were passed over. -/
structure Resembles (r r' : Reader) : Prop where
  buffer : r.buffer = r'.buffer
  source : r.source.Resembles r'.source

theorem Resembles.refl (r : Reader) : r.Resembles r := ⟨rfl, rfl, rfl⟩

theorem Resembles.trans {r₁ r₂ r₃ : Reader} (h : r₁.Resembles r₂) (h' : r₂.Resembles r₃) :
    r₁.Resembles r₃ :=
  ⟨h.buffer.trans h'.buffer, h.source.script.trans h'.source.script,
    h.source.burst.trans h'.source.burst⟩

/-- Two fetches without limits come to the same if their first reads do, provided that later ones
would. -/
private theorem fetch_congr_of_read
    (hlater : ∀ r₁ r₂ : Reader, r.buffered < r₁.buffered → r₁.Resembles r₂ → ∀ now now' : Time,
      (r₁.fetch Limits.none n now).1.outcome = (r₂.fetch Limits.none n now').1.outcome ∧
        (r₁.fetch Limits.none n now).2.Resembles (r₂.fetch Limits.none n now').2)
    (hfew : ¬ n ≤ r.buffered) (hbytes : r'.buffer.bytes = r.buffer.bytes)
    (hroom : r'.buffer.reserve chunk = r.buffer.reserve chunk)
    (hfirst : (r.source.read Limits.none now (r.buffer.reserve chunk).spare).1.outcome =
        (r'.source.read Limits.none now' (r.buffer.reserve chunk).spare).1.outcome ∧
      (r.source.read Limits.none now (r.buffer.reserve chunk).spare).2.Resembles
        (r'.source.read Limits.none now' (r.buffer.reserve chunk).spare).2) :
    (r.fetch Limits.none n now).1.outcome = (r'.fetch Limits.none n now').1.outcome ∧
      (r.fetch Limits.none n now).2.Resembles (r'.fetch Limits.none n now').2 := by
  have hfew' : ¬ n ≤ r'.buffered := by rwa [buffered, Buffer.length, hbytes]
  rcases hread : r.source.read Limits.none now (r.buffer.reserve chunk).spare with
    ⟨⟨outcome, time⟩, source⟩
  rcases hread' : r'.source.read Limits.none now' (r.buffer.reserve chunk).spare with
    ⟨⟨outcome', time'⟩, source'⟩
  rw [hread, hread'] at hfirst
  obtain ⟨houtcome, hsource⟩ := hfirst
  obtain rfl : outcome = outcome' := houtcome
  rw [← hroom] at hread'
  by_cases hnone : Source.gained ⟨outcome, time⟩ = []
  · rw [fetch_of_read_nothing hfew hread hnone, fetch_of_read_nothing hfew' hread' hnone]
    refine ⟨?_, hroom.symm, hsource⟩
    rcases outcome with _ | _ | _ <;> rfl
  · rcases outcome with (error | _ | ⟨byte, bytes⟩) | _ | _
    case done.ok.cons =>
      rw [fetch_of_read_data hfew hread, fetch_of_read_data hfew' hread', hroom]
      have hsame : Resembles ⟨(r.buffer.reserve chunk).append (byte :: bytes), source⟩
          ⟨(r.buffer.reserve chunk).append (byte :: bytes), source'⟩ := ⟨rfl, hsource⟩
      refine hlater _ _ ?_ hsame time time'
      simp [buffered, Buffer.length]
    all_goals exact absurd rfl hnone

/-- Without limits it does not matter when fetching begins. -/
theorem fetch_none_congr (h : r.Resembles r') (n : ℕ) (now now' : Time) :
    (r.fetch Limits.none n now).1.outcome = (r'.fetch Limits.none n now').1.outcome ∧
      (r.fetch Limits.none n now).2.Resembles (r'.fetch Limits.none n now').2 := by
  induction hmissing : n - r.buffered using Nat.strong_induction_on generalizing r r' now now' with
  | _ missing ih =>
    by_cases henough : n ≤ r.buffered
    · have henough' : n ≤ r'.buffered := by rwa [buffered, ← h.buffer]
      rw [fetch, if_pos henough, fetch, if_pos henough']
      exact ⟨rfl, h⟩
    · refine fetch_congr_of_read (fun r₁ r₂ hmore hsame now now' ↦ ?_) henough
        (by rw [h.buffer]) (by rw [h.buffer]) (Source.read_congr h.source _ now now')
      exact ih (n - r₁.buffered) (by omega) hsame now now' rfl

/-- **What a fetch has left that was given up** brings to the next one what the reader would have
brought in the first place. -/
theorem fetch_of_elapsed (h : r.fetch limits n now = (⟨.elapsed, time⟩, r')) (now' : Time) :
    (r'.fetch Limits.none n now').1.outcome = (r.fetch Limits.none n now').1.outcome ∧
      (r'.fetch Limits.none n now').2.Resembles (r.fetch Limits.none n now').2 := by
  fun_induction fetch limits n now r with
  | case2 now r hfew buffer byte bytes moment source hread ih =>
    -- the bytes of this read are in the buffer, so only what follows it is made again
    obtain ⟨houtcome, hsame⟩ := ih h
    have hwhole := fetch_none_congr (.refl r) n now now'
    have hrest := fetch_none_congr (.refl ⟨buffer.append (byte :: bytes), source⟩) n now' moment
    rw [fetch_of_read_data hfew (Source.read_of_done hread)] at hwhole
    exact ⟨houtcome.trans (hrest.1.trans hwhole.1), hsame.trans (hrest.2.trans hwhole.2)⟩
  | case5 now r hfew buffer moment source hread =>
    cases h
    have hbytes : r.buffer.bytes = buffer.bytes := (Buffer.bytes_reserve chunk r.buffer).symm
    have hroom : r.buffer.reserve chunk = buffer.reserve chunk :=
      (Buffer.reserve_reserve chunk r.buffer).symm
    have hagain := Source.read_of_elapsed hread now'
    refine fetch_congr_of_read (fun r₁ r₂ _ hsame now now' ↦ fetch_none_congr hsame n now now')
      ?_ hbytes hroom ?_
    · rwa [buffered, Buffer.length, ← hbytes]
    · rwa [← hroom]
  | case1 | case3 | case4 | case6 => cases h

end Reader

end FramedExchange
