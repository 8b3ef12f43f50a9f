import FramedExchange.Proofs.Stream.Resuming

/-!
# Reading does not depend on how much is fetched at a time

How much one read fetches depends on the room in the buffer, and so on the size of the buffers, on
what was fetched before, and on who has used the buffer before. A supply is a reader for which none
of this matters: it takes every piece of the stream whole, as soon as it needs any byte of it
(`Supply.fetch`).

A reader lags behind a supply if it holds the same bytes but for the end of one piece, which it has
left in the stream (`Reader.LagsBehind`). That piece has come in, so it can be fetched at once, even
when a deadline has passed. Hence the reader comes to the same result at the same moment as the
supply, and lags behind it again (`LagsBehind.fetch`). Only when the fetching fails is nothing left
behind.

Readers that fetch alike take the same bytes and read the same frames, at the same moments
(`FetchesAlike`). Two readers agree if they lag behind the same supply, and then they fetch alike,
whatever their buffers are (`Agree.fetch`, `Agree.readFrame`).
-/

namespace FramedExchange

/-- What could be waited for was there by the end of the wait. -/
theorem le_time_of_await {limits : Limits} {now due time : Time}
    (h : await limits now (some due) = ⟨.done (), time⟩) : due ≤ time := by
  have hnone := await_none_of_done h
  rw [await_none] at hnone
  cases hnone
  exact Nat.le_max_right _ _

/-! ### Supplies -/

/-- The bytes that have been fetched, and what the stream will bring. -/
structure Supply where
  held : Bytes
  script : List (Scheduled Arrival)
  /-- The moments at which signals were passed over. -/
  signals : List Time

namespace Supply

variable (limits : Limits) (n : ℕ)

/-- Fetch whole pieces from a script until at least `n` bytes are held. -/
def fetchFrom : Time → Bytes → List Time → List (Scheduled Arrival) →
    Timed (Except IoError Unit) × Supply
  | now, held, signals, [] =>
    if n ≤ held.length then (⟨.done (.ok ()), now⟩, ⟨held, [], signals⟩)
    else (giveUp limits now, ⟨held, [], signals⟩)
  | now, held, signals, item :: rest =>
    if n ≤ held.length then (⟨.done (.ok ()), now⟩, ⟨held, item :: rest, signals⟩)
    else
      match await limits now (Source.dueOf item) with
      | ⟨.done (), time⟩ =>
        match item.event with
        | .data bytes => fetchFrom time (held ++ bytes) signals rest
        | .signal => fetchFrom time held (signals ++ [time]) rest
        | .eof => (⟨.done (.error .streamClosed), time⟩, ⟨held, item :: rest, signals⟩)
        | .failure error => (⟨.done (.error error), time⟩, ⟨held, rest, signals⟩)
        | .stall => (giveUp limits time, ⟨held, item :: rest, signals⟩)
      | ⟨.elapsed, time⟩ => (⟨.elapsed, time⟩, ⟨held, item :: rest, signals⟩)
      | ⟨.hanging, time⟩ => (⟨.hanging, time⟩, ⟨held, item :: rest, signals⟩)

/-- Fetch until at least `n` bytes are held. -/
def fetch (now : Time) (s : Supply) : Timed (Except IoError Unit) × Supply :=
  fetchFrom limits n now s.held s.signals s.script

variable {limits n} {now : Time} {s : Supply}

/-- Nothing is fetched if there is enough. -/
theorem fetch_of_le (h : n ≤ s.held.length) :
    s.fetch limits n now = (⟨.done (.ok ()), now⟩, s) := by
  obtain ⟨held, script, signals⟩ := s
  cases script with
  | nil => rw [fetch, fetchFrom, if_pos h]
  | cons item rest => rw [fetch, fetchFrom, if_pos h]

end Supply

namespace Source

/-- A piece of a stream, if there is anything in it. -/
def pieceOf (due : Time) : Bytes → List (Scheduled Arrival)
  | [] => []
  | bytes => [⟨due, .data bytes⟩]

/-- A piece that has come in can be read at once, in part at least. -/
theorem exists_readScript_piece {space : ℕ} (hspace : 0 < space) {due now : Time} (hdue : due ≤ now)
    (limits : Limits) (first : UInt8) (others : Bytes) (rest : List (Scheduled Arrival)) :
    ∃ byte bytes more, readScript limits space now (pieceOf due (first :: others) ++ rest) =
        (⟨.done (.ok (byte :: bytes)), now⟩, pieceOf due more ++ rest, []) ∧
      byte :: bytes ++ more = first :: others := by
  obtain ⟨room, rfl⟩ := Nat.exists_eq_succ_of_ne_zero hspace.ne'
  show ∃ byte bytes more, readScript limits (room + 1) now
      (⟨due, .data (first :: others)⟩ :: rest) = _ ∧ _
  rw [readScript, dueOf, await_of_le hdue]
  rcases hdrop : (first :: others).drop (room + 1) with - | ⟨next, more⟩
  · refine ⟨first, others, [], ?_, List.append_nil _⟩
    simp only [hdrop]
    rfl
  · refine ⟨first, others.take room, next :: more, ?_, ?_⟩
    · simp only [hdrop]
      rfl
    · show (first :: others).take (room + 1) ++ next :: more = first :: others
      rw [← hdrop, List.take_append_drop]

end Source

namespace Supply

variable {limits : Limits} {n space : ℕ} {now time : Time} {held : Bytes}
variable {script left : List (Scheduled Arrival)} {signals passed : List Time}

theorem fetchFrom_data {due : Time} (hfew : ¬ n ≤ held.length)
    (hawait : await limits now (some due) = ⟨.done (), time⟩) (bytes : Bytes)
    (rest : List (Scheduled Arrival)) :
    fetchFrom limits n now held signals (⟨due, .data bytes⟩ :: rest) =
      fetchFrom limits n time (held ++ bytes) signals rest := by
  rw [fetchFrom, if_neg hfew, Source.dueOf, hawait]

theorem fetchFrom_signal {due : Time} (hfew : ¬ n ≤ held.length)
    (hawait : await limits now (some due) = ⟨.done (), time⟩) (rest : List (Scheduled Arrival)) :
    fetchFrom limits n now held signals (⟨due, .signal⟩ :: rest) =
      fetchFrom limits n time held (signals ++ [time]) rest := by
  rw [fetchFrom, if_neg hfew, Source.dueOf, hawait]

/-- **Where a read brings bytes, a supply takes the whole piece** and goes on. What the read has
left of the piece has been there. -/
theorem fetchFrom_of_read_data (signals : List Time) {byte : UInt8} {bytes : Bytes}
    (hfew : ¬ n ≤ held.length)
    (hread : Source.readScript limits space now script =
      (⟨.done (.ok (byte :: bytes)), time⟩, left, passed)) :
    ∃ due more rest, due ≤ time ∧ left = Source.pieceOf due more ++ rest ∧
      fetchFrom limits n now held signals script =
        fetchFrom limits n time (held ++ byte :: bytes ++ more) (signals ++ passed) rest := by
  induction script generalizing now signals passed with
  | nil => exact absurd (congrArg (·.1.outcome) hread) (giveUp_ne_done limits now _)
  | cons item rest ih =>
    obtain ⟨due, event⟩ := item
    rcases hawait : await limits now (Source.dueOf ⟨due, event⟩) with ⟨⟨⟩ | _ | _, moment⟩
    all_goals rw [Source.readScript, hawait] at hread
    · cases event with
      | data piece =>
        rw [fetchFrom_data hfew hawait]
        cases piece with
        | nil =>
          rw [List.append_nil]
          exact ih signals hread
        | cons first others =>
          -- the read takes the piece, or as much of it as there is space for
          rcases hdrop : (first :: others).drop space with - | ⟨next, more⟩
          · simp only [hdrop] at hread
            cases hread
            refine ⟨due, [], _, le_time_of_await hawait, rfl, ?_⟩
            rw [List.append_nil, List.append_nil]
          · simp only [hdrop, Prod.mk.injEq, Timed.mk.injEq, Outcome.done.injEq,
              Except.ok.injEq] at hread
            obtain ⟨⟨htaken, rfl⟩, rfl, rfl⟩ := hread
            refine ⟨due, next :: more, rest, le_time_of_await hawait, rfl, ?_⟩
            rw [← htaken, ← hdrop, List.append_assoc, List.take_append_drop, List.append_nil]
      | signal =>
        rcases hrest : Source.readScript limits space moment rest with ⟨result, left', passed'⟩
        simp only [hrest, Prod.mk.injEq] at hread
        obtain ⟨rfl, rfl, rfl⟩ := hread
        obtain ⟨due, more, script, hdue, hleft, hfetch⟩ := ih (signals ++ [moment]) hrest
        refine ⟨due, more, script, hdue, hleft, ?_⟩
        rw [fetchFrom_signal hfew hawait, hfetch, List.append_assoc signals, List.singleton_append]
      | eof | failure => cases hread
      | stall => exact absurd (congrArg (·.1.outcome) hread) (giveUp_ne_done limits moment _)
    · cases hread
    · cases hread

/-- **Where a read brings nothing, a supply ends its fetching** for the same reason, with what it
holds. -/
theorem fetchFrom_of_read_nothing (hfew : ¬ n ≤ held.length) (hspace : 0 < space)
    {result : Timed (Except IoError Bytes)}
    (hread : Source.readScript limits space now script = (result, left, passed))
    (hnone : Source.gained result = []) :
    fetchFrom limits n now held signals script =
      (Reader.shortage result, ⟨held, left, signals ++ passed⟩) := by
  induction script generalizing now signals passed with
  | nil =>
    cases hread
    rw [fetchFrom, if_neg hfew, List.append_nil, Reader.shortage, map_giveUp]
  | cons item rest ih =>
    obtain ⟨due, event⟩ := item
    rcases hawait : await limits now (Source.dueOf ⟨due, event⟩) with ⟨⟨⟩ | _ | _, moment⟩
    all_goals rw [Source.readScript, hawait] at hread
    · cases event with
      | data piece =>
        rw [fetchFrom_data hfew hawait]
        cases piece with
        | nil =>
          rw [List.append_nil]
          exact ih hread
        | cons first others =>
          -- there is room, so some of the piece would have been read
          obtain ⟨room, rfl⟩ := Nat.exists_eq_succ_of_ne_zero hspace.ne'
          rcases hdrop : (first :: others).drop (room + 1) with - | ⟨next, more⟩
          all_goals
            simp only [hdrop] at hread
            cases hread
            cases hnone
      | signal =>
        rcases hrest : Source.readScript limits space moment rest with ⟨result, left', passed'⟩
        simp only [hrest, Prod.mk.injEq] at hread
        obtain ⟨rfl, rfl, rfl⟩ := hread
        rw [fetchFrom_signal hfew hawait, ih hrest, List.append_assoc, List.singleton_append]
      | eof | failure =>
        rw [fetchFrom, if_neg hfew, hawait]
        cases hread
        rw [List.append_nil]
        rfl
      | stall =>
        rw [fetchFrom, if_neg hfew, hawait]
        cases hread
        rw [List.append_nil, Reader.shortage, map_giveUp]
    · rw [fetchFrom, if_neg hfew, hawait]
      cases hread
      rw [List.append_nil]
      rfl
    · rw [fetchFrom, if_neg hfew, hawait]
      cases hread
      rw [List.append_nil]
      rfl

end Supply

/-! ### Readers behind a supply -/

namespace Reader

variable {limits : Limits} {n space : ℕ} {now time : Time} {r r' : Reader} {s : Supply}

/-- A reader that holds what a supply holds, but for the end of a piece that has come in and that
the reader has left in the stream. -/
structure LagsBehind (r : Reader) (s : Supply) (now : Time) : Prop where
  burst_pos : 0 < r.source.burst
  signals : r.source.signals = s.signals
  left : ∃ due more, due ≤ now ∧ r.buffer.bytes ++ more = s.held ∧
    r.source.script = Source.pieceOf due more ++ s.script

theorem LagsBehind.mono (h : r.LagsBehind s now) (hle : now ≤ time) : r.LagsBehind s time := by
  obtain ⟨due, more, hdue, hheld, hscript⟩ := h.left
  exact ⟨h.burst_pos, h.signals, due, more, hdue.trans hle, hheld, hscript⟩

/-- **A read that brings bytes** brings a reader nearer to its supply, or the supply has taken the
piece that the bytes are from. -/
theorem LagsBehind.read_data (h : r.LagsBehind s now) (hspace : 0 < space) (hfew : ¬ n ≤ r.buffered)
    {byte : UInt8} {bytes : Bytes} {source : Source} {buffer : Buffer}
    (hread : r.source.read limits now space = (⟨.done (.ok (byte :: bytes)), time⟩, source))
    (hbuffer : buffer.bytes = r.buffer.bytes ++ byte :: bytes) :
    ∃ s', LagsBehind ⟨buffer, source⟩ s' time ∧ s.fetch limits n now = s'.fetch limits n time := by
  obtain ⟨due, more, hdue, hheld, hscript⟩ := h.left
  have hroom : 0 < min space r.source.burst := lt_min hspace h.burst_pos
  rw [Source.read, hscript] at hread
  cases more with
  | nil =>
    rw [List.append_nil] at hheld
    rcases hfound : Source.readScript limits (min space r.source.burst) now s.script with
      ⟨result, left, passed⟩
    have hfew' : ¬ n ≤ s.held.length := hheld ▸ hfew
    simp only [Source.pieceOf, List.nil_append, hfound, Prod.mk.injEq] at hread
    obtain ⟨rfl, rfl⟩ := hread
    obtain ⟨due, more, rest, hdue, hleft, hfetch⟩ :=
      Supply.fetchFrom_of_read_data s.signals hfew' hfound
    refine ⟨⟨s.held ++ byte :: bytes ++ more, rest, s.signals ++ passed⟩,
      ⟨h.burst_pos, ?_, due, more, hdue, ?_, hleft⟩, hfetch⟩
    · rw [← h.signals]
    · rw [hbuffer, hheld]
  | cons first others =>
    obtain ⟨byte', bytes', more, hpiece, hjoin⟩ :=
      Source.exists_readScript_piece hroom hdue limits first others s.script
    simp only [hpiece, Prod.mk.injEq, Timed.mk.injEq, Outcome.done.injEq, Except.ok.injEq] at hread
    obtain ⟨⟨hbytes, rfl⟩, rfl⟩ := hread
    refine ⟨s, ⟨h.burst_pos, ?_, due, more, hdue, ?_, rfl⟩, rfl⟩
    · rw [← h.signals, List.append_nil]
    · rw [hbuffer, ← hbytes, List.append_assoc, hjoin, hheld]

/-- **A read that brings nothing** is made by a reader that has nothing left behind. -/
theorem LagsBehind.read_nothing (h : r.LagsBehind s now) (hspace : 0 < space)
    (hfew : ¬ n ≤ r.buffered) {result : Timed (Except IoError Bytes)} {source : Source}
    (hread : r.source.read limits now space = (result, source))
    (hnone : Source.gained result = []) :
    r.buffer.bytes = s.held ∧ 0 < source.burst ∧
      s.fetch limits n now = (shortage result, ⟨s.held, source.script, source.signals⟩) := by
  obtain ⟨due, more, hdue, hheld, hscript⟩ := h.left
  have hroom : 0 < min space r.source.burst := lt_min hspace h.burst_pos
  rw [Source.read, hscript] at hread
  cases more with
  | nil =>
    rw [List.append_nil] at hheld
    rcases hfound : Source.readScript limits (min space r.source.burst) now s.script with
      ⟨result', left, passed⟩
    have hfew' : ¬ n ≤ s.held.length := hheld ▸ hfew
    simp only [Source.pieceOf, List.nil_append, hfound, Prod.mk.injEq] at hread
    obtain ⟨rfl, rfl⟩ := hread
    refine ⟨hheld, h.burst_pos, ?_⟩
    rw [Supply.fetch, Supply.fetchFrom_of_read_nothing hfew' hroom hfound hnone, ← h.signals]
  | cons first others =>
    obtain ⟨byte, bytes, more, hpiece, -⟩ :=
      Source.exists_readScript_piece hroom hdue limits first others s.script
    simp only [hpiece, Prod.mk.injEq] at hread
    obtain ⟨rfl, -⟩ := hread
    cases hnone

/-- So it ends its fetching as the supply does. -/
private theorem LagsBehind.fetch_nothing (h : r.LagsBehind s now) (hfew : ¬ n ≤ r.buffered)
    {result : Timed (Except IoError Bytes)} {source : Source}
    (hread : r.source.read limits now (r.buffer.reserve chunk).spare = (result, source))
    (hnone : Source.gained result = []) :
    shortage result = (s.fetch limits n now).1 ∧
      LagsBehind ⟨r.buffer.reserve chunk, source⟩ (s.fetch limits n now).2 time ∧
      (r.buffer.reserve chunk).bytes = (s.fetch limits n now).2.held := by
  have hroom : 0 < (r.buffer.reserve chunk).spare :=
    Nat.lt_of_lt_of_le (by decide) (Buffer.le_spare_reserve chunk r.buffer)
  obtain ⟨hall, hburst, hsame⟩ := h.read_nothing hroom hfew hread hnone
  have hkeep : (r.buffer.reserve chunk).bytes = s.held := by rw [Buffer.bytes_reserve, hall]
  rw [hsame]
  refine ⟨rfl, ⟨hburst, rfl, time, [], le_rfl, ?_, rfl⟩, hkeep⟩
  rw [List.append_nil, hkeep]

/-- **A reader fetches what its supply fetches**, with the same result and at the same moment, and
lags behind it again. When it has not got enough it has left nothing behind. -/
theorem LagsBehind.fetch (h : r.LagsBehind s now) (limits : Limits) (n : ℕ) :
    (r.fetch limits n now).1 = (s.fetch limits n now).1 ∧
      (r.fetch limits n now).2.LagsBehind (s.fetch limits n now).2
        (r.fetch limits n now).1.time ∧
      ((r.fetch limits n now).1.outcome ≠ .done (.ok ()) →
        (r.fetch limits n now).2.buffer.bytes = (s.fetch limits n now).2.held) := by
  fun_induction Reader.fetch limits n now r generalizing s with
  | case1 now r henough =>
    obtain ⟨due, more, -, hheld, -⟩ := h.left
    have hle : n ≤ s.held.length := by
      rw [← hheld, List.length_append]
      exact Nat.le_add_right_of_le henough
    rw [Supply.fetch_of_le hle]
    exact ⟨rfl, h, fun hfail ↦ absurd rfl hfail⟩
  | case2 now r hfew buffer byte bytes moment source hread =>
    rename_i ih
    have hroom : 0 < (r.buffer.reserve chunk).spare :=
      Nat.lt_of_lt_of_le (by decide) (Buffer.le_spare_reserve chunk r.buffer)
    have hbytes : (buffer.append (byte :: bytes)).bytes = r.buffer.bytes ++ byte :: bytes := by
      rw [Buffer.bytes_append, Buffer.bytes_reserve]
    obtain ⟨s', hbehind, hsame⟩ := h.read_data hroom hfew hread hbytes
    rw [hsame]
    exact ih hbehind
  | case3 now r hfew buffer moment source | case4 now r hfew buffer error moment source
  | case5 now r hfew buffer moment source | case6 now r hfew buffer moment source =>
    rename_i hread
    obtain ⟨hresult, hbehind, hall⟩ := h.fetch_nothing hfew hread rfl
    exact ⟨hresult, hbehind, fun _ ↦ hall⟩

/-- A reader that takes bytes which it has takes those of its supply. -/
theorem LagsBehind.consume (h : r.LagsBehind s now) (hle : n ≤ r.buffered) :
    r.buffer.bytes.take n = s.held.take n ∧
      LagsBehind ⟨r.buffer.consume n, r.source⟩ ⟨s.held.drop n, s.script, s.signals⟩ now := by
  obtain ⟨due, more, hdue, hheld, hscript⟩ := h.left
  rw [← hheld]
  refine ⟨(List.take_append_of_le_length hle).symm, h.burst_pos, h.signals, due, more, hdue, ?_,
    hscript⟩
  rw [Buffer.bytes_consume, List.drop_append_of_le_length hle]

/-! ### Readers that fetch alike -/

/-- A relation that tells of two readers at a moment that they come to the same: they fetch alike,
and go on so when they have taken what they fetched. -/
structure FetchesAlike (same : Time → Reader → Reader → Prop) : Prop where
  fetch : ∀ {now : Time} {r₁ r₂ : Reader}, same now r₁ r₂ → ∀ limits n,
    (r₁.fetch limits n now).1 = (r₂.fetch limits n now).1 ∧
      same (r₁.fetch limits n now).1.time (r₁.fetch limits n now).2 (r₂.fetch limits n now).2 ∧
      ((r₁.fetch limits n now).1.outcome ≠ .done (.ok ()) →
        (r₁.fetch limits n now).2.buffered = (r₂.fetch limits n now).2.buffered)
  consume : ∀ {now : Time} {r₁ r₂ : Reader} {n : ℕ}, same now r₁ r₂ → n ≤ r₁.buffered →
    n ≤ r₂.buffered → r₁.buffer.bytes.take n = r₂.buffer.bytes.take n ∧
      same now ⟨r₁.buffer.consume n, r₁.source⟩ ⟨r₂.buffer.consume n, r₂.source⟩

namespace FetchesAlike

variable {same : Time → Reader → Reader → Prop} {r₁ r₂ : Reader}

/-- **Readers that fetch alike take the same bytes.** -/
theorem take (halike : FetchesAlike same) (h : same now r₁ r₂) (limits : Limits) (n : ℕ) :
    (r₁.take limits n now).1 = (r₂.take limits n now).1 ∧
      same (r₁.take limits n now).1.time (r₁.take limits n now).2 (r₂.take limits n now).2 ∧
      ((∀ raw, (r₁.take limits n now).1.outcome ≠ .done (.ok raw)) →
        (r₁.take limits n now).2.buffered = (r₂.take limits n now).2.buffered) := by
  obtain ⟨hresult, hsame, hall⟩ := halike.fetch h limits n
  rcases hfetch₁ : r₁.fetch limits n now with ⟨⟨outcome, time⟩, r₁'⟩
  rcases hfetch₂ : r₂.fetch limits n now with ⟨result, r₂'⟩
  rw [hfetch₁, hfetch₂] at hresult hsame hall
  obtain rfl : ⟨outcome, time⟩ = result := hresult
  rw [Reader.take, Reader.take, hfetch₁, hfetch₂]
  rcases outcome with (error | _) | _ | _
  · exact ⟨rfl, hsame, fun _ ↦ hall (by simp)⟩
  · obtain ⟨htake, hleft⟩ := halike.consume hsame (le_buffered_of_fetch hfetch₁)
      (le_buffered_of_fetch hfetch₂)
    refine ⟨?_, hleft, fun hfail ↦ absurd rfl (hfail _)⟩
    simp only [htake]
  · exact ⟨rfl, hsame, fun _ ↦ hall (by simp)⟩
  · exact ⟨rfl, hsame, fun _ ↦ hall (by simp)⟩

/-- **Readers that fetch alike read the same frames.** -/
theorem readFrame (halike : FetchesAlike same) (h : same now r₁ r₂) (limits : Limits) :
    (r₁.readFrame limits now).1 = (r₂.readFrame limits now).1 ∧
      same (r₁.readFrame limits now).1.time (r₁.readFrame limits now).2
        (r₂.readFrame limits now).2 := by
  obtain ⟨hresult, hsame, hall⟩ := halike.take h limits Header.size
  rcases htake₁ : r₁.take limits Header.size now with ⟨⟨outcome, time⟩, r₁'⟩
  rcases htake₂ : r₂.take limits Header.size now with ⟨result, r₂'⟩
  rw [htake₁, htake₂] at hresult hsame hall
  obtain rfl : ⟨outcome, time⟩ = result := hresult
  rw [Reader.readFrame, Reader.readFrame, htake₁, htake₂]
  rcases outcome with (error | raw) | _ | _
  · exact ⟨rfl, hsame⟩
  · rcases hdecode : Header.decode raw with error | header
    · simp only [hdecode]
      exact ⟨trivial, hsame⟩
    · obtain ⟨hbody, hsame', -⟩ := halike.take hsame limits header.length.toNat
      simp only [hdecode, readBody, ← hbody, Timed.time_settle, Timed.time_map]
      exact ⟨trivial, hsame'⟩
  · have hbuffered : r₁'.buffered = r₂'.buffered := hall (by simp)
    simp only [hbuffered]
    exact ⟨trivial, hsame⟩
  · exact ⟨rfl, hsame⟩

end FetchesAlike

/-! ### Readers that agree -/

/-- Two readers behind the same supply. -/
def Agree (r₁ r₂ : Reader) (now : Time) : Prop :=
  ∃ s : Supply, r₁.LagsBehind s now ∧ r₂.LagsBehind s now

section Agree

variable {r₁ r₂ : Reader}

theorem Agree.mono (h : r₁.Agree r₂ now) (hle : now ≤ time) : r₁.Agree r₂ time := by
  obtain ⟨s, h₁, h₂⟩ := h
  exact ⟨s, h₁.mono hle, h₂.mono hle⟩

/-- Readers that have fetched nothing agree if they have the same stream. -/
theorem agree_of_empty {source : Source} (hburst : 0 < source.burst) {buffer₁ buffer₂ : Buffer}
    (h₁ : buffer₁.bytes = []) (h₂ : buffer₂.bytes = []) (now : Time) :
    Agree ⟨buffer₁, source⟩ ⟨buffer₂, source⟩ now := by
  refine ⟨⟨[], source.script, source.signals⟩, ⟨hburst, rfl, now, [], le_rfl, ?_, rfl⟩,
    ⟨hburst, rfl, now, [], le_rfl, ?_, rfl⟩⟩
  · rw [List.append_nil, h₁]
  · rw [List.append_nil, h₂]

/-- Readers that agree have passed over the same signals. -/
theorem Agree.signals (h : r₁.Agree r₂ now) : r₁.source.signals = r₂.source.signals := by
  obtain ⟨s, h₁, h₂⟩ := h
  rw [h₁.signals, h₂.signals]

theorem Agree.clearSignals (h : r₁.Agree r₂ now) :
    Agree ⟨r₁.buffer, r₁.source.clearSignals⟩ ⟨r₂.buffer, r₂.source.clearSignals⟩ now := by
  obtain ⟨s, h₁, h₂⟩ := h
  exact ⟨⟨s.held, s.script, []⟩, ⟨h₁.burst_pos, rfl, h₁.left⟩, ⟨h₂.burst_pos, rfl, h₂.left⟩⟩

/-- **Readers that agree fetch alike.** -/
theorem Agree.fetch (h : r₁.Agree r₂ now) (limits : Limits) (n : ℕ) :
    (r₁.fetch limits n now).1 = (r₂.fetch limits n now).1 ∧
      (r₁.fetch limits n now).2.Agree (r₂.fetch limits n now).2
        (r₁.fetch limits n now).1.time ∧
      ((r₁.fetch limits n now).1.outcome ≠ .done (.ok ()) →
        (r₁.fetch limits n now).2.buffered = (r₂.fetch limits n now).2.buffered) := by
  obtain ⟨s, h₁, h₂⟩ := h
  obtain ⟨hresult₁, hbehind₁, hall₁⟩ := h₁.fetch limits n
  obtain ⟨hresult₂, hbehind₂, hall₂⟩ := h₂.fetch limits n
  have hresult : (r₁.fetch limits n now).1 = (r₂.fetch limits n now).1 :=
    hresult₁.trans hresult₂.symm
  rw [← hresult] at hbehind₂ hall₂
  refine ⟨hresult, ⟨_, hbehind₁, hbehind₂⟩, fun hfail ↦ ?_⟩
  rw [buffered, buffered, Buffer.length, Buffer.length, hall₁ hfail, hall₂ hfail]

/-- So agreeing is one of the ways to come to the same. -/
theorem fetchesAlike_agree : FetchesAlike fun now r₁ r₂ ↦ r₁.Agree r₂ now where
  fetch := Agree.fetch
  consume := by
    rintro now r₁ r₂ n ⟨s, h₁, h₂⟩ hle₁ hle₂
    obtain ⟨htake₁, hbehind₁⟩ := h₁.consume hle₁
    obtain ⟨htake₂, hbehind₂⟩ := h₂.consume hle₂
    exact ⟨htake₁.trans htake₂.symm, _, hbehind₁, hbehind₂⟩

/-- **Readers that agree read the same frames.** -/
theorem Agree.readFrame (h : r₁.Agree r₂ now) (limits : Limits) :
    (r₁.readFrame limits now).1 = (r₂.readFrame limits now).1 ∧
      (r₁.readFrame limits now).2.Agree (r₂.readFrame limits now).2
        (r₁.readFrame limits now).1.time :=
  fetchesAlike_agree.readFrame h limits

end Agree

end Reader

end FramedExchange
