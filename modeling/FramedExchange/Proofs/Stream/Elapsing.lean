import FramedExchange.Proofs.Stream.Receiving

/-!
# What a deadline leaves

Where fetching is given up at a deadline, all that has come in by then has been fetched and nothing
else is there yet (`Supply.fetchFrom_elapsed`).

If that was nothing, only signals and empty pieces have been passed over. Then the reader comes to
the same from there on as if it had never tried (`Reader.Resumes`): whatever it passed over would be
passed over at once by whoever reads later.
-/

namespace FramedExchange

/-- Giving up at a deadline means that the observation goes on until then. -/
theorem giveUp_eq_elapsed {α : Type} {limits : Limits} {now last : Time}
    (h : (giveUp limits now : Timed α) = ⟨.elapsed, last⟩) :
    ∃ deadline, limits.deadline = some deadline ∧ last = max now deadline ∧
      ∀ moment, moment ≤ deadline → Limits.allows limits.horizon moment := by
  obtain ⟨- | deadline, - | horizon⟩ := limits
  · cases h
  · cases h
  · cases h
    exact ⟨deadline, rfl, rfl, fun _ _ ↦ rfl⟩
  · change (if deadline ≤ horizon then _ else _) = _ at h
    split at h
    · rename_i hends
      cases h
      exact ⟨deadline, rfl, rfl, fun moment hle ↦ decide_eq_true (hle.trans hends)⟩
    · cases h

/-- What is given up at a deadline is not there by then. -/
theorem lt_of_await_elapsed {limits : Limits} {now due last : Time}
    (h : await limits now (some due) = ⟨.elapsed, last⟩) : last < due := by
  rw [await] at h
  split at h
  · cases h
  · rename_i hlater
    split at h
    · cases h
    · rename_i hdenied
      obtain ⟨deadline, hdeadline, rfl, hgoesOn⟩ := giveUp_eq_elapsed h
      refine Nat.max_lt.2 ⟨Nat.lt_of_not_le hlater, Nat.lt_of_not_le fun hle ↦ hdenied ?_⟩
      rw [hdeadline, hgoesOn due hle, Bool.and_true]
      exact decide_eq_true hle

namespace Source

/-- What has come in by a moment from the front of a script: bytes in pieces, with signals between
them. -/
inductive CameIn (moment : Time) :
    List (Scheduled Arrival) → Bytes → List (Scheduled Arrival) → Prop
  | nothing (script : List (Scheduled Arrival)) : CameIn moment script [] script
  | data {due : Time} {bytes more : Bytes} {rest left : List (Scheduled Arrival)}
      (hdue : due ≤ moment) (h : CameIn moment rest more left) :
      CameIn moment (⟨due, .data bytes⟩ :: rest) (bytes ++ more) left
  | signal {due : Time} {bytes : Bytes} {rest left : List (Scheduled Arrival)}
      (hdue : due ≤ moment) (h : CameIn moment rest bytes left) :
      CameIn moment (⟨due, .signal⟩ :: rest) bytes left

variable {moment later : Time} {script left : List (Scheduled Arrival)} {bytes : Bytes}

theorem CameIn.mono (h : CameIn moment script bytes left) (hle : moment ≤ later) :
    CameIn later script bytes left := by
  induction h with
  | nothing => exact .nothing _
  | data hdue _ ih => exact .data (hdue.trans hle) ih
  | signal hdue _ ih => exact .signal (hdue.trans hle) ih

/-- What has come in stands in front of what is received later. -/
theorem CameIn.receivedBy (h : CameIn moment script bytes left) (hle : moment ≤ later) :
    receivedBy later script = (receivedBy later left).behind bytes := by
  induction h with
  | nothing => rfl
  | data hdue _ ih =>
    rw [Source.receivedBy, if_neg (Nat.not_lt.2 (hdue.trans hle)), ih, Received.behind_append]
  | signal hdue _ ih =>
    rw [Source.receivedBy, if_neg (Nat.not_lt.2 (hdue.trans hle)), ih]

end Source

namespace Supply

variable {limits : Limits} {n : ℕ} {now last : Time} {held : Bytes} {signals : List Time}
variable {script : List (Scheduled Arrival)} {s s' : Supply}

/-- What fetching that was given up at a deadline leaves of a script. -/
structure Elapses (last : Time) (held : Bytes) (script : List (Scheduled Arrival)) (s : Supply) :
    Prop where
  cameIn : ∃ bytes, s.held = held ++ bytes ∧ Source.CameIn last script bytes s.script
  /-- Nothing else is there yet. -/
  pending : Source.receivedBy last s.script = .empty

/-- **Fetching that is given up at a deadline has fetched all that has come in by then.** -/
theorem fetchFrom_elapsed
    (h : fetchFrom limits n now held signals script = (⟨.elapsed, last⟩, s)) :
    now ≤ last ∧ Elapses last held script s := by
  induction script generalizing now held signals with
  | nil =>
    rw [fetchFrom] at h
    split at h
    · cases h
    · obtain ⟨hgive, rfl⟩ := Prod.mk.inj h
      have hle := le_time_giveUp limits now (α := Except IoError Unit)
      rw [hgive] at hle
      exact ⟨hle, ⟨[], (List.append_nil held).symm, .nothing []⟩, rfl⟩
  | cons item rest ih =>
    obtain ⟨due, event⟩ := item
    rw [fetchFrom] at h
    split at h
    · cases h
    have hle := le_time_await limits now (Source.dueOf ⟨due, event⟩)
    -- a piece that is there goes into the buffer; the deadline passes while one is waited for
    rcases hawait : await limits now (Source.dueOf ⟨due, event⟩) with ⟨⟨⟩ | _ | _, time⟩
    all_goals rw [hawait] at h hle
    · cases event with
      | data bytes =>
        obtain ⟨hlast, ⟨more, hheld, hcame⟩, hpending⟩ := ih h
        have hdue := (le_time_of_await hawait).trans hlast
        rw [List.append_assoc] at hheld
        exact ⟨hle.trans hlast, ⟨bytes ++ more, hheld, .data hdue hcame⟩, hpending⟩
      | signal =>
        obtain ⟨hlast, ⟨more, hheld, hcame⟩, hpending⟩ := ih h
        have hdue := (le_time_of_await hawait).trans hlast
        exact ⟨hle.trans hlast, ⟨more, hheld, .signal hdue hcame⟩, hpending⟩
      | eof | failure => cases h
      | stall => exact absurd (congrArg Timed.outcome hawait) (giveUp_ne_done limits now ())
    · cases h
      refine ⟨hle, ⟨[], (List.append_nil held).symm, .nothing _⟩, ?_⟩
      rw [Source.receivedBy]
      cases event with
      | stall => exact ite_self _
      | data | eof | failure | signal => exact if_pos (lt_of_await_elapsed hawait)
    · cases h

/-! ### Going on -/

/-- The noted signals do not matter to what is fetched. -/
theorem fetchFrom_signals_congr (limits : Limits) (n : ℕ) (now : Time) (held : Bytes)
    (script : List (Scheduled Arrival)) (signals signals' : List Time) :
    (fetchFrom limits n now held signals script).1 =
        (fetchFrom limits n now held signals' script).1 ∧
      (fetchFrom limits n now held signals script).2.held =
        (fetchFrom limits n now held signals' script).2.held ∧
      (fetchFrom limits n now held signals script).2.script =
        (fetchFrom limits n now held signals' script).2.script := by
  induction script generalizing now held signals signals' with
  | nil =>
    rw [fetchFrom, fetchFrom]
    split <;> exact ⟨rfl, rfl, rfl⟩
  | cons item rest ih =>
    rw [fetchFrom, fetchFrom]
    split
    · exact ⟨rfl, rfl, rfl⟩
    · rcases await limits now (Source.dueOf item) with ⟨⟨⟩ | _ | _, time⟩
      · rcases item with ⟨due, bytes | - | error | - | -⟩
        · exact ih time (held ++ bytes) signals signals'
        · exact ⟨rfl, rfl, rfl⟩
        · exact ⟨rfl, rfl, rfl⟩
        · exact ih time held (signals ++ [time]) (signals' ++ [time])
        · exact ⟨rfl, rfl, rfl⟩
      · exact ⟨rfl, rfl, rfl⟩
      · exact ⟨rfl, rfl, rfl⟩

/-- What brings nothing is passed over at once by whoever has to fetch more. -/
theorem fetchFrom_of_cameIn {moment : Time} {left : List (Scheduled Arrival)} {bytes : Bytes}
    (h : Source.CameIn moment script bytes left) (hnothing : bytes = []) (hle : moment ≤ now)
    (hfew : ¬n ≤ held.length) :
    ∃ signals', fetchFrom limits n now held signals script =
      fetchFrom limits n now held signals' left := by
  induction h generalizing signals with
  | nothing => exact ⟨signals, rfl⟩
  | data hdue _ ih =>
    obtain ⟨rfl, rfl⟩ := List.append_eq_nil_iff.1 hnothing
    rw [fetchFrom_data hfew (await_of_le (hdue.trans hle)), List.append_nil]
    exact ih rfl
  | signal hdue _ ih =>
    rw [fetchFrom_signal hfew (await_of_le (hdue.trans hle))]
    exact ih hnothing

/-- A supply that has passed over what brings nothing, and one that has not. -/
structure Resumes (now : Time) (s s' : Supply) : Prop where
  held : s.held = s'.held
  script : Source.CameIn now s.script [] s'.script

/-- **Whether what brings nothing has been passed over makes no difference.** -/
theorem Resumes.fetch (h : Resumes now s s') (limits : Limits) (n : ℕ) :
    (s.fetch limits n now).1 = (s'.fetch limits n now).1 ∧
      Resumes (s.fetch limits n now).1.time (s.fetch limits n now).2 (s'.fetch limits n now).2 := by
  by_cases hle : n ≤ s.held.length
  · rw [fetch_of_le hle, fetch_of_le (h.held ▸ hle)]
    exact ⟨rfl, h⟩
  · obtain ⟨signals, hsame⟩ := fetchFrom_of_cameIn h.script rfl le_rfl hle
    obtain ⟨hresult, hheld, hscript⟩ :=
      fetchFrom_signals_congr limits n now s.held s'.script signals s'.signals
    rw [Supply.fetch, Supply.fetch, hsame, ← h.held]
    exact ⟨hresult, hheld, hscript ▸ .nothing _⟩

end Supply

namespace Reader

/-- A reader that has passed over what brings nothing, and one that has not. -/
def Resumes (now : Time) (r r' : Reader) : Prop :=
  ∃ s s' : Supply, r.LagsBehind s now ∧ r'.LagsBehind s' now ∧ s.Resumes now s'

/-- **Readers of which one has passed over what brings nothing fetch alike.** -/
theorem fetchesAlike_resumes : FetchesAlike Resumes where
  fetch := by
    rintro now r r' ⟨s, s', h, h', hresumes⟩ limits n
    obtain ⟨hresult, hbehind, hall⟩ := h.fetch limits n
    obtain ⟨hresult', hbehind', hall'⟩ := h'.fetch limits n
    obtain ⟨hsame, hresumes'⟩ := hresumes.fetch limits n
    have heq : (r.fetch limits n now).1 = (r'.fetch limits n now).1 := by
      rw [hresult, hsame, hresult']
    rw [← heq] at hbehind' hall'
    rw [← hresult] at hresumes'
    refine ⟨heq, ⟨_, _, hbehind, hbehind', hresumes'⟩, fun hfail ↦ ?_⟩
    rw [buffered, buffered, Buffer.length, Buffer.length, hall hfail, hall' hfail, hresumes'.held]
  consume := by
    rintro now r r' n ⟨s, s', h, h', hresumes⟩ hle hle'
    obtain ⟨htake, hbehind⟩ := h.consume hle
    obtain ⟨htake', hbehind'⟩ := h'.consume hle'
    refine ⟨by rw [htake, htake', hresumes.held], _, _, hbehind, hbehind', ?_, hresumes.script⟩
    exact congrArg (List.drop n) hresumes.held

theorem Resumes.mono {now later : Time} {r r' : Reader} (h : r.Resumes now r')
    (hle : now ≤ later) : r.Resumes later r' := by
  obtain ⟨s, s', hr, hr', hresumes⟩ := h
  exact ⟨s, s', hr.mono hle, hr'.mono hle, hresumes.held, hresumes.script.mono hle⟩

/-- **A read that is given up at a deadline has fetched all that has been received by then**, and if
that is nothing, it has made no difference. -/
theorem take_elapsed {limits : Limits} {n : ℕ} {now last : Time} {r r' : Reader}
    (hburst : 0 < r.source.burst) (h : r.take limits n now = (⟨.elapsed, last⟩, r')) :
    r'.buffer.bytes = (r.receivedBy last).bytes ∧ (r'.buffer.bytes = [] → r.Resumes last r') := by
  let s : Supply := ⟨r.buffer.bytes, r.source.script, r.source.signals⟩
  have hstart : r.LagsBehind s now := ⟨hburst, rfl, now, [], le_rfl, List.append_nil _, rfl⟩
  obtain ⟨hresult, hbehind, hall⟩ := hstart.fetch limits n
  rcases hfetch : r.fetch limits n now with ⟨⟨(error | ⟨⟩) | _ | _, time⟩, fetched⟩
  all_goals rw [take, hfetch] at h
  case elapsed =>
    cases h
    rw [hfetch] at hresult hbehind hall
    rcases hsupply : s.fetch limits n now with ⟨result, s'⟩
    rw [hsupply] at hresult hbehind hall
    obtain rfl : ⟨.elapsed, last⟩ = result := hresult
    obtain ⟨hle, ⟨bytes, hheld, hcame⟩, hpending⟩ := Supply.fetchFrom_elapsed hsupply
    have hbytes : r'.buffer.bytes = s'.held := hall (by rintro ⟨⟩)
    refine ⟨?_, fun hnothing ↦ ⟨s, s', hstart.mono hle, hbehind, ?_⟩⟩
    · rw [receivedBy, hcame.receivedBy le_rfl, hpending, ← Received.behind_append, hbytes, hheld]
      exact (List.append_nil _).symm
    · rw [hbytes, hheld] at hnothing
      obtain ⟨hempty, rfl⟩ := List.append_eq_nil_iff.1 hnothing
      exact ⟨by rw [hheld, List.append_nil], hcame⟩
  all_goals cases h

end Reader

end FramedExchange
