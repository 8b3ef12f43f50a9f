import FramedExchange.Proofs.Stream.Reading
import FramedExchange.Proofs.Stream.Writing

/-!
# Streams on which nothing is awaited for ever

A source comes to an end if it brings bytes and signals, in pieces and at moments of any kind,
and then ends the stream or fails (`Source.Ends`). A sink is responsive if every write and every
flush completes or fails some time (`Sink.IsResponsive`). Deadlines may cut any wait short. But
while the observation goes on, every read from such a source and every write to such a sink
comes to something:

* `Reader.fetch_ne_hanging`, `Reader.isSome_readFrame`: reading comes to an end, and behind what has
  been read the source still does;
* `Writer.isSome_writeFrame`: writing a frame comes to an end, whatever becomes of it.
-/

namespace FramedExchange

theorem Outcome.done_ne_hanging {α : Type} (result : α) : Outcome.done result ≠ .hanging := by
  rintro ⟨⟩

theorem Outcome.elapsed_ne_hanging {α : Type} : (Outcome.elapsed : Outcome α) ≠ .hanging := by
  rintro ⟨⟩

/-- What becomes possible some time is awaited for ever only where the observation ends. -/
theorem horizon_ne_none_of_await {limits : Limits} {now due time : Time}
    (h : await limits now (some due) = ⟨.hanging, time⟩) : limits.horizon ≠ none := by
  obtain ⟨deadline, horizon⟩ := limits
  rintro rfl
  rw [await] at h
  split at h
  · cases h
  · cases deadline with
    | none => cases h
    | some last => split at h <;> cases h

namespace Source

variable {limits : Limits} {space : ℕ} {now time : Time} {script left : List (Scheduled Arrival)}
variable {signals : List Time}

/-- A script that brings bytes and signals, and then the end of the stream or a failure. -/
inductive Ends : List (Scheduled Arrival) → Prop
  | eof (due : Time) : Ends [⟨due, .eof⟩]
  | failure (due : Time) (error : IoError) : Ends [⟨due, .failure error⟩]
  | data (due : Time) (bytes : Bytes) {rest : List (Scheduled Arrival)} :
      Ends rest → Ends (⟨due, .data bytes⟩ :: rest)
  | signal (due : Time) {rest : List (Scheduled Arrival)} :
      Ends rest → Ends (⟨due, .signal⟩ :: rest)

/-- **A read from such a script comes to something**, and behind the bytes that it brings the script
still comes to its end. -/
theorem Ends.readScript (h : Ends script) (limits : Limits) (space : ℕ) (now : Time) :
    (limits.horizon = none → (readScript limits space now script).1.outcome ≠ .hanging) ∧
      (gained (readScript limits space now script).1 ≠ [] →
        Ends (readScript limits space now script).2.1) := by
  induction h generalizing now with
  | eof due | failure due =>
    rcases hawait : await limits now (some due) with ⟨_ | _ | _, time⟩
    all_goals simp only [Source.readScript, dueOf, hawait]
    · exact ⟨fun _ ↦ Outcome.done_ne_hanging _, fun hgained ↦ absurd rfl hgained⟩
    · exact ⟨fun _ ↦ Outcome.elapsed_ne_hanging, fun hgained ↦ absurd rfl hgained⟩
    · have hstays := horizon_ne_none_of_await hawait
      exact ⟨fun hhorizon ↦ absurd hhorizon hstays, fun hgained ↦ absurd rfl hgained⟩
  | @data due bytes rest hrest ih =>
    rcases hawait : await limits now (some due) with ⟨_ | _ | _, time⟩
    · cases bytes with
      | nil =>
        simp only [Source.readScript, dueOf, hawait]
        exact ih time
      | cons byte bytes =>
        -- the rest of a piece that was taken in part still stands before the end
        rcases hleft : (byte :: bytes).drop space with - | ⟨first, left⟩
        · simp only [Source.readScript, dueOf, hawait, hleft]
          exact ⟨fun _ ↦ Outcome.done_ne_hanging _, fun _ ↦ hrest⟩
        · simp only [Source.readScript, dueOf, hawait, hleft]
          exact ⟨fun _ ↦ Outcome.done_ne_hanging _, fun _ ↦ .data due _ hrest⟩
    · simp only [Source.readScript, dueOf, hawait]
      exact ⟨fun _ ↦ Outcome.elapsed_ne_hanging, fun hgained ↦ absurd rfl hgained⟩
    · simp only [Source.readScript, dueOf, hawait]
      have hstays := horizon_ne_none_of_await hawait
      exact ⟨fun hhorizon ↦ absurd hhorizon hstays, fun hgained ↦ absurd rfl hgained⟩
  | @signal due rest hrest ih =>
    rcases hawait : await limits now (some due) with ⟨_ | _ | _, time⟩
    all_goals simp only [Source.readScript, dueOf, hawait]
    · exact ih time
    · exact ⟨fun _ ↦ Outcome.elapsed_ne_hanging, fun hgained ↦ absurd rfl hgained⟩
    · have hstays := horizon_ne_none_of_await hawait
      exact ⟨fun hhorizon ↦ absurd hhorizon hstays, fun hgained ↦ absurd rfl hgained⟩

theorem Ends.read {source source' : Source} (h : Ends source.script)
    {result : Timed (Except IoError Bytes)}
    (hread : source.read limits now space = (result, source')) :
    (limits.horizon = none → result.outcome ≠ .hanging) ∧
      (gained result ≠ [] → Ends source'.script) := by
  obtain ⟨rfl, rfl⟩ := Prod.mk.inj hread
  exact h.readScript limits (min space source.burst) now

end Source

namespace Reader

variable {limits : Limits} {n : ℕ} {now time : Time} {r r' : Reader}

/-! ### Reading -/

/-- **Fetching comes to an end.** -/
theorem fetch_ne_hanging (h : Source.Ends r.source.script) (hhorizon : limits.horizon = none)
    (n : ℕ) (now : Time) : (r.fetch limits n now).1.outcome ≠ .hanging := by
  fun_induction fetch limits n now r with
  | case2 now r hfew buffer byte bytes time source hread ih =>
    exact ih ((h.read hread).2 (List.cons_ne_nil byte bytes))
  | case6 now r hfew buffer time source hread => exact absurd rfl ((h.read hread).1 hhorizon)
  | case1 | case3 | case4 | case5 => rintro ⟨⟩

theorem ends_of_fetch (h : Source.Ends r.source.script)
    (hfetch : r.fetch limits n now = (⟨.done (.ok ()), time⟩, r')) :
    Source.Ends r'.source.script := by
  fun_induction fetch limits n now r with
  | case1 now r henough =>
    cases hfetch
    exact h
  | case2 now r hfew buffer byte bytes moment source hread ih =>
    exact ih ((h.read hread).2 (List.cons_ne_nil byte bytes)) hfetch
  | case3 | case4 | case5 | case6 => cases hfetch

theorem take_ne_hanging (h : Source.Ends r.source.script) (hhorizon : limits.horizon = none) (n : ℕ)
    (now : Time) : (r.take limits n now).1.outcome ≠ .hanging := by
  have hnothing := fetch_ne_hanging h hhorizon n now
  rw [take]
  rcases hfetch : r.fetch limits n now with ⟨⟨(error | _) | _ | _, time⟩, fetched⟩
  · rintro ⟨⟩
  · rintro ⟨⟩
  · rintro ⟨⟩
  · rw [hfetch] at hnothing
    exact absurd rfl hnothing

theorem ends_of_take (h : Source.Ends r.source.script) {raw : Bytes}
    (htake : r.take limits n now = (⟨.done (.ok raw), time⟩, r')) :
    Source.Ends r'.source.script := by
  rw [take] at htake
  rcases hfetch : r.fetch limits n now with ⟨⟨(error | done) | _ | _, moment⟩, fetched⟩
  all_goals
    rw [hfetch] at htake
    cases htake
  have hfetched : Source.Ends fetched.source.script := ends_of_fetch h hfetch
  exact hfetched

theorem isSome_readBody (h : Source.Ends r.source.script) (hhorizon : limits.horizon = none)
    (header : Header) (now : Time) : (r.readBody limits header now).1.result?.isSome := by
  have hnothing := take_ne_hanging h hhorizon header.length.toNat now
  rw [readBody]
  rcases htake : r.take limits header.length.toNat now with ⟨⟨(error | raw) | _ | _, time⟩, taken⟩
  · rfl
  · rfl
  · rfl
  · rw [htake] at hnothing
    exact absurd rfl hnothing

/-- **Reading a frame comes to an end**, with the frame or without. -/
theorem isSome_readFrame (h : Source.Ends r.source.script) (hhorizon : limits.horizon = none)
    (now : Time) : (r.readFrame limits now).1.result?.isSome := by
  have hnothing := take_ne_hanging h hhorizon Header.size now
  rw [readFrame]
  rcases htake : r.take limits Header.size now with ⟨⟨(error | raw) | _ | _, time⟩, taken⟩
  · rfl
  · rcases hdecode : Header.decode raw with error | header
    · simp only [hdecode]
      rfl
    · simp only [hdecode]
      exact isSome_readBody (ends_of_take h htake) hhorizon header time
  · rfl
  · rw [htake] at hnothing
    exact absurd rfl hnothing

/-- Behind a frame that has been read the source still comes to its end. -/
theorem ends_of_readFrame (h : Source.Ends r.source.script) {frame : Frame}
    (hread : r.readFrame limits now = (⟨some (.ok frame), time⟩, r')) :
    Source.Ends r'.source.script := by
  rw [readFrame] at hread
  rcases htake : r.take limits Header.size now with ⟨⟨(error | raw) | _ | _, moment⟩, taken⟩
  all_goals rw [htake] at hread
  · cases hread
  · rcases hdecode : Header.decode raw with error | header
    · simp only [hdecode] at hread
      cases hread
    · simp only [hdecode, readBody] at hread
      rcases hbody : taken.take limits header.length.toNat moment with
        ⟨⟨(error | raw) | _ | _, last⟩, after⟩
      all_goals
        rw [hbody] at hread
        cases hread
      exact ends_of_take (ends_of_take h htake) hbody
  · cases hread
  · cases hread

end Reader

namespace Sink

variable {limits : Limits}

/-- A sink of which every write and every flush completes or fails some time. -/
structure IsResponsive (sink : Sink) : Prop where
  writes : ∀ item ∈ sink.writes, item.event ≠ .stall
  flushes : ∀ item ∈ sink.flushes, item.event ≠ .stall

/-! ### Writing -/

/-- A write that does not stall is possible some time. -/
theorem dueOfWrite_of_ne_stall {item : Scheduled Acceptance} (h : item.event ≠ .stall) :
    dueOfWrite item = some item.due := by
  obtain ⟨due, _ | _ | _⟩ := item
  · rfl
  · rfl
  · exact absurd rfl h

/-- A flush or a shutdown that does not stall is possible some time. -/
theorem dueOfCall_of_ne_stall {item : Scheduled Completion} (h : item.event ≠ .stall) :
    dueOfCall item = some item.due := by
  obtain ⟨due, _ | _ | _⟩ := item
  · rfl
  · rfl
  · exact absurd rfl h

/-- **Writing comes to something**, and it uses up the first items of its script. -/
theorem writeScript_ne_hanging (limits : Limits) (now : Time) (bytes : Bytes)
    {script : List (Scheduled Acceptance)} (h : ∀ item ∈ script, item.event ≠ .stall) :
    (limits.horizon = none → (writeScript limits now bytes script).1.outcome ≠ .hanging) ∧
      (writeScript limits now bytes script).2.1 <:+ script := by
  fun_induction writeScript limits now bytes script with
  | case1 | case2 => exact ⟨fun _ ↦ Outcome.done_ne_hanging _, List.suffix_refl _⟩
  | case3 | case6 => exact ⟨fun _ ↦ Outcome.done_ne_hanging _, List.suffix_cons ..⟩
  | case4 now bytes item rest _ time _ most _ _ result left sent hrest ih =>
    rw [hrest] at ih
    obtain ⟨hcomes, hsuffix⟩ := ih (List.forall_mem_cons.1 h).2
    exact ⟨hcomes, hsuffix.trans (List.suffix_cons ..)⟩
  | case5 now bytes item rest _ time _ error _ _ ih =>
    obtain ⟨hcomes, hsuffix⟩ := ih (List.forall_mem_cons.1 h).2
    exact ⟨hcomes, hsuffix.trans (List.suffix_cons ..)⟩
  | case7 now bytes item rest _ time _ hstall => exact absurd hstall (h item List.mem_cons_self)
  | case8 => exact ⟨fun _ ↦ Outcome.elapsed_ne_hanging, List.suffix_refl _⟩
  | case9 now bytes item rest _ time hawait =>
    rw [dueOfWrite_of_ne_stall (h item List.mem_cons_self)] at hawait
    exact ⟨fun hhorizon ↦ absurd hhorizon (horizon_ne_none_of_await hawait), List.suffix_refl _⟩

/-- **A call comes to something**, and it uses up at most the first item of its script. -/
theorem callScript_ne_hanging (limits : Limits) (now : Time) {script : List (Scheduled Completion)}
    (h : ∀ item ∈ script, item.event ≠ .stall) :
    (limits.horizon = none → (callScript limits now script).1.outcome ≠ .hanging) ∧
      (callScript limits now script).2 <:+ script := by
  fun_cases callScript limits now script with
  | case1 => exact ⟨fun _ ↦ Outcome.done_ne_hanging _, List.suffix_refl _⟩
  | case2 | case3 => exact ⟨fun _ ↦ Outcome.done_ne_hanging _, List.suffix_cons ..⟩
  | case4 item rest time _ hstall => exact absurd hstall (h item List.mem_cons_self)
  | case5 => exact ⟨fun _ ↦ Outcome.elapsed_ne_hanging, List.suffix_refl _⟩
  | case6 item rest time hawait =>
    rw [dueOfCall_of_ne_stall (h item List.mem_cons_self)] at hawait
    exact ⟨fun hhorizon ↦ absurd hhorizon (horizon_ne_none_of_await hawait), List.suffix_refl _⟩

/-- With a deadline a call comes to something whatever its script is. -/
theorem callScript_ne_hanging_of_deadline (last now : Time) (script : List (Scheduled Completion)) :
    (callScript ⟨some last, none⟩ now script).1.outcome ≠ .hanging := by
  fun_cases callScript ⟨some last, none⟩ now script with
  | case1 | case2 | case3 | case4 | case5 => rintro ⟨⟩
  | case6 item rest time hawait =>
    rcases hdue : dueOfCall item with - | due
    · rw [hdue] at hawait
      cases hawait
    · rw [hdue] at hawait
      exact absurd rfl (horizon_ne_none_of_await hawait)

end Sink

namespace Writer

open Sink

theorem writeRaw_ne_hanging {w : Writer} (h : w.sink.IsResponsive) (limits : Limits)
    (header : Header) (body : Bytes) (now : Time) :
    (limits.horizon = none → (w.writeRaw limits header body now).1.outcome ≠ .hanging) ∧
      (w.writeRaw limits header body now).2.sink.IsResponsive ∧
      (w.writeRaw limits header body now).2.sink.shutdowns = w.sink.shutdowns := by
  obtain ⟨hcomes, hsuffix⟩ := writeScript_ne_hanging limits now (header.encode ++ body) h.writes
  simp only [writeRaw, bytes_assemble, writeAll]
  rcases hwrite : writeScript limits now (header.encode ++ body) w.sink.writes with
    ⟨⟨outcome, time⟩, writes, pieces⟩
  rw [hwrite] at hcomes hsuffix
  have hwrites : ∀ item ∈ writes, item.event ≠ .stall := fun item hmem ↦
    h.writes item (hsuffix.subset hmem)
  rcases outcome with (error | ⟨⟩) | _ | _
  case done.ok =>
    -- what was written is flushed
    obtain ⟨hflushed, hflushes⟩ := callScript_ne_hanging limits time h.flushes
    exact ⟨hflushed, ⟨hwrites, fun item hmem ↦ h.flushes item (hflushes.subset hmem)⟩, rfl⟩
  all_goals exact ⟨hcomes, ⟨hwrites, h.flushes⟩, rfl⟩

/-- **Writing a frame comes to an end**, and the sink stays responsive. Whether it can be shut down
is left open. -/
theorem isSome_writeFrame {w : Writer} (h : w.sink.IsResponsive) (limits : Limits) (header : Header)
    (body : Bytes) (now : Time) :
    (limits.horizon = none → (w.writeFrame limits header body now).1.result?.isSome) ∧
      (w.writeFrame limits header body now).2.sink.IsResponsive ∧
      (w.writeFrame limits header body now).2.sink.shutdowns = w.sink.shutdowns := by
  rw [writeFrame]
  split
  · exact ⟨fun _ ↦ rfl, h, rfl⟩
  · obtain ⟨hcomes, hkept⟩ :=
      writeRaw_ne_hanging h limits { header with length := UInt16.ofNat body.length } body now
    refine ⟨fun hhorizon ↦ ?_, hkept⟩
    have hresult := hcomes hhorizon
    simp only
    generalize (w.writeRaw limits { header with length := UInt16.ofNat body.length } body now).1 =
      result at hresult ⊢
    obtain ⟨_ | _ | _, time⟩ := result
    · rfl
    · rfl
    · exact absurd rfl hresult

end Writer

end FramedExchange
