import FramedExchange.Proofs.Stream.Elapsing

/-!
# When a frame has been read

What a stream has brought by each moment decides about the frame that is read from it
(`Received.frame?`), and the reading of the frame follows this decision
(`Reader.exists_follows_readFrame`). How many reads it takes, and how many bytes each of them
fetches, does not matter. What has been received also tells what a deadline that passes amounts to
(`Reader.lateness`).
-/

namespace FramedExchange

/-! ### Readers -/

namespace Reader

variable {deadline : Option Time} {n : ℕ} {now : Time} {r : Reader}

/-- How a reader takes bytes as they are received. -/
structure Takes (deadline : Option Time) (n : ℕ) (now : Time) (r : Reader)
    (taken : Timed (Except IoError Bytes) × Reader) : Prop where
  follows : taken.1.Follows deadline now fun moment ↦ (r.receivedBy moment).take? n
  /-- What was received is taken, or held, or still to come. -/
  received : ∀ raw, taken.1.outcome = .done (.ok raw) → raw.length = n ∧
    0 < taken.2.source.burst ∧ ∀ moment, taken.1.time ≤ moment →
      r.receivedBy moment = (taken.2.receivedBy moment).behind raw

/-- **A reader takes bytes as soon as they have been received.** -/
theorem takes_take (hburst : 0 < r.source.burst) (hnow : Limits.allows deadline now) (n : ℕ) :
    Takes deadline n now r (r.take ⟨deadline, none⟩ n now) := by
  let s : Supply := ⟨r.buffer.bytes, r.source.script, r.source.signals⟩
  have hstart : r.LagsBehind s now := ⟨hburst, rfl, now, [], le_rfl, List.append_nil _, rfl⟩
  have hreceived (moment : Time) : r.receivedBy moment = s.receivedBy moment := rfl
  obtain ⟨hresult, hbehind, -⟩ := hstart.fetch ⟨deadline, none⟩ n
  obtain ⟨hfollows, hkept⟩ := Supply.fetches_fetch hnow n s
  rw [← hresult] at hfollows hkept
  rcases hfetch : r.fetch ⟨deadline, none⟩ n now with ⟨⟨outcome, time⟩, r'⟩
  rw [hfetch] at hfollows hkept hbehind
  have hnone {moment : Time} (h : s.enoughBy? n moment = none) :
      (r.receivedBy moment).take? n = none :=
    Option.map_eq_none_iff.1 h
  rw [take, hfetch]
  cases hfollows with
  | done hle htime hdecided hbefore =>
    rename_i result
    obtain ⟨found, hfound, hmap⟩ := Option.map_eq_some_iff.1 hdecided
    -- what fetching has come to is what is decided about the bytes: an error, or enough of them
    cases result with
    | error error =>
      cases found with
      | error =>
        cases hmap
        refine ⟨.done hle htime hfound fun moment hge hlt ↦ hnone (hbefore moment hge hlt), ?_⟩
        rintro raw ⟨⟩
      | ok => cases hmap
    | ok =>
      have henough : n ≤ r'.buffer.bytes.length := le_buffered_of_fetch hfetch
      -- fetching moves bytes into the buffer and does not change what has been received
      have hsame (moment : Time) (hge : time ≤ moment) :
          r.receivedBy moment = r'.receivedBy moment := by
        rw [hreceived, ← hkept rfl moment hge, hbehind.receivedBy hge]
      have htaken : (r.receivedBy time).take? n = some (.ok (r'.buffer.bytes.take n)) := by
        rw [hsame time le_rfl, Reader.receivedBy, Received.take?_behind _ henough]
      refine ⟨.done hle htime htaken fun moment hge hlt ↦ hnone (hbefore moment hge hlt),
        fun raw hraw ↦ ?_⟩
      obtain rfl : r'.buffer.bytes.take n = raw := Except.ok.inj (Outcome.done.inj hraw)
      refine ⟨List.length_take_of_le henough, hbehind.burst_pos, fun moment hge ↦ ?_⟩
      rw [hsame moment hge, Reader.receivedBy, Reader.receivedBy, Buffer.bytes_consume,
        ← Received.behind_append, List.take_append_drop]
  | elapsed hle hdeadline hundecided =>
    refine ⟨.elapsed hle hdeadline fun moment hge hlast ↦ hnone (hundecided moment hge hlast), ?_⟩
    rintro raw ⟨⟩
  | hanging _ hdeadline hundecided =>
    refine ⟨.hanging time hdeadline fun moment hge ↦ hnone (hundecided moment hge), ?_⟩
    rintro raw ⟨⟩

/-! ### Frames -/

/-- What is decided by each moment about the frame that a reader reads. -/
def frameBy? (r : Reader) (moment : Time) : Option (Except FrameError Frame) :=
  (r.receivedBy moment).frame?

/-- What has been decided about a frame stays decided. -/
theorem isLasting_frameBy? (r : Reader) : IsLasting r.frameBy? :=
  fun _ _ hle _ hframe ↦ ((Source.grows_receivedBy hle _).behind _).frame? hframe

/-- What it means for a frame that a deadline passes: nothing if no byte of the frame has been
received by then. -/
def lateness (r : Reader) (moment : Time) : FrameError :=
  if (r.receivedBy moment).bytes = [] then .idle else .timeout

theorem lateness_of_behind {moment : Time} {front : Bytes} {received : Received}
    (hfront : front ≠ []) (h : r.receivedBy moment = received.behind front) :
    r.lateness moment = .timeout := by
  rw [lateness, h]
  exact if_neg fun hnothing ↦ hfront (List.append_eq_nil_iff.1 hnothing).1

/-- **The reading of a frame ends as soon as it is decided about the frame**, or exactly at the
deadline. Header and body have one deadline together. -/
theorem exists_follows_readFrame (hburst : 0 < r.source.burst)
    (hnow : Limits.allows deadline now) :
    ∃ t, Timed.Follows deadline now r.frameBy? t ∧
      (r.readFrame ⟨deadline, none⟩ now).1 = t.settle (.error (r.lateness t.time)) := by
  have hundecided {moment : Time} (h : (r.receivedBy moment).take? Header.size = none) :
      r.frameBy? moment = none := by
    rw [frameBy?, Received.frame?, h]
  obtain ⟨hfollows, hreceived⟩ := takes_take hburst hnow Header.size
  rcases htake : r.take ⟨deadline, none⟩ Header.size now with ⟨⟨outcome, time⟩, r'⟩
  rw [htake] at hfollows hreceived
  rw [readFrame, htake]
  cases hfollows with
  | done hle htime hdecided hbefore =>
    rename_i result
    cases result with
    | error error =>
      refine ⟨_, .done hle htime ?_ fun moment hge hlt ↦ hundecided (hbefore moment hge hlt), rfl⟩
      rw [frameBy?, Received.frame?, hdecided]
    | ok raw =>
      obtain ⟨hlength, hburst', hleft⟩ := hreceived raw rfl
      -- from now on the header is there, and what is left decides about the body
      have hframe (moment : Time) (hge : time ≤ moment) : r.frameBy? moment =
          (r'.receivedBy moment).frameOf? raw := by
        rw [frameBy?, Received.frame?, hleft moment hge, Received.take?_behind _ hlength.ge,
          List.take_of_length_le hlength.le, ← hlength]
        exact congrArg (Received.frameOf? raw) (Received.drop_behind raw _)
      rcases hdecode : Header.decode raw with error | header
      · refine ⟨⟨.done (.error error), time⟩, .done hle htime ?_ fun moment hge hlt ↦
          hundecided (hbefore moment hge hlt), ?_⟩
        · rw [hframe time le_rfl, Received.frameOf?, hdecode]
        · simp only [hdecode]
          rfl
      · have hbody := (takes_take hburst' htime header.length.toNat).follows.map fun result ↦
          (result.map (Frame.mk header)).mapError FrameError.ofIo
        refine ⟨_, (hbody.congr fun moment hge ↦ ?_).goOn hle fun moment hge hlt ↦
          hundecided (hbefore moment hge hlt), ?_⟩
        · rw [hframe moment hge, Received.frameOf?, hdecode]
        · have hraw : raw ≠ [] := List.ne_nil_of_length_pos (hlength ▸ Nat.succ_pos 9)
          have hafter := le_time_take ⟨deadline, none⟩ header.length.toNat time r'
          simp only [hdecode, Timed.time_map]
          rw [lateness_of_behind hraw (hleft _ hafter)]
          rfl
  | elapsed hle hdeadline hsilent =>
    refine ⟨_, .elapsed hle hdeadline fun moment hge hlast ↦
      hundecided (hsilent moment hge hlast), ?_⟩
    obtain ⟨hbytes, -⟩ := take_elapsed hburst htake
    simp only [lateness, ← hbytes, ← List.length_eq_zero_iff]
    rfl
  | hanging _ hdeadline hsilent =>
    exact ⟨_, .hanging time hdeadline fun moment hge ↦ hundecided (hsilent moment hge), rfl⟩

/-- **A frame is read in time**, from its first byte on. -/
theorem isInTime_readFrame (hburst : 0 < r.source.burst) (hbuffered : r.buffered ≠ 0)
    (timeout since : Time) :
    (r.readFrame ⟨deadlineAfter since timeout, none⟩ since).1.IsInTime (.error .timeout) timeout
      since r.frameBy? := by
  have hsince : Limits.allows (deadlineAfter since timeout) since :=
    allows_deadlineAfter_iff.2 (.inr (Nat.le_add_right ..))
  obtain ⟨t, hfollows, hread⟩ := exists_follows_readFrame hburst hsince
  have hbytes : r.buffer.bytes ≠ [] := fun hnil ↦ hbuffered (congrArg List.length hnil)
  rw [hread, lateness_of_behind hbytes rfl]
  exact hfollows.isInTime r.isLasting_frameBy? _

end Reader

end FramedExchange
