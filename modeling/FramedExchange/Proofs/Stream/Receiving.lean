import FramedExchange.Proofs.Stream.Decision
import FramedExchange.Proofs.Stream.Received
import FramedExchange.Proofs.Stream.Supply

/-!
# Fetching what a stream brings

A script says what it has brought by each moment (`Source.receivedBy`). A supply has fetched enough
as soon as that has been received (`Supply.fetches_fetchFrom`). What a reader has fetched and what
is still to come are the same together, however much it has fetched (`Reader.receivedBy`).
-/

namespace FramedExchange

/-! ### What a stream has brought -/

namespace Source

/-- What a script has brought by a moment. -/
def receivedBy (moment : Time) : List (Scheduled Arrival) → Received
  | [] => .empty
  | item :: rest =>
    if moment < item.due then .empty
    else
      match item.event with
      | .data bytes => (receivedBy moment rest).behind bytes
      | .signal => receivedBy moment rest
      | .eof => ⟨[], some .streamClosed⟩
      | .failure error => ⟨[], some error⟩
      | .stall => .empty

/-- **As time goes by, more may come.** -/
theorem grows_receivedBy {moment later : Time} (hle : moment ≤ later)
    (script : List (Scheduled Arrival)) :
    (receivedBy moment script).Grows (receivedBy later script) := by
  induction script with
  | nil => exact .refl _
  | cons item rest ih =>
    rw [receivedBy, receivedBy]
    by_cases hdue : moment < item.due
    · rw [if_pos hdue]
      exact Received.grows_empty _
    · rw [if_neg hdue, if_neg (Nat.not_lt.2 ((Nat.le_of_not_lt hdue).trans hle))]
      cases item.event with
      | data bytes => exact ih.behind bytes
      | signal => exact ih
      | eof | failure | stall => exact .refl _

end Source

/-! ### Supplies -/

namespace Supply

variable {deadline : Option Time} {n : ℕ} {now : Time} {s : Supply}

/-- What has been received by a moment, with what is held. -/
def receivedBy (moment : Time) (s : Supply) : Received :=
  (Source.receivedBy moment s.script).behind s.held

/-- Whether enough has been received by a moment, or nothing more will come. -/
def enoughBy? (n : ℕ) (s : Supply) (moment : Time) : Option (Except IoError Unit) :=
  ((s.receivedBy moment).take? n).map fun result ↦ result.map fun _ ↦ ()

theorem enoughBy?_of_le (h : n ≤ s.held.length) (moment : Time) :
    s.enoughBy? n moment = some (.ok ()) := by
  rw [enoughBy?, receivedBy, Received.take?_behind _ h]
  rfl

/-- Nothing is decided as long as nothing has come. -/
theorem enoughBy?_of_empty (hfew : ¬n ≤ s.held.length) {moment : Time}
    (hempty : Source.receivedBy moment s.script = .empty) : s.enoughBy? n moment = none := by
  rw [enoughBy?, receivedBy, hempty, Received.behind, Received.empty, List.append_nil,
    Received.take?, if_neg hfew]
  rfl

theorem enoughBy?_of_stop (hfew : ¬n ≤ s.held.length) {moment : Time} {error : IoError}
    (hstop : Source.receivedBy moment s.script = ⟨[], some error⟩) :
    s.enoughBy? n moment = some (.error error) := by
  rw [enoughBy?, receivedBy, hstop, Received.behind, List.append_nil, Received.take?, if_neg hfew]
  rfl

/-- How the fetching of a supply follows what is received. -/
structure Fetches (deadline : Option Time) (n : ℕ) (now : Time) (s : Supply)
    (fetched : Timed (Except IoError Unit) × Supply) : Prop where
  follows : fetched.1.Follows deadline now (s.enoughBy? n)
  /-- What was received is held or still to come. -/
  received : fetched.1.outcome = .done (.ok ()) → ∀ moment, fetched.1.time ≤ moment →
    fetched.2.receivedBy moment = s.receivedBy moment

/-- A supply that has waited for something goes on with more in hand. -/
theorem Fetches.goOn {due : Time} {s' : Supply} {fetched : Timed (Except IoError Unit) × Supply}
    (h : Fetches deadline n (max now due) s' fetched)
    (hgoOn : ∀ t, Timed.Follows deadline (max now due) (s.enoughBy? n) t →
      Timed.Follows deadline now (s.enoughBy? n) t)
    (hsame : ∀ moment, max now due ≤ moment → s.receivedBy moment = s'.receivedBy moment) :
    Fetches deadline n now s fetched := by
  refine ⟨hgoOn _ (h.follows.congr fun moment hge ↦ ?_), fun hok moment hge ↦ ?_⟩
  · rw [enoughBy?, enoughBy?, hsame moment hge]
  · have hlater : max now due ≤ fetched.1.time := by
      have hfollows := h.follows
      obtain ⟨⟨outcome, time⟩, after⟩ := fetched
      cases hfollows with
      | done hnow => exact hnow
      | elapsed | hanging => cases hok
    rw [h.received hok moment hge, hsame moment (hlater.trans hge)]

/-- **A supply has fetched enough as soon as that has been received.** -/
theorem fetches_fetchFrom (hnow : Limits.allows deadline now) (held : Bytes) (signals : List Time)
    (script : List (Scheduled Arrival)) :
    Fetches deadline n now ⟨held, script, signals⟩
      (fetchFrom ⟨deadline, none⟩ n now held signals script) := by
  induction script generalizing now held signals with
  | nil =>
    rw [fetchFrom]
    split
    · rename_i henough
      exact ⟨.atOnce hnow (enoughBy?_of_le henough now), fun _ _ _ ↦ rfl⟩
    · rename_i hfew
      exact ⟨.giveUp hnow fun moment _ ↦ enoughBy?_of_empty hfew rfl,
        fun hok ↦ (giveUp_ne_done _ _ _ hok).elim⟩
  | cons item rest ih =>
    obtain ⟨due, event⟩ := item
    rw [fetchFrom]
    split
    · rename_i henough
      exact ⟨.atOnce hnow (enoughBy?_of_le henough now), fun _ _ _ ↦ rfl⟩
    rename_i hfew
    -- nothing is decided before the first piece is there, so the fetch waits for it
    have hbefore (moment : Time)
        (hearly : ∀ there, Source.dueOf ⟨due, event⟩ = some there → moment < there) :
        enoughBy? n ⟨held, ⟨due, event⟩ :: rest, signals⟩ moment = none := by
      refine enoughBy?_of_empty hfew ?_
      cases event with
      | data | eof | failure | signal => exact if_pos (hearly due rfl)
      | stall => exact ite_self _
    have hthere {moment : Time} (hge : max now due ≤ moment) : ¬moment < due :=
      Nat.not_lt.2 ((Nat.le_max_right ..).trans hge)
    rcases Timed.Follows.await_cases hnow hbefore with
      ⟨_, hdueOf, hdue, hawait, hgoOn⟩ | ⟨last, hawait, hlate⟩ | ⟨hawait, hhanging⟩
    all_goals rw [hawait]
    · rcases event with bytes | - | error | - | -
      all_goals cases hdueOf
      · refine (ih hdue (held ++ bytes) signals).goOn hgoOn fun moment hge ↦ ?_
        rw [receivedBy, receivedBy, Source.receivedBy, if_neg (hthere hge), Received.behind_append]
      · refine ⟨hgoOn _ (.atOnce hdue (enoughBy?_of_stop hfew (if_neg (hthere le_rfl)))), ?_⟩
        rintro ⟨⟩
      · refine ⟨hgoOn _ (.atOnce hdue (enoughBy?_of_stop hfew (if_neg (hthere le_rfl)))), ?_⟩
        rintro ⟨⟩
      · refine (ih hdue held (signals ++ [max now due])).goOn hgoOn fun moment hge ↦ ?_
        rw [receivedBy, receivedBy, Source.receivedBy, if_neg (hthere hge)]
    · refine ⟨hlate, ?_⟩
      rintro ⟨⟩
    · refine ⟨hhanging, ?_⟩
      rintro ⟨⟩

theorem fetches_fetch (hnow : Limits.allows deadline now) (n : ℕ) (s : Supply) :
    Fetches deadline n now s (s.fetch ⟨deadline, none⟩ n now) :=
  fetches_fetchFrom hnow s.held s.signals s.script

end Supply

namespace Reader

variable {now moment : Time} {r : Reader} {s : Supply}

/-- What a reader has received by a moment, fetched or not. -/
def receivedBy (moment : Time) (r : Reader) : Received :=
  (Source.receivedBy moment r.source.script).behind r.buffer.bytes

/-- A reader behind a supply has received the same: what it has left behind has come in. -/
theorem LagsBehind.receivedBy (h : r.LagsBehind s now) (hle : now ≤ moment) :
    r.receivedBy moment = s.receivedBy moment := by
  obtain ⟨due, more, hdue, hheld, hscript⟩ := h.left
  rw [Reader.receivedBy, Supply.receivedBy, hscript, ← hheld]
  cases more with
  | nil =>
    rw [List.append_nil]
    rfl
  | cons first others =>
    show (Source.receivedBy moment (⟨due, .data (first :: others)⟩ :: s.script)).behind _ = _
    rw [Source.receivedBy, if_neg (Nat.not_lt.2 (hdue.trans hle)), Received.behind_append]

end Reader

end FramedExchange
