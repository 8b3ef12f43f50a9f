import FramedExchange.Proofs.Stream.Arrival

/-!
# What is decided by a moment

Scripts say what has come by each moment, and so what is decided by then about something that takes
time: perhaps nothing yet. What is done under a deadline follows the decision (`Timed.Follows`). It
ends when the matter is decided, with what is decided; or exactly at the deadline, if nothing is
decided by then.

Several waits one behind the other follow one decision as long as they have one deadline: nothing is
decided about the whole before the first of them is over (`Follows.goOn`). Where the deadline is a
window that opens when the waiting begins, this gives bounds on the whole (`Settled.IsInTime`).
-/

namespace FramedExchange

variable {α β : Type}

/-- What has been decided stays decided. -/
def IsLasting (decidedBy? : Time → Option α) : Prop :=
  ∀ ⦃moment later : Time⦄, moment ≤ later → ∀ ⦃result : α⦄, decidedBy? moment = some result →
    decidedBy? later = some result

namespace Timed

variable {deadline : Option Time} {now time last due : Time}
variable {decidedBy? decidedBy?' : Time → Option α} {t : Timed α} {result : α}

/-- How something ends that begins at a moment, with what is decided about it by each moment. -/
inductive Follows (deadline : Option Time) (now : Time) (decidedBy? : Time → Option α) :
    Timed α → Prop
  /-- As soon as it is decided. -/
  | done {time : Time} {result : α} (hnow : now ≤ time) (htime : Limits.allows deadline time)
      (hresult : decidedBy? time = some result)
      (hbefore : ∀ moment, now ≤ moment → moment < time → decidedBy? moment = none) :
      Follows deadline now decidedBy? ⟨.done result, time⟩
  /-- At the deadline, with nothing decided by then. -/
  | elapsed {last : Time} (hnow : now ≤ last) (hdeadline : deadline = some last)
      (hundecided : ∀ moment, now ≤ moment → moment ≤ last → decidedBy? moment = none) :
      Follows deadline now decidedBy? ⟨.elapsed, last⟩
  /-- Never, with neither a decision nor a deadline. -/
  | hanging (time : Time) (hdeadline : deadline = none)
      (hundecided : ∀ moment, now ≤ moment → decidedBy? moment = none) :
      Follows deadline now decidedBy? ⟨.hanging, time⟩

namespace Follows

/-- What is decided already is done at once. -/
theorem atOnce (hnow : Limits.allows deadline now) (hresult : decidedBy? now = some result) :
    Follows deadline now decidedBy? ⟨.done result, now⟩ :=
  .done le_rfl hnow hresult fun _ hge hlt ↦ absurd hge (Nat.not_le.2 hlt)

/-- What will never be decided is given up. -/
theorem giveUp (hnow : Limits.allows deadline now)
    (hundecided : ∀ moment, now ≤ moment → decidedBy? moment = none) :
    Follows deadline now decidedBy? (giveUp ⟨deadline, none⟩ now) := by
  rcases giveUp_of_allows hnow (α := α) with ⟨last, rfl, hgive⟩ | ⟨rfl, hgive⟩
  · rw [hgive]
    exact .elapsed (of_decide_eq_true hnow) rfl fun moment hge _ ↦ hundecided moment hge
  · rw [hgive]
    exact .hanging now rfl hundecided

/-- **Waiting goes on** behind a wait in which nothing was decided about the whole. -/
theorem goOn (h : Follows deadline time decidedBy? t) (hle : now ≤ time)
    (hbefore : ∀ moment, now ≤ moment → moment < time → decidedBy? moment = none) :
    Follows deadline now decidedBy? t := by
  cases h with
  | @done after _ hnow htime hresult hmeanwhile =>
    refine .done (hle.trans hnow) htime hresult fun moment hge hlt ↦ ?_
    rcases Nat.lt_or_ge moment time with hearly | hlate
    · exact hbefore moment hge hearly
    · exact hmeanwhile moment hlate hlt
  | elapsed hnow hdeadline hundecided =>
    refine .elapsed (hle.trans hnow) hdeadline fun moment hge hlast ↦ ?_
    rcases Nat.lt_or_ge moment time with hearly | hlate
    · exact hbefore moment hge hearly
    · exact hundecided moment hlate hlast
  | hanging never hdeadline hundecided =>
    refine .hanging never hdeadline fun moment hge ↦ ?_
    rcases Nat.lt_or_ge moment time with hearly | hlate
    · exact hbefore moment hge hearly
    · exact hundecided moment hlate

theorem congr (h : Follows deadline now decidedBy? t)
    (hsame : ∀ moment, now ≤ moment → decidedBy?' moment = decidedBy? moment) :
    Follows deadline now decidedBy?' t := by
  cases h with
  | done hnow htime hresult hbefore =>
    refine .done hnow htime ((hsame _ hnow).trans hresult) fun moment hge hlt ↦ ?_
    rw [hsame moment hge, hbefore moment hge hlt]
  | elapsed hnow hdeadline hundecided =>
    refine .elapsed hnow hdeadline fun moment hge hlast ↦ ?_
    rw [hsame moment hge, hundecided moment hge hlast]
  | hanging never hdeadline hundecided =>
    refine .hanging never hdeadline fun moment hge ↦ ?_
    rw [hsame moment hge, hundecided moment hge]

theorem map (f : α → β) (h : Follows deadline now decidedBy? t) :
    Follows deadline now (fun moment ↦ (decidedBy? moment).map f) (t.map f) := by
  cases h with
  | done hnow htime hresult hbefore =>
    refine .done hnow htime (congrArg (Option.map f) hresult) fun moment hge hlt ↦ ?_
    rw [hbefore moment hge hlt, Option.map_none]
  | elapsed hnow hdeadline hundecided =>
    refine .elapsed hnow hdeadline fun moment hge hlast ↦ ?_
    rw [hundecided moment hge hlast, Option.map_none]
  | hanging never hdeadline hundecided =>
    refine .hanging never hdeadline fun moment hge ↦ ?_
    rw [hundecided moment hge, Option.map_none]

/-- **What must be waited for** is there at its moment and by the deadline, or else the wait ends
the whole: at the deadline, or never if there is none. Nothing is decided before what is waited for
is there. -/
theorem await_cases {due? : Option Time} (hnow : Limits.allows deadline now)
    (hbefore : ∀ moment, (∀ due, due? = some due → moment < due) → decidedBy? moment = none) :
    (∃ due, due? = some due ∧ Limits.allows deadline (max now due) ∧
        await ⟨deadline, none⟩ now due? = ⟨.done (), max now due⟩ ∧
        ∀ t, Follows deadline (max now due) decidedBy? t → Follows deadline now decidedBy? t) ∨
      (∃ last, await ⟨deadline, none⟩ now due? = ⟨.elapsed, last⟩ ∧
        Follows deadline now decidedBy? ⟨.elapsed, last⟩) ∨
      await ⟨deadline, none⟩ now due? = ⟨.hanging, now⟩ ∧
        Follows deadline now decidedBy? ⟨.hanging, now⟩ := by
  cases due? with
  | none =>
    have hnever (moment : Time) := hbefore moment nofun
    rcases giveUp_of_allows hnow (α := Unit) with ⟨last, rfl, hgive⟩ | ⟨rfl, hgive⟩
    · exact .inr (.inl ⟨last, hgive,
        .elapsed (of_decide_eq_true hnow) rfl fun moment _ _ ↦ hnever moment⟩)
    · exact .inr (.inr ⟨hgive, .hanging now rfl fun moment _ ↦ hnever moment⟩)
  | some due =>
    have hearlier {moment : Time} (hearly : moment < due) : decidedBy? moment = none :=
      hbefore moment fun _ hdue ↦ Option.some.inj hdue ▸ hearly
    rcases hdue : Limits.allows deadline (max now due) with - | -
    · obtain ⟨last, rfl, hlate, hawait⟩ := exists_await_eq_elapsed hnow hdue
      exact .inr (.inl ⟨last, hawait,
        .elapsed (of_decide_eq_true hnow) rfl fun moment _ hle ↦ hearlier (hle.trans_lt hlate)⟩)
    · refine .inl ⟨due, rfl, hdue, await_of_allows hdue, fun t h ↦ h.goOn (Nat.le_max_left ..) ?_⟩
      intro moment hge hlt
      rcases Nat.lt_or_ge moment due with hearly | hlate
      · exact hearlier hearly
      · exact absurd (Nat.max_le.2 ⟨hge, hlate⟩) (Nat.not_le.2 hlt)

/-- **What is decided in time is done when it is decided**, or at once if that was before. -/
theorem eq_done (h : Follows deadline now decidedBy? t) (hlasting : IsLasting decidedBy?)
    (hdue : decidedBy? due = some result)
    (hfirst : ∀ moment, moment < due → decidedBy? moment = none)
    (hwithin : Limits.allows deadline (max now due)) : t = ⟨.done result, max now due⟩ := by
  have hlater := hlasting (Nat.le_max_right now due) hdue
  cases h with
  | @done time other hnow htime hresult hbefore =>
    -- both are the first moment from the beginning on at which something is decided
    have hmoment : time = max now due := by
      refine le_antisymm (Nat.le_of_not_lt fun hafter ↦ ?_) (Nat.max_le.2 ⟨hnow, ?_⟩)
      · have hnone := hbefore (max now due) (Nat.le_max_left ..) hafter
        rw [hlater] at hnone
        cases hnone
      · refine Nat.le_of_not_lt fun hearlier ↦ ?_
        rw [hfirst time hearlier] at hresult
        cases hresult
    rw [← hmoment, hresult] at hlater
    obtain rfl := Option.some.inj hlater
    rw [hmoment]
  | elapsed hnow hdeadline hundecided =>
    subst hdeadline
    rw [hundecided _ (Nat.le_max_left ..) (of_decide_eq_true hwithin)] at hlater
    cases hlater
  | hanging time hdeadline hundecided =>
    rw [hundecided _ (Nat.le_max_left ..)] at hlater
    cases hlater

/-- **What is decided by the deadline comes out as it is decided**, whenever that is. -/
theorem outcome_eq_done (h : Follows deadline now decidedBy? t) (hlasting : IsLasting decidedBy?)
    (hdue : decidedBy? due = some result) (hwithin : Limits.allows deadline due) :
    t.outcome = .done result := by
  cases h with
  | @done time other hnow htime hresult hbefore =>
    have hlater := hlasting (Nat.le_max_left time due) hresult
    rw [hlasting (Nat.le_max_right time due) hdue] at hlater
    rw [Option.some.inj hlater]
  | @elapsed last hnow hdeadline hundecided =>
    subst hdeadline
    have hlater := hlasting (of_decide_eq_true hwithin) hdue
    rw [hundecided last hnow le_rfl] at hlater
    cases hlater
  | hanging time hdeadline hundecided =>
    have hlater := hlasting (Nat.le_max_right now due) hdue
    rw [hundecided _ (Nat.le_max_left ..)] at hlater
    cases hlater

/-- **What is undecided at the deadline is given up there.** -/
theorem eq_elapsed (h : Follows (some last) now decidedBy? t) (hlasting : IsLasting decidedBy?)
    (hnone : decidedBy? last = none) : t = ⟨.elapsed, last⟩ := by
  cases h with
  | done hnow htime hresult hbefore =>
    rw [hlasting (of_decide_eq_true htime) hresult] at hnone
    cases hnone
  | elapsed hnow hdeadline hundecided =>
    cases hdeadline
    rfl
  | hanging time hdeadline hundecided => cases hdeadline

end Follows

end Timed

/-! ### Windows -/

/-- Something that has a window to be done in, which opens when it begins, and what is decided about
it by each moment. -/
structure Settled.IsInTime (late : α) (timeout since : Time) (decidedBy? : Time → Option α)
    (s : Settled α) : Prop where
  /-- What is decided in the window is done when it is decided, or at once if that was before. -/
  decided : ∀ due result, decidedBy? due = some result →
    (∀ moment, moment < due → decidedBy? moment = none) → (timeout = 0 ∨ due ≤ since + timeout) →
    s = ⟨some result, max since due⟩
  /-- What is undecided at the end of the window is late, exactly then. -/
  undecided : 0 < timeout → decidedBy? (since + timeout) = none → s = ⟨some late, since + timeout⟩
  /-- Whatever is decided, it ends in the window. -/
  inWindow : 0 < timeout → s.result?.isSome ∧ s.time ≤ since + timeout
  /-- Without a window nothing is late. -/
  unbounded : timeout = 0 → ∀ result, s.result? = some result → ∃ due, decidedBy? due = some result

/-- **What follows a decision that lasts, under a deadline of its own, is in time.** -/
theorem Timed.Follows.isInTime {timeout since : Time} {decidedBy? : Time → Option α} {t : Timed α}
    (h : t.Follows (deadlineAfter since timeout) since decidedBy?) (hlasting : IsLasting decidedBy?)
    (late : α) : (t.settle late).IsInTime late timeout since decidedBy? := by
  refine ⟨fun due result hdue hfirst hwithin ↦ ?_, fun hpos hnone ↦ ?_, fun hpos ↦ ?_,
    fun hzero result hresult ↦ ?_⟩
  · have hallowed : timeout = 0 ∨ max since due ≤ since + timeout :=
      hwithin.imp_right fun hle ↦ Nat.max_le.2 ⟨Nat.le_add_right .., hle⟩
    rw [h.eq_done hlasting hdue hfirst (allows_deadlineAfter_iff.2 hallowed), settle]
  · have hdeadline : deadlineAfter since timeout = some (since + timeout) :=
      deadlineAfter_eq_some_iff.2 ⟨hpos, rfl⟩
    rw [hdeadline] at h
    rw [h.eq_elapsed hlasting hnone, settle]
  · cases h with
    | done _ htime =>
      exact ⟨rfl, (allows_deadlineAfter_iff.1 htime).resolve_left hpos.ne'⟩
    | elapsed _ hdeadline =>
      exact ⟨rfl, (deadlineAfter_eq_some_iff.1 hdeadline).2.le⟩
    | hanging _ hdeadline => exact absurd (deadlineAfter_eq_none_iff.1 hdeadline) hpos.ne'
  · cases h with
    | @done time _ _ _ hdecided =>
      obtain rfl := Option.some.inj hresult
      exact ⟨time, hdecided⟩
    | elapsed _ hdeadline => exact absurd hzero (deadlineAfter_eq_some_iff.1 hdeadline).1.ne'
    | hanging => cases hresult

end FramedExchange
