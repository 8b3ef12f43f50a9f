import Mathlib.Data.Nat.Find
import FramedExchange.Proofs.Stream.Decision
import FramedExchange.Proofs.Stream.PastDeadline

/-!
# Coming out with what shows first

Something that takes time and has a deadline comes out with whatever comes first: a result that
shows, or the deadline (`Settled.ComesOut`). This leaves no other way to end
(`Settled.ComesOut.cases`). What follows a decision that lasts comes out with what is decided
(`Timed.Follows.comesOut`).

Here the deadline may be any moment. One that is in the past passes at the beginning, where what
shows already still counts as in time.
-/

namespace FramedExchange

variable {α : Type} {Shows : Time → α → Prop} {late : Time → α} {deadline : Option Time}
variable {now due : Time} {result : α} {s : Settled α}

/-- A result that shows at a moment, and nothing before. -/
structure FirstShows (Shows : Time → α → Prop) (due : Time) (result : α) : Prop where
  shows : Shows due result
  first : ∀ moment, moment < due → ∀ other, ¬Shows moment other

/-- Something that begins `now` comes out with what comes first. -/
structure Settled.ComesOut (deadline : Option Time) (now : Time) (Shows : Time → α → Prop)
    (late : Time → α) (s : Settled α) : Prop where
  /-- What shows before the deadline passes is the result, as soon as it shows, or at once if it did
  before. -/
  shown : ∀ due result, FirstShows Shows due result →
    (∀ last, deadline = some last → due ≤ max now last) → s = ⟨some result, max now due⟩
  /-- If nothing shows before the deadline passes, it is late, exactly then. -/
  late : ∀ last, deadline = some last → (∀ result, ¬Shows (max now last) result) →
    s = ⟨some (late (max now last)), max now last⟩
  /-- Without a deadline it goes on until something shows. -/
  hanging : deadline = none → (∀ moment result, ¬Shows moment result) → s.result? = none

namespace Settled.ComesOut

/-- What shows at some moment shows first at one that is not later. -/
theorem exists_firstShows (h : Shows due result) :
    ∃ first other, first ≤ due ∧ FirstShows Shows first other := by
  classical
  have hsome : ∃ moment, ∃ other, Shows moment other := ⟨due, result, h⟩
  obtain ⟨other, hother⟩ := Nat.find_spec hsome
  exact ⟨Nat.find hsome, other, Nat.find_min' hsome ⟨result, h⟩, hother,
    fun moment hearly result hresult ↦ Nat.find_min hsome hearly ⟨result, hresult⟩⟩

/-- **There are three ways to come out and no others.** -/
theorem cases (h : s.ComesOut deadline now Shows late) :
    (∃ due result, FirstShows Shows due result ∧
        (∀ last, deadline = some last → due ≤ max now last) ∧ s = ⟨some result, max now due⟩) ∨
      (∃ last, deadline = some last ∧ (∀ result, ¬Shows (max now last) result) ∧
        s = ⟨some (late (max now last)), max now last⟩) ∨
      deadline = none ∧ (∀ moment result, ¬Shows moment result) ∧ s.result? = none := by
  by_cases hshown : ∃ due result, FirstShows Shows due result ∧
      ∀ last, deadline = some last → due ≤ max now last
  · obtain ⟨due, result, hfirst, hdue⟩ := hshown
    exact .inl ⟨due, result, hfirst, hdue, h.shown due result hfirst hdue⟩
  · -- whatever showed in time would show first at some moment
    have hnothing (moment : Time) (hmoment : ∀ last, deadline = some last → moment ≤ max now last)
        (result : α) : ¬Shows moment result := fun hresult ↦ by
      obtain ⟨first, other, hle, hfirst⟩ := exists_firstShows hresult
      exact hshown ⟨first, other, hfirst, fun last hlast ↦ hle.trans (hmoment last hlast)⟩
    cases deadline with
    | none =>
      have hnever (moment : Time) := hnothing moment nofun
      exact .inr (.inr ⟨rfl, hnever, h.hanging rfl hnever⟩)
    | some last =>
      have hnone := hnothing (max now last) fun _ hlast ↦ by
        rw [Option.some.inj hlast]
      exact .inr (.inl ⟨last, rfl, hnone, h.late last rfl hnone⟩)

/-- It ends by the deadline. -/
theorem time_le (h : s.ComesOut deadline now Shows late) {last : Time}
    (hlast : deadline = some last) : s.time ≤ max now last := by
  rcases h.cases with ⟨due, result, -, hdue, rfl⟩ | ⟨moment, hmoment, -, rfl⟩ | ⟨hnone, -⟩
  · exact Nat.max_le.2 ⟨Nat.le_max_left .., hdue last hlast⟩
  · obtain rfl := Option.some.inj (hlast.symm.trans hmoment)
    exact le_rfl
  · rw [hnone] at hlast
    cases hlast

end Settled.ComesOut

/-- **What follows a decision that lasts comes out with what is decided.** -/
theorem Timed.Follows.comesOut {decidedBy? : Time → Option α} {t : Timed α}
    (h : t.Follows (deadlineFrom now deadline) now decidedBy?) (hlasting : IsLasting decidedBy?)
    (hshows : ∀ moment result, decidedBy? moment = some result ↔ Shows moment result)
    (late : Time → α) : (t.settle (late t.time)).ComesOut deadline now Shows late := by
  have hnone {moment : Time} (hnothing : ∀ result, ¬Shows moment result) :
      decidedBy? moment = none :=
    Option.eq_none_iff_forall_ne_some.2 fun result hresult ↦
      hnothing result ((hshows moment result).1 hresult)
  refine ⟨fun due result hfirst hdue ↦ ?_, fun last hlast hnothing ↦ ?_, fun hdeadline hnever ↦ ?_⟩
  · have hwithin : Limits.allows (deadlineFrom now deadline) (max now due) :=
      allows_deadlineFrom_iff.2 fun last hlast ↦
        Nat.max_le.2 ⟨Nat.le_max_left .., hdue last hlast⟩
    rw [h.eq_done hlasting ((hshows due result).2 hfirst.shows)
      (fun moment hearly ↦ hnone (hfirst.first moment hearly)) hwithin]
    rfl
  · subst hlast
    rw [h.eq_elapsed hlasting (hnone hnothing)]
    rfl
  · subst hdeadline
    cases h with
    | @done moment _ _ _ hdecided =>
      exact absurd ((hshows moment _).1 hdecided) (hnever moment _)
    | elapsed _ hdeadline => cases hdeadline
    | hanging => rfl

end FramedExchange
