import FramedExchange.Proofs.Stream.Reading

/-!
# When something arrives

A reader that has nothing waits for what its stream brings next. The pieces of a stream come in one
behind the other, so the first arrival (`Source.firstArrival?`) is not before those that bring
nothing and that are passed over on the way to it.

A read that begins before its deadline ends in one of three ways (`Source.reads_readScript`): with
the first arrival and at its moment, or at once if it is there already; exactly at the deadline, if
nothing arrives by then; or never, if there is neither an arrival nor a deadline.
-/

namespace FramedExchange

/-! ### Windows -/

section Window

variable {now timeout moment last : Time}

theorem allows_deadlineAfter_iff :
    Limits.allows (deadlineAfter now timeout) moment = true ↔
      timeout = 0 ∨ moment ≤ now + timeout := by
  rw [deadlineAfter]
  split
  · rename_i hzero
    exact ⟨fun _ ↦ .inl hzero, fun _ ↦ rfl⟩
  · rename_i hpos
    rw [or_iff_right hpos]
    exact decide_eq_true_iff

theorem deadlineAfter_eq_none_iff : deadlineAfter now timeout = none ↔ timeout = 0 := by
  rw [deadlineAfter]
  split
  · rename_i hzero
    exact ⟨fun _ ↦ hzero, fun _ ↦ rfl⟩
  · rename_i hpos
    exact ⟨nofun, fun hzero ↦ absurd hzero hpos⟩

theorem deadlineAfter_eq_some_iff :
    deadlineAfter now timeout = some last ↔ 0 < timeout ∧ last = now + timeout := by
  rw [deadlineAfter]
  split
  · rename_i hzero
    exact ⟨nofun, fun h ↦ absurd hzero h.1.ne'⟩
  · rename_i hpos
    rw [Option.some_inj, eq_comm, and_iff_right (Nat.pos_of_ne_zero hpos)]

end Window

/-! ### Waiting -/

section Await

variable {deadline : Option Time} {now due : Time}

/-- What arrives by the deadline is there at its moment, or at once. -/
theorem await_of_allows (h : Limits.allows deadline (max now due)) :
    await ⟨deadline, none⟩ now (some due) = ⟨.done (), max now due⟩ := by
  rcases Nat.lt_or_ge now due with hlater | hdue
  · rw [Nat.max_eq_right (Nat.le_of_lt hlater)] at h ⊢
    rw [await, if_neg (Nat.not_le.2 hlater), h]
    rfl
  · rw [await_of_le hdue, Nat.max_eq_left hdue]

/-- Who gives up does so at the deadline, or never. -/
theorem giveUp_of_allows {α : Type} (h : Limits.allows deadline now) :
    (∃ last, deadline = some last ∧ (giveUp ⟨deadline, none⟩ now : Timed α) = ⟨.elapsed, last⟩) ∨
      deadline = none ∧ (giveUp ⟨deadline, none⟩ now : Timed α) = ⟨.hanging, now⟩ := by
  cases deadline with
  | none => exact .inr ⟨rfl, rfl⟩
  | some last =>
    have hle : now ≤ last := of_decide_eq_true h
    refine .inl ⟨last, rfl, ?_⟩
    show (⟨.elapsed, max now last⟩ : Timed α) = ⟨.elapsed, last⟩
    rw [Nat.max_eq_right hle]

/-- What arrives after the deadline is not waited for. -/
theorem exists_await_eq_elapsed (hnow : Limits.allows deadline now)
    (h : Limits.allows deadline (max now due) = false) :
    ∃ last, deadline = some last ∧ last < due ∧
      await ⟨deadline, none⟩ now (some due) = ⟨.elapsed, last⟩ := by
  rcases giveUp_of_allows hnow (α := Unit) with ⟨last, hlast, hgive⟩ | ⟨rfl, -⟩
  · subst hlast
    have hle : now ≤ last := of_decide_eq_true hnow
    have hlate : ¬max now due ≤ last := of_decide_eq_false h
    have hdue : last < due := Nat.lt_of_not_le fun hdue ↦ hlate (Nat.max_le.2 ⟨hle, hdue⟩)
    refine ⟨last, rfl, hdue, ?_⟩
    have hnever : Limits.allows (some last) due = false := decide_eq_false (Nat.not_le.2 hdue)
    rw [await, if_neg (Nat.not_le.2 (hle.trans_lt hdue)), hnever]
    exact hgive
  · cases h

end Await

/-! ### Reading -/

/-- What a read brings when something arrives: bytes, or none at the end of the stream, or an
error. -/
inductive Arrival.Brings : Arrival → Outcome (Except IoError Bytes) → Prop
  | data (bytes : Bytes) (byte : UInt8) (read : Bytes) :
      Brings (.data bytes) (.done (.ok (byte :: read)))
  | eof : Brings .eof (.done (.ok []))
  | failure (error : IoError) : Brings (.failure error) (.done (.error error))

namespace Source

/-- What a stream brings next: a byte, its end or an error, with the moment from which it is there.
-/
def firstArrival? : List (Scheduled Arrival) → Option (Scheduled Arrival)
  | [] => none
  | item :: rest =>
    match item.event with
    | .stall => none
    | .signal | .data [] => (firstArrival? rest).map fun arrival ↦
        { arrival with due := max item.due arrival.due }
    | _ => some item

/-- Nothing arrives before the first piece of the stream. -/
theorem le_due_of_firstArrival? {item arrival : Scheduled Arrival} {rest : List (Scheduled Arrival)}
    (h : firstArrival? (item :: rest) = some arrival) : item.due ≤ arrival.due := by
  rw [firstArrival?] at h
  split at h
  · cases h
  · obtain ⟨found, -, rfl⟩ := Option.map_eq_some_iff.1 h
    exact Nat.le_max_left _ _
  · obtain ⟨found, -, rfl⟩ := Option.map_eq_some_iff.1 h
    exact Nat.le_max_left _ _
  · cases h
    exact le_rfl

variable {deadline : Option Time} {space : ℕ} {now : Time}

/-- How a read ends that begins before its deadline, with the first arrival that is to come. -/
inductive Reads (deadline : Option Time) (now : Time) (arrival? : Option (Scheduled Arrival)) :
    Timed (Except IoError Bytes) → Prop
  /-- With the arrival, when it is there. -/
  | arrived {arrival : Scheduled Arrival} {outcome : Outcome (Except IoError Bytes)}
      (harrival : arrival? = some arrival) (hdue : Limits.allows deadline (max now arrival.due))
      (hbrings : arrival.event.Brings outcome) :
      Reads deadline now arrival? ⟨outcome, max now arrival.due⟩
  /-- At the deadline, with no arrival by then. -/
  | elapsed {last : Time} (hdeadline : deadline = some last)
      (hsilent : ∀ arrival, arrival? = some arrival → last < arrival.due) :
      Reads deadline now arrival? ⟨.elapsed, last⟩
  /-- Never, with neither an arrival nor a deadline. -/
  | hanging (time : Time) (hdeadline : deadline = none) (hsilent : arrival? = none) :
      Reads deadline now arrival? ⟨.hanging, time⟩

/-- A read that has waited for something which brings nothing goes on from there. -/
theorem Reads.goOn {due : Time} {arrival? : Option (Scheduled Arrival)}
    {result : Timed (Except IoError Bytes)} (h : Reads deadline (max now due) arrival? result) :
    Reads deadline now (arrival?.map fun arrival ↦ { arrival with due := max due arrival.due })
      result := by
  cases h with
  | @arrived arrival outcome harrival hlater hbrings =>
    subst harrival
    rw [Nat.max_assoc] at hlater ⊢
    exact .arrived rfl hlater hbrings
  | @elapsed last hdeadline hsilent =>
    refine .elapsed hdeadline fun arrival harrival ↦ ?_
    obtain ⟨found, hfound, rfl⟩ := Option.map_eq_some_iff.1 harrival
    exact (hsilent found hfound).trans_le (Nat.le_max_right _ _)
  | hanging time hdeadline hsilent =>
    subst hsilent
    exact .hanging time hdeadline rfl

/-- **A read ends with the first arrival or at its deadline.** -/
theorem reads_readScript (hspace : 0 < space) (hnow : Limits.allows deadline now)
    (script : List (Scheduled Arrival)) :
    Reads deadline now (firstArrival? script) (readScript ⟨deadline, none⟩ space now script).1 := by
  induction script generalizing now with
  | nil =>
    rw [readScript]
    rcases giveUp_of_allows hnow with ⟨last, hlast, hgive⟩ | ⟨hnone, hgive⟩
    · rw [hgive]
      refine .elapsed hlast ?_
      rintro arrival ⟨⟩
    · rw [hgive]
      exact .hanging now hnone rfl
  | cons item rest ih =>
    obtain ⟨due, event⟩ := item
    by_cases hstall : event = .stall
    · subst hstall
      rw [readScript, dueOf, await]
      rcases giveUp_of_allows hnow (α := Unit) with ⟨last, hlast, hgive⟩ | ⟨hnone, hgive⟩
      · rw [hgive]
        refine .elapsed hlast ?_
        rintro arrival ⟨⟩
      · rw [hgive]
        exact .hanging now hnone rfl
    · have hdueOf : dueOf ⟨due, event⟩ = some due := by
        cases event <;> first | rfl | exact absurd rfl hstall
      rw [readScript, hdueOf]
      rcases hdue : Limits.allows deadline (max now due) with - | -
      · -- whatever comes is not before this piece
        obtain ⟨last, hlast, hlate, hawait⟩ := exists_await_eq_elapsed hnow hdue
        rw [hawait]
        refine .elapsed hlast fun arrival harrival ↦ hlate.trans_le ?_
        exact le_due_of_firstArrival? harrival
      · rw [await_of_allows hdue]
        cases event with
        | data bytes =>
          cases bytes with
          | nil => exact (ih hdue).goOn
          | cons byte others =>
            obtain ⟨room, rfl⟩ := Nat.exists_eq_succ_of_ne_zero hspace.ne'
            rcases hdrop : (byte :: others).drop (room + 1) with - | ⟨next, left⟩
            · simp only [hdrop]
              exact .arrived rfl hdue (.data ..)
            · simp only [hdrop]
              exact .arrived rfl hdue (.data ..)
        | eof => exact .arrived rfl hdue .eof
        | failure error => exact .arrived rfl hdue (.failure error)
        | signal => exact (ih hdue).goOn
        | stall => exact absurd rfl hstall

end Source

/-- Nothing is fetched by a reader that has enough. -/
theorem Reader.fetch_of_le {limits : Limits} {n : ℕ} {now : Time} {r : Reader}
    (h : n ≤ r.buffered) :
    r.fetch limits n now = (⟨.done (.ok ()), now⟩, r) := by
  rw [Reader.fetch, if_pos h]

/-! ### Reading takes no time back -/

namespace Source

theorem le_time_readScript (limits : Limits) (space : ℕ) (now : Time)
    (script : List (Scheduled Arrival)) : now ≤ (readScript limits space now script).1.time := by
  induction script generalizing now with
  | nil => exact le_time_giveUp limits now
  | cons item rest ih =>
    have hwait := le_time_await limits now (dueOf item)
    rw [readScript]
    rcases hawait : await limits now (dueOf item) with ⟨⟨⟩ | _ | _, time⟩
    all_goals rw [hawait] at hwait
    · rcases item with ⟨due, (- | ⟨byte, bytes⟩) | - | error | - | -⟩
      · exact hwait.trans (ih time)
      · rcases hdrop : (byte :: bytes).drop space with - | ⟨first, left⟩
        · simp only [hdrop]
          exact hwait
        · simp only [hdrop]
          exact hwait
      · exact hwait
      · exact hwait
      · exact hwait.trans (ih time)
      · exact hwait.trans (le_time_giveUp limits time)
    · exact hwait
    · exact hwait

end Source

namespace Reader

theorem le_time_fetch (limits : Limits) (n : ℕ) (now : Time) (r : Reader) :
    now ≤ (r.fetch limits n now).1.time := by
  have hread (now : Time) (r : Reader) {space : ℕ} {result : Timed (Except IoError Bytes)}
      {source : Source} (h : r.source.read limits now space = (result, source)) :
      now ≤ result.time :=
    (Source.le_time_readScript ..).trans_eq (congrArg (·.1.time) h)
  fun_induction fetch limits n now r with
  | case1 => exact le_rfl
  | case2 now r hfew buffer byte bytes time source h ih => exact (hread now r h).trans ih
  | case3 now r hfew buffer time source h | case4 now r hfew buffer error time source h
  | case5 now r hfew buffer time source h | case6 now r hfew buffer time source h =>
    exact hread now r h

theorem le_time_take (limits : Limits) (n : ℕ) (now : Time) (r : Reader) :
    now ≤ (r.take limits n now).1.time := by
  have hle := le_time_fetch limits n now r
  rw [take]
  rcases hfetch : r.fetch limits n now with ⟨⟨(error | ⟨⟩) | _ | _, time⟩, fetched⟩
  all_goals
    rw [hfetch] at hle
    exact hle

end Reader

end FramedExchange
