/-!
# Time, deadlines and waiting

Time is counted in whole milliseconds from the start of an observation. Computing takes no time:
the clock moves only while something is awaited, and then straight to the moment that ends the wait.

What is awaited becomes possible at a certain moment or never. Waiting may be cut short by a
deadline, and the whole observation may end at a horizon. `await` says how a wait ends. What is
possible already happens at once, even past the deadline; what becomes possible exactly at the
deadline still happens.

Moments have no bound, so every timeout leads to a deadline. A clock that counts seconds in a
word has none for a timeout that leads past the end of the word, and whoever asks for it panics.
The timeouts of a configuration are words of milliseconds, which lead to at most a hundredth of
the way there. Only a timeout that is given as a length of time can lead further, and such
timeouts are left out.
-/

namespace FramedExchange

/-- A moment, in milliseconds. -/
abbrev Time := Nat

/-- The deadline of something that starts `now` and may take `timeout` milliseconds. A timeout of
zero stands for no deadline. -/
def deadlineAfter (now timeout : Time) : Option Time :=
  if timeout = 0 then none else some (now + timeout)

/-- What bounds a wait. -/
structure Limits where
  /-- The moment after which the one who waits gives up. -/
  deadline : Option Time
  /-- The moment at which the observation ends. -/
  horizon : Option Time
deriving DecidableEq, Repr

/-- No bound at all. -/
def Limits.none : Limits := ⟨.none, .none⟩

/-- Whether a moment is not after a bound. -/
def Limits.allows (bound : Option Time) (moment : Time) : Bool :=
  match bound with
  | .none => true
  | some last => moment ≤ last

/-- How something that takes time ends. -/
inductive Outcome (α : Type)
  /-- It is done. -/
  | done (result : α)
  /-- The deadline passed. -/
  | elapsed
  /-- It was still going on when the observation ended, or it would go on for ever. -/
  | hanging
deriving DecidableEq, Repr

/-- The outcome of something that takes time, and the moment of it. -/
structure Timed (α : Type) where
  outcome : Outcome α
  time : Time
deriving DecidableEq, Repr

namespace Timed

variable {α β : Type}

/-- Change the result of what was done. -/
def map (f : α → β) (t : Timed α) : Timed β :=
  match t.outcome with
  | .done result => ⟨.done (f result), t.time⟩
  | .elapsed => ⟨.elapsed, t.time⟩
  | .hanging => ⟨.hanging, t.time⟩

@[simp]
theorem time_map (f : α → β) (t : Timed α) : (t.map f).time = t.time := by
  unfold map
  split <;> rfl

end Timed

/-- The result of something that answers for its own deadline, and the moment of it. There is no
result if it was still going on when the observation ended. -/
structure Settled (α : Type) where
  result? : Option α
  time : Time
deriving DecidableEq, Repr

namespace Settled

variable {α β : Type}

/-- Change the result. -/
def map (f : α → β) (s : Settled α) : Settled β := ⟨s.result?.map f, s.time⟩

end Settled

/-- Let a passed deadline count as a result. -/
def Timed.settle {α : Type} (late : α) (t : Timed α) : Settled α :=
  match t.outcome with
  | .done result => ⟨some result, t.time⟩
  | .elapsed => ⟨some late, t.time⟩
  | .hanging => ⟨none, t.time⟩

@[simp]
theorem Timed.time_settle {α : Type} (late : α) (t : Timed α) : (t.settle late).time = t.time := by
  unfold settle
  split <;> rfl

/-- Give up waiting: at the deadline if there is one before the observation ends. A bound that lies
in the past ends the wait at once. -/
def giveUp {α : Type} (limits : Limits) (now : Time) : Timed α :=
  match limits.deadline, limits.horizon with
  | some deadline, some horizon =>
    if deadline ≤ horizon then ⟨.elapsed, max now deadline⟩ else ⟨.hanging, max now horizon⟩
  | some deadline, none => ⟨.elapsed, max now deadline⟩
  | none, some horizon => ⟨.hanging, max now horizon⟩
  | none, none => ⟨.hanging, now⟩

/-- Giving up takes no time back. -/
theorem le_time_giveUp {α : Type} (limits : Limits) (now : Time) :
    now ≤ (giveUp limits now : Timed α).time := by
  unfold giveUp
  split
  · split
    · exact Nat.le_max_left ..
    · exact Nat.le_max_left ..
  · exact Nat.le_max_left ..
  · exact Nat.le_max_left ..
  · exact Nat.le_refl _

/-- Who gives up has not got what was awaited. -/
theorem giveUp_ne_done {α : Type} (limits : Limits) (now : Time) (result : α) :
    (giveUp limits now : Timed α).outcome ≠ .done result := by
  unfold giveUp
  split
  · split <;> exact nofun
  all_goals exact nofun

/-- Nothing comes of what was given up. -/
theorem map_giveUp {α β : Type} (f : α → β) (limits : Limits) (now : Time) :
    (giveUp limits now).map f = giveUp limits now := by
  unfold giveUp
  split
  · split <;> rfl
  all_goals rfl

/-- Wait from `now` on for what is possible from the moment `due` on, or never. -/
def await (limits : Limits) (now : Time) (due : Option Time) : Timed Unit :=
  match due with
  | some moment =>
    if moment ≤ now then ⟨.done (), now⟩
    else if Limits.allows limits.deadline moment && Limits.allows limits.horizon moment then
      ⟨.done (), moment⟩
    else giveUp limits now
  | none => giveUp limits now

/-- What is possible already is not waited for. -/
theorem await_of_le {limits : Limits} {now moment : Time} (h : moment ≤ now) :
    await limits now (some moment) = ⟨.done (), now⟩ := by
  simp [await, h]

/-- Waiting takes no time back. -/
theorem le_time_await (limits : Limits) (now : Time) (due : Option Time) :
    now ≤ (await limits now due).time := by
  unfold await
  split
  · split
    · exact Nat.le_refl _
    · rename_i later
      split
      · exact Nat.le_of_lt (Nat.lt_of_not_le later)
      · exact le_time_giveUp limits now
  · exact le_time_giveUp limits now

end FramedExchange
