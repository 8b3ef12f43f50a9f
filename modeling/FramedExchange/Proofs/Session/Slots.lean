import FramedExchange.AcceptLoop
import FramedExchange.Proofs.Session.LastReply
import Mathlib.Data.List.Basic

/-!
# Slots for connections

A server that listens goes on in steps: something happens to its accept loop, or one of its
connections goes on (`Listening.Step`). In whatever order the steps come, each slot is free, or in
the hand of the loop, or taken along by one connection that is served (`Listening.IsBalanced`). That
is shown for one step (`Listening.IsBalanced.step`) and then for every run.

So no slot is lost however often streams fail to be accepted and connections panic, and there are
never more connections than slots. A loop that has stopped stays stopped: from then on connections
only end (`Listening.HasStopped`).
-/

namespace FramedExchange

namespace AcceptLoop

variable {loop after : AcceptLoop}

theorem held_of_seekingSlot (h : loop.stage = .seekingSlot) : loop.held = 0 := by
  rw [held, h]

theorem held_of_seekingStream (h : loop.stage = .seekingStream) : loop.held = 1 := by
  rw [held, h]

theorem held_of_stopped (h : loop.stage = .stopped) : loop.held = 0 := by
  rw [held, h]

/-- **This is all that an event can do** to a loop. -/
theorem step?_cases {event : AcceptEvent} (h : loop.step? event = some after) :
    (event = .slotTaken ∧ loop.stage = .seekingSlot ∧ 0 < loop.free ∧
        after = { loop with free := loop.free - 1, stage := .seekingStream }) ∨
      (event = .accepted ∧ loop.stage = .seekingStream ∧
        after = { loop with
          stage := .seekingSlot
          running := loop.nextId :: loop.running
          nextId := loop.nextId + 1 }) ∨
      (event = .acceptFailed ∧ loop.stage = .seekingStream ∧
        after = { loop with free := loop.free + 1, stage := .seekingSlot }) ∨
      (∃ id byPanic, event = .ended id byPanic ∧ id ∈ loop.running ∧
        after = { loop with free := loop.free + 1, running := loop.running.erase id }) ∨
      (event = .stopped ∧ loop.stage ≠ .stopped ∧
        after = { loop with free := loop.free + loop.held, stage := .stopped }) := by
  obtain ⟨free, stage, running, nextId⟩ := loop
  cases event with
  | slotTaken =>
    cases stage with
    | seekingSlot =>
      obtain ⟨hfree, hafter⟩ := Option.ite_none_left_eq_some.1 h
      exact .inl ⟨rfl, rfl, Nat.pos_of_ne_zero hfree, (Option.some.inj hafter).symm⟩
    | seekingStream | stopped => cases h
  | accepted =>
    cases stage with
    | seekingStream => exact .inr (.inl ⟨rfl, rfl, (Option.some.inj h).symm⟩)
    | seekingSlot | stopped => cases h
  | acceptFailed =>
    cases stage with
    | seekingStream => exact .inr (.inr (.inl ⟨rfl, rfl, (Option.some.inj h).symm⟩))
    | seekingSlot | stopped => cases h
  | ended id byPanic =>
    obtain ⟨hmem, hafter⟩ := Option.ite_none_right_eq_some.1 h
    exact .inr (.inr (.inr (.inl ⟨id, byPanic, rfl, hmem, (Option.some.inj hafter).symm⟩)))
  | stopped =>
    refine .inr (.inr (.inr (.inr ⟨rfl, ?_⟩)))
    cases stage with
    | seekingSlot | seekingStream => exact ⟨nofun, (Option.some.inj h).symm⟩
    | stopped => cases h

theorem eq_of_step?_accepted (h : loop.step? .accepted = some after) :
    loop.stage = .seekingStream ∧ after = { loop with
      stage := .seekingSlot
      running := loop.nextId :: loop.running
      nextId := loop.nextId + 1 } := by
  obtain ⟨hevent, -⟩ | ⟨-, hstage, hafter⟩ | ⟨hevent, -⟩ | ⟨_, _, hevent, -⟩ | ⟨hevent, -⟩ :=
    step?_cases h
  · cases hevent
  · exact ⟨hstage, hafter⟩
  all_goals cases hevent

theorem eq_of_step?_acceptFailed (h : loop.step? .acceptFailed = some after) :
    loop.stage = .seekingStream ∧
      after = { loop with free := loop.free + 1, stage := .seekingSlot } := by
  obtain ⟨hevent, -⟩ | ⟨hevent, -⟩ | ⟨-, hstage, hafter⟩ | ⟨_, _, hevent, -⟩ | ⟨hevent, -⟩ :=
    step?_cases h
  · cases hevent
  · cases hevent
  · exact ⟨hstage, hafter⟩
  all_goals cases hevent

theorem step?_slotTaken (h : loop.stage = .seekingSlot) (hfree : loop.free ≠ 0) :
    loop.step? .slotTaken = some { loop with free := loop.free - 1, stage := .seekingStream } := by
  obtain ⟨free, stage, running, nextId⟩ := loop
  cases h
  exact if_neg hfree

/-- A connection that is served can end at any time, in either way, and gives its slot back. -/
theorem step?_ended {id : Nat} (h : id ∈ loop.running) (byPanic : Bool) :
    loop.step? (.ended id byPanic) =
      some { loop with free := loop.free + 1, running := loop.running.erase id } :=
  if_pos h

/-- A loop that has not stopped can be told to stop at any time, and gives back the slot
that it holds. -/
theorem step?_stopped (h : loop.stage ≠ .stopped) :
    loop.step? .stopped = some { loop with free := loop.free + loop.held, stage := .stopped } := by
  obtain ⟨free, stage, running, nextId⟩ := loop
  cases stage with
  | seekingSlot | seekingStream => rfl
  | stopped => exact absurd rfl h

end AcceptLoop

/-! ### Steps -/

/-- A server that listens: its accept loop, and what its connections share. -/
structure Listening where
  loop : AcceptLoop
  server : Server

namespace Listening

/-- A server that has begun to listen. -/
def start (settings : ServerSettings) (dispatcher : Dispatcher) : Listening :=
  ⟨.start settings, .start settings dispatcher⟩

/-- What can happen while a server listens. -/
inductive Step : Listening → Listening → Prop
  /-- Something happens to the accept loop. -/
  | event {listening : Listening} {loop : AcceptLoop} (event : AcceptEvent)
      (hstep : listening.loop.step? event = some loop) :
      Step listening ⟨loop, listening.server.noteAccept event⟩
  /-- A connection goes on. -/
  | goesOn (listening : Listening) (horizon : Option Time) (strand : Strand) :
      Step listening ⟨listening.loop, (strand.advance horizon listening.server).2⟩

/-- What can come of a server that listens, by any number of steps in any order. -/
abbrev Reaches : Listening → Listening → Prop := Relation.ReflTransGen Step

variable {settings : ServerSettings} {dispatcher : Dispatcher} {listening later : Listening}

/-! ### The balance of slots -/

/-- Each slot is in one place, each connection has a number of its own, and a loop that has stopped
has told the server. -/
structure IsBalanced (slots : Nat) (listening : Listening) : Prop where
  balance : listening.loop.free + listening.loop.held + listening.loop.running.length = slots
  nodup : listening.loop.running.Nodup
  lt_nextId : ∀ id ∈ listening.loop.running, id < listening.loop.nextId
  told : listening.loop.stage = .stopped → listening.server.isShuttingDown = true

theorem isBalanced_start (settings : ServerSettings) (dispatcher : Dispatcher) :
    (start settings dispatcher).IsBalanced (AcceptLoop.slotsOf settings) :=
  ⟨rfl, List.nodup_nil, nofun, nofun⟩

/-- **No step loses a slot or makes one up.** -/
theorem IsBalanced.step {slots : Nat} (h : listening.IsBalanced slots)
    (hstep : Step listening later) :
    later.IsBalanced slots := by
  obtain ⟨hbalance, hnodup, hlt, htold⟩ := h
  cases hstep with
  | goesOn horizon strand =>
    obtain ⟨more, hgoes, -, -⟩ := strand.exists_goesOn horizon listening.server
    exact ⟨hbalance, hnodup, hlt, fun hstage ↦ hgoes.isShuttingDown (htold hstage)⟩
  | event event hstep =>
    obtain ⟨rfl, hstage, hfree, rfl⟩ | ⟨rfl, hstage, rfl⟩ | ⟨rfl, hstage, rfl⟩ |
      ⟨id, byPanic, rfl, hmem, rfl⟩ | ⟨rfl, hstage, rfl⟩ := AcceptLoop.step?_cases hstep
    · -- a free slot goes over to the loop
      refine ⟨?_, hnodup, hlt, nofun⟩
      rw [AcceptLoop.held_of_seekingSlot hstage] at hbalance
      show listening.loop.free - 1 + 1 + listening.loop.running.length = slots
      omega
    · -- the loop's slot goes along with the new connection, whose number has not been used
      have hfresh : listening.loop.nextId ∉ listening.loop.running :=
        fun hmem ↦ absurd (hlt _ hmem) (Nat.lt_irrefl _)
      refine ⟨?_, List.nodup_cons.2 ⟨hfresh, hnodup⟩, List.forall_mem_cons.2
        ⟨Nat.lt_succ_self _, fun id hmem ↦ Nat.lt_succ_of_lt (hlt id hmem)⟩, nofun⟩
      rw [AcceptLoop.held_of_seekingStream hstage] at hbalance
      show listening.loop.free + 0 + (listening.loop.running.length + 1) = slots
      omega
    · -- the attempt has failed, and the loop's slot is free again
      refine ⟨?_, hnodup, hlt, nofun⟩
      rw [AcceptLoop.held_of_seekingStream hstage] at hbalance
      show listening.loop.free + 1 + 0 + listening.loop.running.length = slots
      omega
    · -- the slot of a connection that has ended is free again, however it has ended
      refine ⟨?_, hnodup.erase id, fun other hother ↦
        hlt other (List.mem_of_mem_erase hother), htold⟩
      have hlength := List.length_erase_add_one hmem
      show listening.loop.free + 1 + listening.loop.held +
        (listening.loop.running.erase id).length = slots
      omega
    · exact ⟨hbalance, hnodup, hlt, fun _ ↦ rfl⟩

theorem IsBalanced.reaches {slots : Nat} (h : listening.IsBalanced slots)
    (hreaches : Reaches listening later) : later.IsBalanced slots := by
  induction hreaches with
  | refl => exact h
  | tail _ hstep ih => exact ih.step hstep

/-! ### After the stop -/

/-- The accept loop has stopped, and only connections that were being served then are served now. -/
structure HasStopped (running : List Nat) (listening : Listening) : Prop where
  stage : listening.loop.stage = .stopped
  isShuttingDown : listening.server.isShuttingDown = true
  running : listening.loop.running.Sublist running

/-- A loop that has stopped does not go on, nor does the server stop shutting down. -/
theorem HasStopped.step {running : List Nat} (h : listening.HasStopped running)
    (hstep : Step listening later) : later.HasStopped running := by
  obtain ⟨hstopped, hflag, hrunning⟩ := h
  cases hstep with
  | goesOn horizon strand =>
    obtain ⟨more, hgoes, -, -⟩ := strand.exists_goesOn horizon listening.server
    exact ⟨hstopped, hgoes.isShuttingDown hflag, hrunning⟩
  | event event hstep =>
    obtain ⟨-, hstage, -⟩ | ⟨-, hstage, -⟩ | ⟨-, hstage, -⟩ | ⟨id, byPanic, rfl, -, rfl⟩ |
      ⟨-, hstage, -⟩ := AcceptLoop.step?_cases hstep
    -- whatever the loop itself does needs a stage that it has left
    · exact nomatch hstopped.symm.trans hstage
    · exact nomatch hstopped.symm.trans hstage
    · exact nomatch hstopped.symm.trans hstage
    · exact ⟨hstopped, hflag, List.erase_sublist.trans hrunning⟩
    · exact absurd hstopped hstage

theorem HasStopped.reaches {running : List Nat} (h : listening.HasStopped running)
    (hreaches : Reaches listening later) : later.HasStopped running := by
  induction hreaches with
  | refl => exact h
  | tail _ hstep ih => exact ih.step hstep

/-! ### Slots are kept -/

/-- A server that listens keeps its slots. -/
structure KeepsSlots (slots : Nat) (listening : Listening) : Prop where
  /-- Each slot is free, or held by the loop, or taken along by a connection. -/
  balance : listening.loop.free + listening.loop.held + listening.loop.running.length = slots
  length_running_le : listening.loop.running.length ≤ slots
  nodup : listening.loop.running.Nodup
  /-- A stream that is accepted takes the loop's slot along, and is served under a new number. -/
  accepted : ∀ after, listening.loop.step? .accepted = some after →
    listening.loop.held = 1 ∧ after.held = 0 ∧ after.free = listening.loop.free ∧
      after.running = listening.loop.nextId :: listening.loop.running ∧
      listening.loop.nextId ∉ listening.loop.running
  /-- An attempt that fails gives the loop's slot back. -/
  acceptFailed : ∀ after, listening.loop.step? .acceptFailed = some after →
    listening.loop.held = 1 ∧ after.held = 0 ∧ after.free = listening.loop.free + 1 ∧
      after.running = listening.loop.running
  /-- A connection that is served can end at any time, by itself or by a panic, and gives
  its slot back. -/
  ended : ∀ id ∈ listening.loop.running, ∀ byPanic, ∃ after,
    listening.loop.step? (.ended id byPanic) = some after ∧ after.free = listening.loop.free + 1 ∧
      id ∉ after.running ∧ after.running.length + 1 = listening.loop.running.length
  /-- While there are fewer connections than slots, the loop has a slot or can take one. -/
  available : listening.loop.stage ≠ .stopped → listening.loop.running.length < slots →
    listening.loop.held = 1 ∨ ∃ after, listening.loop.step? .slotTaken = some after
  /-- The loop can be told to stop at any time, and gives back the slot that it holds. -/
  stopped : listening.loop.stage ≠ .stopped → ∃ after,
    listening.loop.step? .stopped = some after ∧ after.stage = .stopped ∧
      after.free = listening.loop.free + listening.loop.held ∧
        after.running = listening.loop.running
  /-- Once the loop has stopped, all slots are free but those of the connections that are still
  served. The server is shutting down, and no other connection will be served. -/
  hasStopped : listening.loop.stage = .stopped →
    listening.loop.free + listening.loop.running.length = slots ∧
      ∀ later, Reaches listening later → later.HasStopped listening.loop.running

/-- **A server that listens keeps its slots**, whatever happens to it and in whatever order. -/
theorem keepsSlots_of_reaches (h : Reaches (start settings dispatcher) listening) :
    listening.KeepsSlots (AcceptLoop.slotsOf settings) := by
  obtain ⟨hbalance, hnodup, hlt, htold⟩ := (isBalanced_start settings dispatcher).reaches h
  refine ⟨hbalance, by omega, hnodup, fun after hstep ↦ ?_, fun after hstep ↦ ?_,
    fun id hmem byPanic ↦ ?_, fun hstage hlength ↦ ?_, fun hstage ↦ ?_, fun hstage ↦ ⟨?_, ?_⟩⟩
  · obtain ⟨hstage, rfl⟩ := AcceptLoop.eq_of_step?_accepted hstep
    exact ⟨AcceptLoop.held_of_seekingStream hstage, rfl, rfl, rfl,
      fun hmem ↦ absurd (hlt _ hmem) (Nat.lt_irrefl _)⟩
  · obtain ⟨hstage, rfl⟩ := AcceptLoop.eq_of_step?_acceptFailed hstep
    exact ⟨AcceptLoop.held_of_seekingStream hstage, rfl, rfl, rfl⟩
  · exact ⟨_, AcceptLoop.step?_ended hmem byPanic, rfl, hnodup.not_mem_erase,
      List.length_erase_add_one hmem⟩
  · cases hat : listening.loop.stage with
    | seekingSlot =>
      have hfree : listening.loop.free ≠ 0 := by
        rw [AcceptLoop.held_of_seekingSlot hat] at hbalance
        omega
      exact .inr ⟨_, AcceptLoop.step?_slotTaken hat hfree⟩
    | seekingStream => exact .inl (AcceptLoop.held_of_seekingStream hat)
    | stopped => exact absurd hat hstage
  · exact ⟨_, AcceptLoop.step?_stopped hstage, rfl, rfl, rfl⟩
  · rw [AcceptLoop.held_of_stopped hstage] at hbalance
    exact hbalance
  · intro later hreaches
    exact HasStopped.reaches ⟨hstage, htold hstage, List.Sublist.refl _⟩ hreaches

/-- Of two slots, one comes back from a connection that panics, once more from a stream that cannot
be accepted, and at last from the loop itself; the other goes on being used. -/
theorem keepsSlots_of_reaches_panicked :
    let settings := { ServerSettings.default with maxConnections := 2 }
    let dispatcher := Dispatcher.byPath Registry.empty
    ∃ listening, Reaches (start settings dispatcher) listening ∧
      listening.loop = ⟨1, .stopped, [2], 3⟩ ∧ listening.KeepsSlots 2 := by
  intro settings dispatcher
  have hreaches : Reaches (start settings dispatcher)
      ⟨⟨1, .stopped, [2], 3⟩, (Server.start settings dispatcher).beginShutdown⟩ := by
    refine .head (.event .slotTaken rfl) <| .head (.event .accepted rfl) <|
      .head (.event .slotTaken rfl) <| .head (.event .accepted rfl) <|
      .head (.event (.ended 1 true) rfl) <| .head (.event .slotTaken rfl) <|
      .head (.event .acceptFailed rfl) <| .head (.event .slotTaken rfl) <|
      .single (.event .stopped rfl)
  exact ⟨_, hreaches, rfl, keepsSlots_of_reaches hreaches⟩

end Listening

end FramedExchange
