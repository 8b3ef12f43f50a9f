import FramedExchange.Proofs.Serving.History
import FramedExchange.Proofs.Session.Accounting

/-!
# The last reply of a connection that is not kept alive

A server keeps no connection alive while it shuts down, or if its settings say so. It never does
again from then on (`Session.keepsAlive_play`). A connection that finds such a server after each of
its phases has at most one exchange ahead of it: what is ahead of a phase (`Phase.dispatchesAhead`,
`Phase.repliesAhead`) is spent by the run of that phase, and nothing is ahead of its closing.

So in the turns of a strand from that moment on, at most one request is given to its handler and at
most one reply is completed. After that reply the stream is shut down because keep-alive is off, and
nothing is read, handled or written any more (`Strand.LeavesAfterReply`).
-/

namespace FramedExchange

/-! ### Servers -/

namespace Server

variable {server : Server}

theorem isShuttingDown_note (name : String) (happening : Happening)
    (h : server.isShuttingDown = true) : (server.note name happening).isShuttingDown = true := by
  cases happening with
  | shutdownBegun => rfl
  | read | dispatched | panicked | wrote => exact h

/-- What happens in a phase does not end the shutting down. -/
theorem isShuttingDown_after (name : String) (run : PhaseRun) (h : server.isShuttingDown = true) :
    (server.after name run).isShuttingDown = true :=
  after_induction (p := (·.isShuttingDown = true)) h (fun _ ↦ rfl) fun happening _ _ ↦
    isShuttingDown_note name happening

theorem keepsAlive_eq_false :
    server.keepsAlive = false ↔ server.settings.keepAlive = false ∨
      server.isShuttingDown = true := by
  rw [keepsAlive, Bool.and_eq_false_iff, Bool.not_eq_false']

/-- **A server that keeps no connection alive** never will. -/
theorem keepsAlive_of_persists {after : Server} (hpersists : server.Persists after)
    (hflag : server.isShuttingDown = true → after.isShuttingDown = true)
    (h : server.keepsAlive = false) : after.keepsAlive = false := by
  rw [keepsAlive_eq_false] at h ⊢
  rw [hpersists.settings]
  exact h.imp_right hflag

theorem keepsAlive_after (name : String) (run : PhaseRun) (h : server.keepsAlive = false) :
    (server.after name run).keepsAlive = false :=
  keepsAlive_of_persists (server.persists_after name run) (isShuttingDown_after name run) h

end Server

theorem Stage.GoesOn.isShuttingDown {horizon : Option Time} {plan : Plan} {stage later : Stage}
    {server left : Server} {more : List Milestone}
    (h : stage.GoesOn horizon plan server later left more) (hflag : server.isShuttingDown = true) :
    left.isShuttingDown = true := by
  cases h with
  | opening server =>
    show (if plan.shutsDownFirst then server.beginShutdown else server).isShuttingDown = true
    split
    · rfl
    · exact hflag
  | next | closing | abandoning => exact Server.isShuttingDown_after _ _ hflag
  | beginning | refusing | closingAgain | dropping | resting => exact hflag

namespace Session

variable {horizon : Option Time} {session : Session}

/-- No event makes a server keep connections alive again. -/
theorem keepsAlive_play (events : List Event) (h : session.server.keepsAlive = false) :
    (session.play horizon events).server.keepsAlive = false := by
  induction events generalizing session with
  | nil => exact h
  | cons event events ih =>
    refine ih ?_
    cases event with
    | beginShutdown =>
      exact Server.keepsAlive_of_persists session.server.persists_beginShutdown (fun _ ↦ rfl) h
    | advance place =>
      rw [happen, advanceAt]
      split
      · exact h
      · rename_i strand _
        obtain ⟨more, hgoes, -, -⟩ := strand.exists_goesOn horizon session.server
        exact Server.keepsAlive_of_persists (strand.persists_advance horizon session.server)
          hgoes.isShuttingDown h

end Session

/-! ### What is ahead of a phase -/

/-- Whether a run has completed a reply: the whole of it is written and flushed. -/
def PhaseRun.completesReply (run : PhaseRun) : Bool := run.ending = .replied

namespace Phase

/-- How many requests can be given to their handlers in a phase and those after it, as long as no
reply is followed by a request. -/
def dispatchesAhead : Phase → ℕ
  | idle | reading | dispatching _ => 1
  | replying .. | closing _ => 0

/-- How many replies can be completed in a phase and those after it, as long as no reply is followed
by a request. -/
def repliesAhead : Phase → ℕ
  | idle | reading | dispatching _ | replying .. => 1
  | closing _ => 0

theorem dispatchesAhead_le (phase? : Option Phase) :
    phase?.elim 0 dispatchesAhead ≤ phase?.elim 0 repliesAhead := by
  rcases phase? with - | phase
  · exact le_rfl
  · cases phase with
    | idle | reading | dispatching | closing => exact le_rfl
    | replying => exact Nat.zero_le _

theorem repliesAhead_le (phase? : Option Phase) : phase?.elim 0 repliesAhead ≤ 1 := by
  rcases phase? with - | phase
  · exact Nat.zero_le _
  · cases phase with
    | idle | reading | dispatching | replying => exact le_rfl
    | closing => exact Nat.zero_le _

theorem length_inHand_le (phase : Phase) : phase.inHand.length ≤ phase.dispatchesAhead := by
  cases phase with
  | dispatching request => exact le_rfl
  | idle | reading | replying | closing => exact Nat.zero_le _

variable {settings : ServerSettings} {dispatcher : Dispatcher} {horizon : Option Time}
variable {now : Time} {link : Link} {phase following : Phase}

/-- **Each phase spends what is ahead of it** on a server that keeps no connection alive. The
closing for that reason follows a reply that has been completed, and nothing else. -/
theorem spends_run {server : Server} (hserver : server.keepsAlive = false)
    (hnext : Connection.progressOf server (phase.run settings dispatcher horizon now link).ending =
      .next following) :
    phase.inHand.length + following.dispatchesAhead ≤ phase.dispatchesAhead ∧
      (phase.run settings dispatcher horizon now link).completesReply.toNat +
        following.repliesAhead ≤ phase.repliesAhead ∧
      (following = .closing .keepAliveDisabled ↔
        (phase.run settings dispatcher horizon now link).completesReply = true) := by
  rw [PhaseRun.completesReply]
  have hends := ends_run settings dispatcher horizon phase now link
  generalize (phase.run settings dispatcher horizon now link).ending = ending at hnext hends ⊢
  cases hends with
  | replied hfits =>
    -- here the server says what follows, and it keeps no connection alive
    rw [Connection.progressOf, hserver] at hnext
    cases hnext
    exact ⟨le_rfl, le_rfl, fun _ ↦ rfl, fun _ ↦ rfl⟩
  | woken | read | notBegun | handled | replaced =>
    -- on the way to the reply nothing is spent but the request that is handed over
    cases hnext
    refine ⟨le_rfl, le_rfl, ?_, ?_⟩ <;> rintro ⟨⟩
  | gone | expired | failed | notRead | notReplied =>
    -- the closing follows, for another reason
    cases hnext
    refine ⟨Nat.zero_le _, Nat.zero_le _, ?_, ?_⟩ <;> rintro ⟨⟩
  | notHandled =>
    cases hnext
    refine ⟨le_rfl, Nat.zero_le _, ?_, ?_⟩ <;> rintro ⟨⟩
  | closed | hanging => cases hnext

end Phase

/-! ### What is ahead of a strand -/

namespace Milestone

/-- How an action ended, if that is what a milestone is about. -/
def end? : Milestone → Option (Option CloseReason)
  | performed _ reason? => some reason?
  | _ => none

/-- How the first action ended that some milestones are about. -/
def firstEnd? (deeds : List Milestone) : Option (Option CloseReason) := deeds.findSome? end?

end Milestone

namespace Stage

/-- The run of the phase that a strand is in. -/
def run? : Stage → Option PhaseRun
  | inPhase _ _ run _ => some run
  | _ => none

/-- The requests that are given to their handlers in the turn of a stage. -/
def dispatched (stage : Stage) : List Frame := stage.run?.elim [] PhaseRun.dispatched

/-- Whether a reply is completed in the turn of a stage. -/
def completesReply (stage : Stage) : Bool := stage.run?.any PhaseRun.completesReply

/-- What the connection of a stage has sent. -/
def sent (stage : Stage) : List Sent :=
  stage.connection?.elim [] fun connection ↦ connection.link.writer.sink.sent

/-- The phase that a strand is in, or that serving would begin with. There is none any more once the
first action has ended. -/
inductive IsAt (horizon : Option Time) (ended? : Option (Option CloseReason)) :
    Stage → Option Phase → Prop
  | unopened (hended : ended? = none) : IsAt horizon ended? .unopened (some .idle)
  | opened {connection : Connection} {actions : List Connection.Action}
      (hattached : connection.isAttached = true) (hended : ended? = none) :
      IsAt horizon ended? (.between connection actions) (some .idle)
  | inPhase {connection : Connection} {action : Connection.Action}
      {actions : List Connection.Action}
      (settings : ServerSettings) (dispatcher : Dispatcher) (phase : Phase) (now : Time)
      (hended : ended? = none) :
      IsAt horizon ended? (.inPhase connection action
        (phase.run settings dispatcher horizon now connection.link) actions) (some phase)
  | detached {connection : Connection} {actions : List Connection.Action}
      (reason? : Option CloseReason) (hdetached : connection.isAttached = false)
      (hended : ended? = some reason?) : IsAt horizon ended? (.between connection actions) none
  | dropped (connection : Connection) : IsAt horizon ended? (.dropped connection) none

/-- What a turn does to what is ahead of a strand, on a server that keeps no connection alive. -/
structure Spends (stage : Stage) (phase? later? : Option Phase) : Prop where
  dispatches : stage.dispatched.length + later?.elim 0 Phase.dispatchesAhead ≤
    phase?.elim 0 Phase.dispatchesAhead
  replies : stage.completesReply.toNat + later?.elim 0 Phase.repliesAhead ≤
    phase?.elim 0 Phase.repliesAhead
  /-- The stream is shut down because keep-alive is off after a reply that has been completed, and
  otherwise not. -/
  leaves : later? = some (.closing .keepAliveDisabled) ↔ stage.completesReply = true

variable {horizon : Option Time} {plan : Plan} {stage later : Stage} {server left : Server}
variable {deeds more : List Milestone} {ended? : Option (Option CloseReason)}
variable {phase? later? : Option Phase}

/-- Nothing is spent in a turn without a run of a phase. -/
theorem Spends.of_run?_eq_none (hstage : stage.run? = none)
    (hdispatches : later?.elim 0 Phase.dispatchesAhead ≤ phase?.elim 0 Phase.dispatchesAhead)
    (hreplies : later?.elim 0 Phase.repliesAhead ≤ phase?.elim 0 Phase.repliesAhead)
    (hleaves : later? ≠ some (.closing .keepAliveDisabled)) : stage.Spends phase? later? := by
  have hdispatched : stage.dispatched = [] := by
    rw [dispatched, hstage]
    rfl
  have hcompletes : stage.completesReply = false := by
    rw [completesReply, hstage]
    rfl
  refine ⟨?_, ?_, fun hlater ↦ absurd hlater hleaves, fun hreply ↦ ?_⟩
  · rwa [hdispatched, List.length_nil, Nat.zero_add]
  · rwa [hcompletes, Bool.toNat_false, Nat.zero_add]
  · rw [hcompletes] at hreply
    cases hreply

/-- With the last phase of an action everything is spent. -/
theorem Spends.of_inPhase {connection : Connection} {settings : ServerSettings}
    {dispatcher : Dispatcher} {phase : Phase} {now : Time} (action : Connection.Action)
    (actions : List Connection.Action)
    (hend : (phase.run settings dispatcher horizon now connection.link).ending ≠ .replied) :
    (inPhase connection action (phase.run settings dispatcher horizon now connection.link)
      actions).Spends (some phase) none := by
  have hcompletes := decide_eq_false hend
  refine ⟨?_, ?_, nofun, fun hreply ↦ ?_⟩
  · show (phase.run settings dispatcher horizon now connection.link).dispatched.length ≤ _
    rw [Phase.dispatched_run]
    exact phase.length_inHand_le
  · show (phase.run settings dispatcher horizon now connection.link).completesReply.toNat ≤ _
    rw [PhaseRun.completesReply, hcompletes]
    exact Nat.zero_le _
  · exact absurd (hcompletes.symm.trans hreply) Bool.false_ne_true

/-- A stage that has come about by turns is at some phase. -/
theorem IsSound.exists_isAt (h : stage.IsSound horizon plan deeds) :
    ∃ phase?, stage.IsAt horizon (Milestone.firstEnd? deeds) phase? := by
  cases h with
  | unopened hdeeds => exact ⟨_, .unopened (hdeeds ▸ rfl)⟩
  | opened hattached _ hdeeds => exact ⟨_, .opened hattached (hdeeds ▸ rfl)⟩
  | inPhase _ _ _ _ _ _ hdeeds => exact ⟨_, .inPhase _ _ _ _ (hdeeds ▸ rfl)⟩
  | detached _ reason? _ hdetached _ hdeeds =>
    exact ⟨_, .detached reason? hdetached (hdeeds ▸ rfl)⟩
  | dropped => exact ⟨_, .dropped _⟩

/-- Without a stream a strand is at no phase, because its first action has ended. -/
theorem IsAt.exists_end_of_detached {connection : Connection} {action : Connection.Action}
    {actions : List Connection.Action}
    (h : (between connection (action :: actions)).IsAt horizon ended? phase?)
    (hdetached : connection.isAttached = false) :
    ∃ reason?, ended? = some reason? ∧ phase? = none := by
  cases h with
  | opened hattached =>
    rw [hdetached] at hattached
    cases hattached
  | detached reason? _ hended => exact ⟨reason?, hended, rfl⟩

/-- **A turn goes on from the phase that the strand is at.** It ends the first action only if that
phase is the closing, and for its reason. -/
theorem IsAt.goesOn (h : stage.IsAt horizon ended? phase?)
    (hgoes : stage.GoesOn horizon plan server later left more) :
    ∃ later?, later.IsAt horizon (ended?.or (Milestone.firstEnd? more)) later? ∧
      (server.keepsAlive = false → stage.Spends phase? later?) ∧
      (ended? = none → ∀ reason, Milestone.firstEnd? more = some (some reason) →
        phase? = some (.closing reason)) ∧
      ∀ reason, phase? = some (.closing reason) →
        ended?.or (Milestone.firstEnd? more) = some (some reason) ∨
          ended?.or (Milestone.firstEnd? more) = some none := by
  -- the phase that the strand is at later on is told by the stage that the turn leads to
  cases hgoes with
  | opening server =>
    obtain rfl | - := h
    exact ⟨_, .opened rfl rfl, fun _ ↦ Spends.of_run?_eq_none rfl le_rfl le_rfl nofun, nofun, nofun⟩
  | beginning action actions now server hattached =>
    cases h with
    | opened _ hended =>
      subst hended
      refine ⟨_, .inPhase _ _ _ _ rfl, fun _ ↦ ?_, nofun, nofun⟩
      -- serving begins with the phase that the strand is at, closing with one nothing is ahead of
      cases action with
      | serve => exact Spends.of_run?_eq_none rfl le_rfl le_rfl nofun
      | close => exact Spends.of_run?_eq_none rfl (Nat.zero_le _) (Nat.zero_le _) nofun
    | detached _ hdetached =>
      rw [hattached] at hdetached
      cases hdetached
  | @next connection _ server following action actions hnext =>
    cases h with
    | inPhase settings dispatcher phase now hended =>
      subst hended
      refine ⟨_, .inPhase _ _ _ _ rfl, fun hserver ↦ ?_, nofun, ?_⟩
      · obtain ⟨hdispatches, hreplies, hleaves⟩ :=
          Phase.spends_run (Server.keepsAlive_after _ _ hserver) hnext
        refine ⟨?_, hreplies, Option.some_inj.trans hleaves⟩
        show (phase.run settings dispatcher horizon now connection.link).dispatched.length + _ ≤ _
        rwa [Phase.dispatched_run]
      · -- another phase follows, so this one is not the closing
        rintro reason ⟨⟩
        exact absurd hnext (Phase.progressOf_run_closing _ reason _)
  | @closing connection _ reason action actions server hclosed =>
    cases h with
    | inPhase settings dispatcher phase now hended =>
      subst hended
      -- only the closing ends with the connection closed
      obtain rfl := Phase.run_eq_closed hclosed
      refine ⟨none, .detached (some reason) rfl rfl, fun _ ↦ ?_, ?_, ?_⟩
      · exact Spends.of_inPhase action actions (by rw [hclosed]; nofun)
      · rintro - _ ⟨⟩
        rfl
      · rintro _ ⟨⟩
        exact .inl rfl
  | @abandoning connection _ action actions server hhanging =>
    cases h with
    | inPhase settings dispatcher phase now hended =>
      subst hended
      refine ⟨none, .detached none rfl rfl, fun _ ↦ ?_, nofun, fun _ _ ↦ .inr rfl⟩
      exact Spends.of_inPhase action actions (by rw [hhanging]; nofun)
  | refusing actions server hdetached =>
    obtain ⟨reason?, rfl, rfl⟩ := h.exists_end_of_detached hdetached
    exact ⟨_, .detached reason? hdetached rfl,
      fun _ ↦ Spends.of_run?_eq_none rfl le_rfl le_rfl nofun, nofun, nofun⟩
  | closingAgain actions server hdetached =>
    obtain ⟨reason?, rfl, rfl⟩ := h.exists_end_of_detached hdetached
    exact ⟨_, .detached reason? rfl rfl,
      fun _ ↦ Spends.of_run?_eq_none rfl le_rfl le_rfl nofun, nofun, nofun⟩
  | dropping connection server =>
    cases h with
    | opened =>
      exact ⟨_, .dropped _,
        fun _ ↦ Spends.of_run?_eq_none rfl (Nat.zero_le _) (Nat.zero_le _) nofun, nofun, nofun⟩
    | detached =>
      exact ⟨_, .dropped _, fun _ ↦ Spends.of_run?_eq_none rfl le_rfl le_rfl nofun, nofun, nofun⟩
  | resting connection server =>
    cases h with
    | dropped =>
      exact ⟨_, .dropped _, fun _ ↦ Spends.of_run?_eq_none rfl le_rfl le_rfl nofun, nofun, nofun⟩

/-- Nothing is sent in a turn of a strand that has no reply ahead. -/
theorem IsAt.recorded_sent (h : stage.IsAt horizon ended? phase?)
    (hgoes : stage.GoesOn horizon plan server later left more)
    (hahead : phase?.elim 0 Phase.repliesAhead = 0) :
    Sink.recorded later.sent = Sink.recorded stage.sent := by
  cases h with
  | unopened | opened => cases hahead
  | @inPhase connection action actions settings dispatcher phase now =>
    -- the closing is the one phase that has no reply ahead, and it sends nothing
    obtain ⟨reason, rfl⟩ : ∃ reason, phase = .closing reason := by
      cases phase with
      | closing reason => exact ⟨reason, rfl⟩
      | idle | reading | dispatching | replying => cases hahead
    obtain ⟨-, ⟨record, hsent, hrecord⟩, -⟩ :=
      Phase.runClosing_spec settings horizon reason now connection.link
    have hlater : later.sent =
        (Phase.runClosing settings horizon reason now connection.link).link.writer.sink.sent := by
      cases hgoes <;> rfl
    rw [hlater, hsent, Sink.recorded_append, hrecord, List.append_nil]
    rfl
  | detached | dropped => cases hgoes <;> rfl

end Stage

namespace Turn

/-- The requests that are given to their handlers in a turn. -/
def dispatched (turn : Turn) : List Frame := turn.strand.stage.dispatched

/-- Whether a reply is completed in a turn. -/
def completesReply (turn : Turn) : Bool := turn.strand.stage.completesReply

/-- A turn in which no request is given to its handler, no reply is completed and nothing is
sent. -/
structure IsMute (horizon : Option Time) (turn : Turn) : Prop where
  dispatched : turn.dispatched = []
  completesReply : turn.completesReply = false
  sent : Sink.recorded (turn.next horizon).sent = Sink.recorded turn.strand.sent

end Turn

namespace Strand

/-- How the first action on the connection of a strand has ended, if it has. That is what
closes it. -/
def end? (strand : Strand) : Option (Option CloseReason) := Milestone.firstEnd? strand.deeds

/-- The phase that a strand is in, or that serving would begin with. -/
def IsAt (horizon : Option Time) (strand : Strand) (phase? : Option Phase) : Prop :=
  strand.stage.IsAt horizon strand.end? phase?

variable {horizon : Option Time} {strand last : Strand} {turns : List Turn} {phase? : Option Phase}

theorem IsSound.exists_isAt (h : strand.IsSound horizon) : ∃ phase?, strand.IsAt horizon phase? :=
  Stage.IsSound.exists_isAt h

theorem sent_eq (strand : Strand) : strand.sent = strand.stage.sent := by
  rw [sent]
  cases strand.stage <;> rfl

theorem isAbandoned_of_end? (h : strand.end? = some none) : strand.IsAbandoned := by
  obtain ⟨milestone, hmem, hend⟩ := List.exists_of_findSome?_eq_some h
  cases milestone with
  | opened | dropped => cases hend
  | performed action reason? =>
    cases hend
    exact ⟨action, hmem⟩

/-- A turn of a strand that is at a phase. -/
theorem IsAt.advance (h : strand.IsAt horizon phase?) (server : Server) :
    ∃ later?, (strand.advance horizon server).1.IsAt horizon later? ∧
      (server.keepsAlive = false → strand.stage.Spends phase? later?) ∧
      (∀ reason, (strand.advance horizon server).1.end? = some (some reason) →
        strand.end? = some (some reason) ∨ phase? = some (.closing reason)) ∧
      (∀ reason, phase? = some (.closing reason) →
        (strand.advance horizon server).1.end? = some (some reason) ∨
          (strand.advance horizon server).1.end? = some none) ∧
      (phase?.elim 0 Phase.repliesAhead = 0 →
        Sink.recorded (strand.advance horizon server).1.sent = Sink.recorded strand.sent) := by
  obtain ⟨more, hgoes, -, hdeeds⟩ := strand.exists_goesOn horizon server
  have hend : (strand.advance horizon server).1.end? =
      strand.end?.or (Milestone.firstEnd? more) := by
    rw [end?, hdeeds, Milestone.firstEnd?, List.findSome?_append]
    rfl
  obtain ⟨later?, hlater, hspends, hended, hcloses⟩ := Stage.IsAt.goesOn h hgoes
  rw [← hend] at hlater hcloses
  refine ⟨later?, hlater, hspends, fun reason hreason ↦ ?_, hcloses, fun hahead ↦ ?_⟩
  · rw [hend, Option.or_eq_some_iff] at hreason
    exact hreason.imp_right fun ⟨hnone, hmore⟩ ↦ hended hnone reason hmore
  · rw [sent_eq, sent_eq]
    exact Stage.IsAt.recorded_sent h hgoes hahead

/-- How the first action has ended stays so. -/
theorem end?_takes {result : Option CloseReason} (htakes : strand.Takes horizon turns last)
    (h : strand.end? = some result) : last.end? = some result := by
  obtain ⟨more, hmore⟩ := deeds_prefix_takes htakes
  rw [end?, Milestone.firstEnd?] at h ⊢
  rw [← hmore, List.findSome?_append, h, Option.some_or]

/-- **The turns of a strand spend what is ahead of it**, on servers that keep no connection alive.
If the first action comes to its end with them, it does so for that reason exactly if the last phase
was the closing for that reason, or a reply has been completed since. -/
theorem IsAt.spends (h : strand.IsAt horizon phase?) (htakes : strand.Takes horizon turns last)
    (hservers : ∀ turn ∈ turns, turn.server.keepsAlive = false) :
    (turns.flatMap Turn.dispatched).length ≤ phase?.elim 0 Phase.dispatchesAhead ∧
      turns.countP Turn.completesReply ≤ phase?.elim 0 Phase.repliesAhead ∧
      (strand.end? = none → ∀ reason, last.end? = some (some reason) →
        (reason = .keepAliveDisabled ↔ phase? = some (.closing .keepAliveDisabled) ∨
          0 < turns.countP Turn.completesReply)) := by
  induction htakes generalizing phase? with
  | rest strand =>
    refine ⟨Nat.zero_le _, Nat.zero_le _, fun hnone reason hreason ↦ ?_⟩
    rw [hnone] at hreason
    cases hreason
  | @turn strand last turns server htakes ih =>
    obtain ⟨hserver, hservers⟩ := List.forall_mem_cons.1 hservers
    obtain ⟨later?, hlater, hspends, hended, hcloses, -⟩ := h.advance server
    obtain ⟨hdispatches, hreplies, hleaves⟩ := hspends hserver
    obtain ⟨hdispatches', hreplies', hreasons⟩ := ih hlater hservers
    have hcount : (⟨strand, server⟩ :: turns : List Turn).countP Turn.completesReply =
        strand.stage.completesReply.toNat + turns.countP Turn.completesReply := by
      rw [List.countP_cons, Nat.add_comm, Turn.completesReply]
      cases strand.stage.completesReply <;> rfl
    rw [hcount]
    refine ⟨?_, ?_, fun hnone reason hreason ↦ ?_⟩
    · rw [List.flatMap_cons, List.length_append]
      exact (Nat.add_le_add_left hdispatches' _).trans hdispatches
    · exact (Nat.add_le_add_left hreplies' _).trans hreplies
    · rcases hnext : (strand.advance horizon server).1.end? with - | result
      · -- the action goes on: the reason is told by the rest of the turns
        have hopen : phase? ≠ some (.closing .keepAliveDisabled) := by
          intro hphase
          obtain hclosed | hclosed := hcloses _ hphase
          all_goals
            rw [hnext] at hclosed
            cases hclosed
        rw [hreasons hnext reason hreason, hleaves, or_iff_right hopen]
        cases strand.stage.completesReply <;> simp
      · -- the action ends with this turn: its phase was the closing, with nothing ahead
        obtain rfl : result = some reason :=
          Option.some.inj ((end?_takes htakes hnext).symm.trans hreason)
        obtain hclosed | rfl := hended reason hnext
        · rw [hnone] at hclosed
          cases hclosed
        · have hzero := Nat.le_zero.1 ((Nat.add_le_add_left hreplies' _).trans hreplies)
          rw [hzero]
          simp

/-- What is known about the turns of a connection that is not kept alive, and where they
have led. -/
structure LeavesAfterReply (horizon : Option Time) (turns : List Turn) (last : Strand) : Prop where
  /-- At most one request is given to its handler. -/
  dispatches : (turns.flatMap Turn.dispatched).length ≤ 1
  /-- At most one reply is completed. -/
  replies : turns.countP Turn.completesReply ≤ 1
  /-- The stream is shut down after a reply because keep-alive is off, and nothing is handled or
  sent any more. When that is over the connection is closed, for this reason. -/
  leaves : ∀ done turn rest, turns = done ++ turn :: rest → turn.completesReply = true →
    (turn.next horizon).IsAt horizon (some (.closing .keepAliveDisabled)) ∧
      (∀ later ∈ rest, later.IsMute horizon) ∧
      (rest ≠ [] → ¬last.IsAbandoned → last.end? = some (some .keepAliveDisabled))

/-- The turns of a strand can be cut in two. -/
theorem Takes.of_append {before after : List Turn}
    (h : strand.Takes horizon (before ++ after) last) :
    ∃ between, strand.Takes horizon before between ∧ between.Takes horizon after last := by
  induction before generalizing strand with
  | nil => exact ⟨strand, .rest strand, h⟩
  | cons turn before ih =>
    cases h with
    | turn server h =>
      obtain ⟨between, hbefore, hafter⟩ := ih h
      exact ⟨between, .turn server hbefore, hafter⟩

/-- **Once nothing is ahead of a strand its turns are mute**, on servers that keep no connection
alive. -/
theorem IsAt.isMute (h : strand.IsAt horizon phase?) (hahead : phase?.elim 0 Phase.repliesAhead = 0)
    (htakes : strand.Takes horizon turns last)
    (hservers : ∀ turn ∈ turns, turn.server.keepsAlive = false) :
    ∀ turn ∈ turns, turn.IsMute horizon := by
  induction htakes generalizing phase? with
  | rest strand => exact List.forall_mem_nil _
  | @turn strand last turns server _ ih =>
    obtain ⟨hserver, hservers⟩ := List.forall_mem_cons.1 hservers
    obtain ⟨later?, hlater, hspends, -, -, hsent⟩ := h.advance server
    obtain ⟨hdispatches, hreplies, -⟩ := hspends hserver
    rw [hahead] at hreplies
    obtain ⟨hcompletes, hlaterAhead⟩ := Nat.add_eq_zero_iff.1 (Nat.le_zero.1 hreplies)
    have hnone := (Nat.le_add_right _ _).trans (hdispatches.trans (Phase.dispatchesAhead_le phase?))
    rw [hahead] at hnone
    refine List.forall_mem_cons.2 ⟨⟨?_, ?_, hsent hahead⟩, ih hlater hlaterAhead hservers⟩
    · exact List.eq_nil_of_length_eq_zero (Nat.le_zero.1 hnone)
    · exact Bool.toNat_eq_zero.1 hcompletes

/-- **A connection that is not kept alive leaves after its reply.** -/
theorem IsSound.leavesAfterReply (h : strand.IsSound horizon)
    (htakes : strand.Takes horizon turns last)
    (hservers : ∀ turn ∈ turns, turn.server.keepsAlive = false) :
    LeavesAfterReply horizon turns last := by
  obtain ⟨phase?, hat⟩ := h.exists_isAt
  obtain ⟨hdispatches, hreplies, -⟩ := hat.spends htakes hservers
  refine ⟨hdispatches.trans ((Phase.dispatchesAhead_le phase?).trans
    (Phase.repliesAhead_le phase?)),
    hreplies.trans (Phase.repliesAhead_le phase?), ?_⟩
  -- cut the turns before the one that completes the reply
  rintro done turn rest rfl hreply
  obtain ⟨between, hdone, hafter⟩ := htakes.of_append
  obtain ⟨hserver, hrest⟩ := List.forall_mem_cons.1 (List.forall_mem_append.1 hservers).2
  obtain - | ⟨server, hnext⟩ := hafter
  obtain ⟨phase?, hat⟩ := (h.takes hdone).exists_isAt
  obtain ⟨later?, hlater, hspends, -⟩ := hat.advance server
  obtain rfl := (hspends hserver).leaves.2 hreply
  refine ⟨hlater, hlater.isMute rfl hnext hrest, fun hmore hfinished ↦ ?_⟩
  -- the next turn is that of the closing, which ends the action for its reason
  obtain - | ⟨server', hlast⟩ := hnext
  · exact absurd rfl hmore
  · obtain ⟨-, -, -, -, hcloses, -⟩ := hlater.advance server'
    rcases hcloses _ rfl with hclosed | habandoned
    · exact end?_takes hlast hclosed
    · exact absurd (isAbandoned_of_end? (end?_takes hlast habandoned)) hfinished

end Strand

end FramedExchange
