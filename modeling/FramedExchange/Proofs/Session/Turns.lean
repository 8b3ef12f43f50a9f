import FramedExchange.Proofs.Session.Isolation

/-!
# The turns of a strand

Of the events of a session those of one strand are its turns (`Session.turnsAt`). In each of them
the strand finds the server in some state, which it has not brought about alone: between two turns
the others may have done anything to the server. So a strand takes its turns on one server after
another (`Strand.Takes`), and what is proved of that holds in every interleaving.

What a strand can come to in this way is told by what has been noted down about it
(`Stage.IsSound`). A connection has its stream from its opening up to the end of its first action,
whichever that is, and is not closed in that time. From then on it has no stream any more, and every
further action ends at once.
-/

namespace FramedExchange

/-- One event of a strand: the strand and the server as it finds it. -/
structure Turn where
  strand : Strand
  server : Server

namespace Turn

/-- The strand after a turn. -/
def next (horizon : Option Time) (turn : Turn) : Strand :=
  (turn.strand.advance horizon turn.server).1

/-- The server after a turn. -/
def left (horizon : Option Time) (turn : Turn) : Server :=
  (turn.strand.advance horizon turn.server).2

end Turn

/-- A strand takes turns, each on a server as others may have left it, and comes to another one. -/
inductive Strand.Takes (horizon : Option Time) : Strand → List Turn → Strand → Prop
  | rest (strand : Strand) : Takes horizon strand [] strand
  | turn {strand last : Strand} {turns : List Turn} (server : Server) :
      Takes horizon (strand.advance horizon server).1 turns last →
      Takes horizon strand (⟨strand, server⟩ :: turns) last

namespace Session

/-- The turns of the strand at a place. -/
def turnsAt (horizon : Option Time) (place : ℕ) : List Event → Session → List Turn
  | [], _ => []
  | event :: events, session =>
    (if event = .advance place then
        (session.strands[place]?.map fun strand ↦ ⟨strand, session.server⟩).toList
      else []) ++
    turnsAt horizon place events (session.happen horizon event)

variable {horizon : Option Time} {place : ℕ} {session : Session} {strand : Strand}

/-- There are as many strands as there were. -/
theorem length_strands_play (horizon : Option Time) (events : List Event) (session : Session) :
    (session.play horizon events).strands.length = session.strands.length := by
  induction events generalizing session with
  | nil => rfl
  | cons event events ih =>
    rw [play, ih]
    cases event with
    | beginShutdown => rfl
    | advance place =>
      rw [happen, advanceAt]
      split
      · rfl
      · exact List.length_set

/-- **A strand gets to where its turns lead it**, whatever the others do in between. -/
theorem exists_takes_turnsAt (horizon : Option Time)
    (hstrand : session.strands[place]? = some strand) (events : List Event) :
    ∃ last, (session.play horizon events).strands[place]? = some last ∧
      strand.Takes horizon (session.turnsAt horizon place events) last := by
  induction events generalizing session strand with
  | nil => exact ⟨strand, hstrand, .rest strand⟩
  | cons event events ih =>
    -- what another strand does leaves this one where it is
    by_cases hown : event = .advance place
    · subst hown
      obtain ⟨last, hlast, htakes⟩ := ih (happen_advance horizon hstrand).2
      refine ⟨last, hlast, ?_⟩
      rw [turnsAt, if_pos rfl, hstrand]
      exact .turn session.server htakes
    · obtain ⟨last, hlast, htakes⟩ :=
        ih ((happen_of_ne horizon hown session).1.trans hstrand)
      refine ⟨last, hlast, ?_⟩
      rwa [turnsAt, if_neg hown, List.nil_append]

/-- Whatever stands at a place has got there by its turns. -/
theorem exists_takes_of_play {events : List Event} {last : Strand}
    (hlast : (session.play horizon events).strands[place]? = some last) :
    ∃ strand, session.strands[place]? = some strand ∧
      strand.Takes horizon (session.turnsAt horizon place events) last := by
  have hlt : place < session.strands.length := by
    rw [← session.length_strands_play horizon events]
    exact (List.getElem?_eq_some_iff.1 hlast).1
  obtain ⟨last', hlast', htakes⟩ :=
    exists_takes_turnsAt horizon (List.getElem?_eq_getElem hlt) events
  obtain rfl := Option.some.inj (hlast'.symm.trans hlast)
  exact ⟨_, List.getElem?_eq_getElem hlt, htakes⟩

/-- Every turn finds a server that the session has come to, after some of its events. -/
theorem exists_play_of_mem_turnsAt {events : List Event} {turn : Turn}
    (hmem : turn ∈ session.turnsAt horizon place events) :
    ∃ before, before <+: events ∧ (session.play horizon before).server = turn.server := by
  induction events generalizing session with
  | nil => cases hmem
  | cons event events ih =>
    rw [turnsAt] at hmem
    rcases List.mem_append.1 hmem with hmem | hmem
    · -- the turn is this very event, and the server is the one before it
      refine ⟨[], List.nil_prefix, ?_⟩
      split at hmem
      · obtain ⟨strand, -, rfl⟩ := Option.map_eq_some_iff.1 (Option.mem_toList.1 hmem)
        rfl
      · cases hmem
    · obtain ⟨before, hprefix, hserver⟩ := ih hmem
      exact ⟨event :: before, (List.prefix_cons_inj event).2 hprefix, hserver⟩

end Session

/-! ### What a turn can do -/

/-- What has been noted down about a strand, without moments and states. -/
def Strand.deeds (strand : Strand) : List Milestone := strand.steps.map Step.milestone

/-- How the connection of a plan is opened. -/
def Server.openPlanned (plan : Plan) (server : Server) : Connection × Server :=
  (if plan.shutsDownFirst then server.beginShutdown else server).openConnection
    plan.name plan.source plan.sink

/-- One turn: the stage and the server before it, and the stage, the server and the new milestones
after it. -/
inductive Stage.GoesOn (horizon : Option Time) (plan : Plan) :
    Stage → Server → Stage → Server → List Milestone → Prop
  | opening (server : Server) :
      GoesOn horizon plan .unopened server
        (.between (server.openPlanned plan).1 plan.actions) (server.openPlanned plan).2 [.opened]
  | beginning {connection : Connection} (action : Connection.Action)
      (actions : List Connection.Action) (now : Time) (server : Server)
      (hattached : connection.isAttached = true) :
      GoesOn horizon plan (.between connection (action :: actions)) server
        (.inPhase connection action
          (action.firstPhase.run server.settings server.dispatcher horizon now connection.link)
          actions) server []
  | next {connection : Connection} {run : PhaseRun} {server : Server} {phase : Phase}
      (action : Connection.Action) (actions : List Connection.Action)
      (hnext : Connection.progressOf (server.after connection.name run) run.ending = .next phase) :
      GoesOn horizon plan (.inPhase connection action run actions) server
        (.inPhase (connection.leftBy run) action
          (phase.run server.settings server.dispatcher horizon run.time
            (connection.leftBy run).link) actions)
        (server.after connection.name run) []
  | closing {connection : Connection} {run : PhaseRun} {reason : CloseReason}
      (action : Connection.Action) (actions : List Connection.Action) (server : Server)
      (hclosed : run.ending = .closed reason) :
      GoesOn horizon plan (.inPhase connection action run actions) server
        (.between ((connection.leftBy run).finish (server.after connection.name run)).1 actions)
        ((connection.leftBy run).finish (server.after connection.name run)).2
        [.performed action (some reason)]
  | abandoning {connection : Connection} {run : PhaseRun} (action : Connection.Action)
      (actions : List Connection.Action) (server : Server) (hhanging : run.ending = .hanging) :
      GoesOn horizon plan (.inPhase connection action run actions) server
        (.between { connection.leftBy run with isAttached := false } actions)
        (server.after connection.name run) [.performed action none]
  | refusing {connection : Connection} (actions : List Connection.Action) (server : Server)
      (hdetached : connection.isAttached = false) :
      GoesOn horizon plan (.between connection (.serve :: actions)) server
        (.between connection actions) server [.performed .serve (some .alreadyClosed)]
  | closingAgain {connection : Connection} (actions : List Connection.Action) (server : Server)
      (hdetached : connection.isAttached = false) :
      GoesOn horizon plan (.between connection (.close :: actions)) server
        (.between (connection.finish server).1 actions) (connection.finish server).2
        [.performed .close (some .requested)]
  | dropping (connection : Connection) (server : Server) :
      GoesOn horizon plan (.between connection []) server (.dropped (connection.finish server).1)
        (connection.finish server).2 [.dropped]
  | resting (connection : Connection) (server : Server) :
      GoesOn horizon plan (.dropped connection) server (.dropped connection) server []

namespace Strand

variable {horizon : Option Time}

@[simp]
theorem deeds_noteDown (milestone : Milestone) (connection : Connection) (server : Server)
    (strand : Strand) :
    (strand.noteDown milestone connection server).deeds = strand.deeds ++ [milestone] := by
  rw [deeds, deeds, noteDown, List.map_append]
  rfl

/-- **This is all that a turn can do.** -/
theorem exists_goesOn (horizon : Option Time) (strand : Strand) (server : Server) :
    ∃ more, strand.stage.GoesOn horizon strand.plan server (strand.advance horizon server).1.stage
        (strand.advance horizon server).2 more ∧
      (strand.advance horizon server).1.plan = strand.plan ∧
      (strand.advance horizon server).1.deeds = strand.deeds ++ more := by
  -- the cases are those of the definition of a turn, and each has its own constructor
  obtain ⟨plan, stage, time, steps⟩ := strand
  have hsame : (⟨plan, stage, time, steps⟩ : Strand).deeds =
      (⟨plan, stage, time, steps⟩ : Strand).deeds ++ [] := (List.append_nil _).symm
  cases stage with
  | unopened => exact ⟨_, .opening server, rfl, deeds_noteDown ..⟩
  | between connection actions =>
    rcases actions with - | ⟨action, actions⟩
    · exact ⟨_, .dropping connection server, rfl, deeds_noteDown ..⟩
    · rcases hattached : connection.isAttached with - | -
      · -- without a stream no action takes a phase
        cases action with
        | serve =>
          have hbegin : connection.begin .serve server =
              (.closed .alreadyClosed, connection, server) := by
            rw [Connection.begin, hattached]
            rfl
          simp only [advance, hbegin]
          exact ⟨_, .refusing actions server hattached, rfl, deeds_noteDown ..⟩
        | close =>
          have hbegin : connection.begin .close server =
              (.closed .requested, connection.finish server) := by
            rw [Connection.begin, hattached]
            rfl
          simp only [advance, hbegin]
          exact ⟨_, .closingAgain actions server hattached, rfl, deeds_noteDown ..⟩
      · have hbegin : connection.begin action server =
            (.next action.firstPhase, connection, server) := if_pos hattached
        simp only [advance, hbegin]
        exact ⟨_, .beginning action actions time server hattached, rfl, hsame⟩
  | inPhase connection action run actions =>
    -- how the run of the phase has ended says whether another one follows
    rcases hprogress : Connection.progressOf (server.after connection.name run) run.ending with
      phase | reason | -
    · have hadvance : advance horizon ⟨plan, .inPhase connection action run actions, time, steps⟩
          server = _ := congrArg (follow horizon action actions run.time _)
            (Connection.commit_of_next hprogress)
      rw [hadvance, follow, Server.settings_after, Server.dispatcher_after]
      exact ⟨_, .next action actions hprogress, rfl, hsame⟩
    · have hclosed := Connection.progressOf_eq_closed_iff.1 hprogress
      simp only [advance, Connection.commit_of_closed hclosed]
      exact ⟨_, .closing action actions server hclosed, rfl, deeds_noteDown ..⟩
    · have hhanging := Connection.progressOf_eq_abandoned_iff.1 hprogress
      simp only [advance, Connection.commit_of_hanging hhanging]
      exact ⟨_, .abandoning action actions server hhanging, rfl, deeds_noteDown ..⟩
  | dropped connection => exact ⟨_, .resting connection server, rfl, hsame⟩

/-- The plan of a strand stays the same. -/
theorem plan_takes {strand last : Strand} {turns : List Turn}
    (htakes : strand.Takes horizon turns last) : last.plan = strand.plan := by
  induction htakes with
  | rest strand => rfl
  | @turn strand last turns server _ ih =>
    obtain ⟨more, -, hplan, -⟩ := strand.exists_goesOn horizon server
    exact ih.trans hplan

end Strand

/-! ### What is noted down -/

/-- How an action ends on a connection that has no stream any more. -/
def Connection.Action.reasonDetached : Connection.Action → CloseReason
  | serve => .alreadyClosed
  | close => .requested

/-- All that is noted down about a planned connection, if its first action ends in a certain way. -/
def Plan.milestones (reason? : Option CloseReason) (plan : Plan) : List Milestone :=
  .opened ::
    (match plan.actions with
    | [] => []
    | first :: later =>
      .performed first reason? ::
        later.map fun action ↦ .performed action (some action.reasonDetached)) ++
    [.dropped]

/-- The stages that a strand can come to, with what has been noted down by then. -/
inductive Stage.IsSound (horizon : Option Time) (plan : Plan) (deeds : List Milestone) :
    Stage → Prop
  | unopened (hdeeds : deeds = []) : IsSound horizon plan deeds .unopened
  /-- The connection has been opened and not asked for anything. -/
  | opened {connection : Connection} {actions : List Connection.Action}
      (hattached : connection.isAttached = true) (hopen : connection.isClosed = false)
      (hdeeds : deeds = [.opened]) (hactions : plan.actions = actions) :
      IsSound horizon plan deeds (.between connection actions)
  /-- The first action is in one of its phases. -/
  | inPhase {connection : Connection} {action : Connection.Action}
      {actions : List Connection.Action}
      (settings : ServerSettings) (dispatcher : Dispatcher) (phase : Phase) (now : Time)
      (hattached : connection.isAttached = true) (hopen : connection.isClosed = false)
      (hdeeds : deeds = [.opened]) (hactions : plan.actions = action :: actions) :
      IsSound horizon plan deeds (.inPhase connection action
        (phase.run settings dispatcher horizon now connection.link) actions)
  /-- The first action has come to its end, and others after it. -/
  | detached {connection : Connection} {actions : List Connection.Action}
      (first : Connection.Action) (reason? : Option CloseReason) (done : List Connection.Action)
      (hattached : connection.isAttached = false)
      (hactions : plan.actions = first :: done ++ actions)
      (hdeeds : deeds = .opened :: .performed first reason? ::
        done.map fun action ↦ .performed action (some action.reasonDetached)) :
      IsSound horizon plan deeds (.between connection actions)
  | dropped {connection : Connection} (reason? : Option CloseReason)
      (hattached : connection.isAttached = false) (hclosed : connection.isClosed = true)
      (hdeeds : deeds = plan.milestones reason?) :
      IsSound horizon plan deeds (.dropped connection)

/-- An action without a stream is noted down as such, and there is no stream after it either. -/
theorem Stage.IsSound.performDetached {horizon : Option Time} {plan : Plan}
    {deeds : List Milestone} {connection later : Connection} {action : Connection.Action}
    {actions : List Connection.Action}
    (h : (Stage.between connection (action :: actions)).IsSound horizon plan deeds)
    (hdetached : connection.isAttached = false) (hlater : later.isAttached = false) :
    (Stage.between later actions).IsSound horizon plan
      (deeds ++ [.performed action (some action.reasonDetached)]) := by
  cases h with
  | opened hattached =>
    rw [hdetached] at hattached
    cases hattached
  | detached first reason? done _ hactions hdone =>
    refine .detached first reason? (done ++ [action]) hlater ?_ ?_
    · rw [hactions]
      simp
    · rw [hdone]
      simp

/-- **Each turn leads from one of these stages to another**, whatever the server is. -/
theorem Stage.IsSound.goesOn {horizon : Option Time} {plan : Plan} {deeds more : List Milestone}
    {stage later : Stage} {server left : Server} (h : stage.IsSound horizon plan deeds)
    (hgoes : stage.GoesOn horizon plan server later left more) :
    later.IsSound horizon plan (deeds ++ more) := by
  -- a turn says what stage it starts from, and of what is known there one case is left
  cases hgoes with
  | opening server =>
    obtain hnone | - := h
    exact .opened rfl rfl (by rw [hnone]; rfl) rfl
  | beginning action actions now server hattached =>
    cases h with
    | opened _ hopen hopened hactions =>
      exact .inPhase _ _ _ _ hattached hopen (by rw [hopened]; rfl) hactions
    | detached first reason? done hdetached =>
      -- a phase needs the stream that the connection no longer has
      rw [hattached] at hdetached
      cases hdetached
  | next action actions hnext =>
    cases h with
    | inPhase _ _ _ _ hattached hopen hopened hactions =>
      exact .inPhase _ _ _ _ hattached hopen (by rw [hopened]; rfl) hactions
  | closing action actions server hclosed =>
    cases h with
    | inPhase _ _ _ _ hattached hopen hopened hactions =>
      exact .detached action _ [] rfl hactions (by rw [hopened]; rfl)
  | abandoning action actions server hhanging =>
    cases h with
    | inPhase _ _ _ _ hattached hopen hopened hactions =>
      exact .detached action none [] rfl hactions (by rw [hopened]; rfl)
  | refusing actions server hdetached => exact h.performDetached hdetached hdetached
  | closingAgain actions server hdetached => exact h.performDetached hdetached rfl
  | dropping connection server =>
    -- nothing is left of the plan, so all its milestones have been noted down
    cases h with
    | opened _ _ hopened hactions =>
      refine .dropped none rfl rfl ?_
      rw [hopened, Plan.milestones, hactions]
    | detached first reason? done _ hactions hdone =>
      refine .dropped reason? rfl rfl ?_
      rw [hdone, Plan.milestones, hactions]
      simp
  | resting connection server =>
    cases h with
    | dropped reason? hattached hclosed hdropped =>
      exact .dropped reason? hattached hclosed (by rw [hdropped, List.append_nil])

/-- **What is noted down are the first of the milestones that the plan has.** -/
theorem Stage.IsSound.exists_prefix {horizon : Option Time} {plan : Plan} {deeds : List Milestone}
    {stage : Stage} (h : stage.IsSound horizon plan deeds) :
    ∃ reason?, deeds <+: plan.milestones reason? := by
  cases h with
  | unopened hdeeds =>
    rw [hdeeds]
    exact ⟨none, List.nil_prefix⟩
  | opened _ _ hdeeds | inPhase _ _ _ _ _ _ hdeeds =>
    rw [hdeeds]
    exact ⟨none, (List.prefix_cons_inj _).2 List.nil_prefix⟩
  | @detached _ actions first reason? done _ hactions hdeeds =>
    refine ⟨reason?, actions.map (fun action ↦ .performed action (some action.reasonDetached)) ++
      [.dropped], ?_⟩
    rw [hdeeds, Plan.milestones, hactions]
    simp
  | dropped reason? _ _ hdeeds => exact ⟨reason?, hdeeds ▸ List.prefix_refl _⟩

namespace Strand

/-- A strand that can be come to from the beginning. -/
def IsSound (horizon : Option Time) (strand : Strand) : Prop :=
  strand.stage.IsSound horizon strand.plan strand.deeds

variable {horizon : Option Time} {strand last : Strand} {turns : List Turn}

theorem isSound_start (horizon : Option Time) (now : Time) (plan : Plan) :
    (start now plan).IsSound horizon := .unopened rfl

theorem IsSound.advance (h : strand.IsSound horizon) (server : Server) :
    (strand.advance horizon server).1.IsSound horizon := by
  obtain ⟨more, hgoes, hplan, hdeeds⟩ := strand.exists_goesOn horizon server
  rw [IsSound, hplan, hdeeds]
  exact Stage.IsSound.goesOn h hgoes

theorem IsSound.takes (h : strand.IsSound horizon) (htakes : strand.Takes horizon turns last) :
    last.IsSound horizon := by
  induction htakes with
  | rest strand => exact h
  | turn server _ ih => exact ih (h.advance server)

end Strand

end FramedExchange
