import FramedExchange.Proofs.Serving.Shared
import FramedExchange.Session

/-!
# Interleavings of connections

The connections of a session may go on in any order. An interleaving is a list of events, each of
which lets one strand go on or makes the server shut down (`Session.play`). What the runner of
concurrent sessions does is one of them, with an order that follows the moments of the events
(`exists_play_runEvents`).

Whatever a strand does, the settings and the handlers of the server stay what they are, and no idle
buffer holds bytes that are left over (`Strand.persists_advance`). An event of one strand leaves the
others alone (`Session.happen_of_ne`). A strand whose events are not separated by others does what
its connection does when it is asked directly (`Strand.exists_finishStrand_of_perform`).
-/

namespace FramedExchange

/-! ### What stays -/

/-- What no connection changes about a server. -/
structure Server.Persists (server after : Server) : Prop where
  settings : after.settings = server.settings
  dispatcher : after.dispatcher = server.dispatcher
  isClean : server.pool.IsClean → after.pool.IsClean

namespace Server

variable {server after later : Server}

theorem Persists.refl (server : Server) : server.Persists server := ⟨rfl, rfl, id⟩

theorem Persists.trans (h : server.Persists after) (h' : after.Persists later) :
    server.Persists later :=
  ⟨h'.settings.trans h.settings, h'.dispatcher.trans h.dispatcher, h'.isClean ∘ h.isClean⟩

theorem persists_beginShutdown (server : Server) : server.Persists server.beginShutdown :=
  ⟨rfl, rfl, id⟩

theorem persists_openConnection (name : String) (source : Source) (sink : Sink) (server : Server) :
    server.Persists (server.openConnection name source sink).2 :=
  ⟨rfl, rfl, fun hclean ↦ hclean.next.2.next.2⟩

theorem persists_finish (connection : Connection) (server : Server) :
    server.Persists (connection.finish server).2 :=
  ⟨rfl, rfl, fun hclean ↦ isClean_finish hclean connection⟩

theorem persists_after (name : String) (run : PhaseRun) (server : Server) :
    server.Persists (server.after name run) :=
  ⟨settings_after .., dispatcher_after .., fun hclean ↦ by rwa [pool_after]⟩

end Server

theorem Connection.persists_begin (action : Action) (connection : Connection) (server : Server) :
    server.Persists (connection.begin action server).2.2 := by
  unfold Connection.begin
  split
  · exact .refl server
  · cases action with
    | serve => exact .refl server
    | close => exact Server.persists_finish connection server

theorem Connection.persists_commit (run : PhaseRun) (connection : Connection) (server : Server) :
    server.Persists (connection.commit run server).2.2 := by
  have hafter := Server.persists_after connection.name run server
  rcases hnext : progressOf (server.after connection.name run) run.ending with next | reason | -
  · rw [commit_of_next hnext]
    exact hafter
  · rw [commit_of_closed (progressOf_eq_closed_iff.1 hnext)]
    exact hafter.trans (Server.persists_finish _ _)
  · rw [commit_of_hanging (progressOf_eq_abandoned_iff.1 hnext)]
    exact hafter

namespace Strand

/-- A strand that goes on with an action does nothing more to the server. -/
theorem server_follow (horizon : Option Time) (action : Connection.Action)
    (actions : List Connection.Action) (now : Time) (strand : Strand)
    (went : Progress × Connection × Server) :
    (strand.follow horizon action actions now went).2 = went.2.2 := by
  obtain ⟨progress, connection, server⟩ := went
  cases progress <;> rfl

/-- **Whatever a strand does**, it changes neither the settings nor the handlers, and it leaves no
bytes in the pool. -/
theorem persists_advance (horizon : Option Time) (strand : Strand) (server : Server) :
    server.Persists (strand.advance horizon server).2 := by
  obtain ⟨plan, stage, time, steps⟩ := strand
  cases stage with
  | unopened =>
    have hbegun : server.Persists
      (if plan.shutsDownFirst then server.beginShutdown else server) := by
      split
      · exact server.persists_beginShutdown
      · exact .refl server
    exact hbegun.trans (Server.persists_openConnection plan.name plan.source plan.sink _)
  | between connection actions =>
    cases actions with
    | nil => exact Server.persists_finish connection server
    | cons action actions =>
      rw [advance, server_follow]
      exact Connection.persists_begin action connection server
  | inPhase connection action run actions =>
    rw [advance, server_follow]
    exact Connection.persists_commit run connection server
  | dropped connection => exact .refl server

/-- What happens to the server in the next event of a strand. -/
def happenings (strand : Strand) : List Happening :=
  match strand.stage with
  | .inPhase _ _ run _ => run.happenings
  | _ => []

end Strand

/-! ### One strand alone -/

namespace Strand

variable {horizon : Option Time} {server server' : Server} {connection connection' : Connection}
variable {reason : CloseReason} {time : Time}

/-- A strand in a phase lets the run of the phase take effect. -/
theorem advance_inPhase (horizon : Option Time) (strand : Strand) (connection : Connection)
    (action : Connection.Action) (run : PhaseRun) (actions : List Connection.Action)
    (server : Server) :
    advance horizon { strand with stage := .inPhase connection action run actions } server =
      follow horizon action actions run.time
        { strand with stage := .inPhase connection action run actions }
        (connection.commit run server) := rfl

/-- The phases of a strand that runs alone are those that the connection runs. -/
theorem exists_finishStrand_of_runFrom {fuel : Nat} {phase : Phase} (strand : Strand)
    (action : Connection.Action) (actions : List Connection.Action)
    (h : connection.runFrom horizon fuel phase strand.time server =
      (⟨some reason, time⟩, connection', server')) :
    ∃ events, Session.finishStrand horizon events
        { strand with
          stage := .inPhase connection action (connection.runOf horizon phase strand.time server)
            actions } server =
      ({ strand with time := time, stage := .between connection' actions }.noteDown
        (.performed action (some reason)) connection' server', server') := by
  induction fuel generalizing strand phase connection server with
  | zero => cases h
  | succ fuel ih =>
    generalize hrun : connection.runOf horizon phase strand.time server = run
    rcases hprogress : Connection.progressOf (server.after connection.name run) run.ending with
      next | other | -
    · -- one event for this phase, and those of the phases after it
      rw [Connection.runFrom_of_next hrun hprogress] at h
      obtain ⟨events, hevents⟩ := ih { strand with time := run.time } h
      refine ⟨events + 1, ?_⟩
      rw [Session.finishStrand, advance_inPhase, Connection.commit_of_next hprogress]
      exact hevents
    · have hend := Connection.progressOf_eq_closed_iff.1 hprogress
      rw [Connection.runFrom_of_closed hrun hend] at h
      cases h
      refine ⟨1, ?_⟩
      rw [Session.finishStrand, advance_inPhase, Connection.commit_of_closed hend]
      rfl
    · -- a phase that hangs gives no result
      have hend := Connection.progressOf_eq_abandoned_iff.1 hprogress
      rw [Connection.runFrom_of_hanging hrun hend] at h
      cases h

/-- **A strand that runs alone performs an action as the connection does**, with the same result at
the same moment and the same server. -/
theorem exists_finishStrand_of_perform (strand : Strand) (action : Connection.Action)
    (actions : List Connection.Action)
    (h : connection.perform action horizon strand.time server =
      (⟨some reason, time⟩, connection', server')) :
    ∃ events, Session.finishStrand horizon events
        { strand with stage := .between connection (action :: actions) } server =
      ({ strand with time := time, stage := .between connection' actions }.noteDown
        (.performed action (some reason)) connection' server', server') := by
  rw [Connection.perform] at h
  have hadvance : advance horizon { strand with stage := .between connection (action :: actions) }
      server = follow horizon action actions strand.time
        { strand with stage := .between connection (action :: actions) }
        (connection.begin action server) := rfl
  -- the action begins with a phase, or it has ended with its beginning
  rcases hbegin : connection.begin action server with ⟨next | other | -, connection₁, server₁⟩
  all_goals rw [hbegin] at h hadvance
  · obtain ⟨events, hevents⟩ := exists_finishStrand_of_runFrom strand action actions h
    refine ⟨events + 1, ?_⟩
    rw [Session.finishStrand, hadvance]
    exact hevents
  · cases h
    exact ⟨1, by rw [Session.finishStrand, hadvance]; rfl⟩
  · cases h

end Strand

/-! ### Events -/

/-- An event of a session. -/
inductive Event
  /-- The strand at a place goes on. -/
  | advance (place : Nat)
  /-- The server is made to shut down by none of the strands. -/
  | beginShutdown
deriving DecidableEq

namespace Session

/-- Let an event happen. -/
def happen (horizon : Option Time) (event : Event) (session : Session) : Session :=
  match event with
  | .advance place => session.advanceAt horizon place
  | .beginShutdown => { session with server := session.server.beginShutdown }

/-- Let events happen one after another. -/
def play (horizon : Option Time) : List Event → Session → Session
  | [], session => session
  | event :: events, session => play horizon events (session.happen horizon event)

variable {horizon : Option Time} {place : Nat} {session : Session}

theorem play_append (events more : List Event) (session : Session) :
    session.play horizon (events ++ more) = (session.play horizon events).play horizon more := by
  induction events generalizing session with
  | nil => rfl
  | cons event events ih => exact ih (session.happen horizon event)

/-- **Running a session by the moments of its events** is one of the interleavings. -/
theorem exists_play_runEvents (horizon : Option Time) (count : Nat) (session : Session) :
    ∃ events, session.runEvents horizon count = session.play horizon events := by
  induction count generalizing session with
  | zero => exact ⟨[], rfl⟩
  | succ count ih =>
    rw [runEvents]
    rcases pick session.strands with - | ⟨place, due⟩
    · exact ⟨[], rfl⟩
    · -- a signal that is due before goes first
      by_cases hsignal : hasSignalBefore place due session.strands
      · obtain ⟨events, hevents⟩ :=
          ih ({ session with server := session.server.beginShutdown }.advanceAt horizon place)
        refine ⟨.beginShutdown :: .advance place :: events, ?_⟩
        simp only [hsignal, if_true]
        exact hevents
      · obtain ⟨events, hevents⟩ := ih (session.advanceAt horizon place)
        refine ⟨.advance place :: events, ?_⟩
        simp only [hsignal, Bool.false_eq_true, if_false]
        exact hevents

/-- The strand at a place goes on when it is its turn. -/
theorem happen_advance (horizon : Option Time) {strand : Strand}
    (hstrand : session.strands[place]? = some strand) :
    (session.happen horizon (.advance place)).server = (strand.advance horizon session.server).2 ∧
      (session.happen horizon (.advance place)).strands[place]? =
        some (strand.advance horizon session.server).1 := by
  simp only [happen, advanceAt, hstrand]
  refine ⟨trivial, ?_⟩
  rw [List.getElem?_set_self (List.getElem?_eq_some_iff.1 hstrand).1]

/-- **An event of another strand leaves a strand alone**, and persists about the server. -/
theorem happen_of_ne (horizon : Option Time) {event : Event} (hother : event ≠ .advance place)
    (session : Session) :
    (session.happen horizon event).strands[place]? = session.strands[place]? ∧
      session.server.Persists (session.happen horizon event).server := by
  cases event with
  | beginShutdown => exact ⟨rfl, session.server.persists_beginShutdown⟩
  | advance other =>
    have hne : other ≠ place := fun heq ↦ hother (congrArg Event.advance heq)
    rw [happen, advanceAt]
    split
    · exact ⟨rfl, .refl session.server⟩
    · rename_i strand _
      exact ⟨List.getElem?_set_ne hne, strand.persists_advance horizon session.server⟩

/-- What a session comes to if only the strand at a place goes on, so many times. -/
def playAlone (horizon : Option Time) (place count : Nat) (session : Session) : Session :=
  session.play horizon (List.replicate count (.advance place))

theorem playAlone_succ (horizon : Option Time) (place count : Nat) (session : Session) :
    session.playAlone horizon place (count + 1) =
      (session.playAlone horizon place count).happen horizon (.advance place) := by
  rw [playAlone, List.replicate_succ', play_append]
  rfl

/-- A strand that goes on alone is advanced again and again. -/
theorem playAlone_eq_finishStrand {strand : Strand}
    (hstrand : session.strands[place]? = some strand) (horizon : Option Time) (count : Nat) :
    (session.playAlone horizon place count).server =
        (finishStrand horizon count strand session.server).2 ∧
      (session.playAlone horizon place count).strands[place]? =
        some (finishStrand horizon count strand session.server).1 := by
  induction count generalizing session strand with
  | zero => exact ⟨rfl, hstrand⟩
  | succ count ih =>
    obtain ⟨hserver, hnext⟩ := happen_advance horizon hstrand
    have hrest := ih hnext
    rw [hserver] at hrest
    exact hrest

end Session

end FramedExchange
