import FramedExchange.Connection

/-!
# What the connections of a server share

Whatever happens to a server on its way (`Server.Reachable`), the buffers that are idle in its pool
are empty: one that is handed back is cleared first. So a new connection has read and written
nothing, and the bytes that it is going to read are those of its stream (`unread_openConnection`).

The settings and the handlers of a server never change while it takes note of what its connections
do (`Server.after`). The server as it is then decides what a connection goes on with
(`Connection.runFrom_of_next` and its companions).
-/

namespace FramedExchange

namespace Pool

/-- No idle buffer holds bytes that are left over from an earlier use. -/
def IsClean (pool : Pool) : Prop := ∀ buffer ∈ pool.idle, buffer.bytes = []

variable {pool : Pool}

theorem isClean_empty (capacity bufferSize : Nat) : (empty capacity bufferSize).IsClean := nofun

/-- A buffer from a clean pool is empty, and the pool stays clean. -/
theorem IsClean.next (hclean : pool.IsClean) :
    pool.next.1.bytes = [] ∧ pool.next.2.IsClean := by
  rcases hidle : pool.idle with - | ⟨buffer, rest⟩
  · rw [Pool.next, hidle]
    exact ⟨rfl, hclean⟩
  · rw [IsClean, hidle] at hclean
    rw [Pool.next, hidle]
    exact ⟨hclean buffer List.mem_cons_self,
      fun other hmem ↦ hclean other (List.mem_cons_of_mem _ hmem)⟩

theorem IsClean.release (hclean : pool.IsClean) (buffer : Buffer) :
    (pool.release buffer).IsClean := by
  unfold Pool.release
  split
  · intro other hmem
    rcases List.mem_cons.1 hmem with rfl | hmem
    · rfl
    · exact hclean other hmem
  · exact hclean

end Pool

namespace Server

/-- The states that a server can come to, from its start on and with connections of any kind. -/
inductive Reachable : Server → Prop
  | start (settings : ServerSettings) (dispatcher : Dispatcher) :
      Reachable (start settings dispatcher)
  | beginShutdown {server : Server} : Reachable server → Reachable server.beginShutdown
  | note {server : Server} (connection : String) (happening : Happening) :
      Reachable server → Reachable (server.note connection happening)
  | openConnection {server : Server} (name : String) (source : Source) (sink : Sink) :
      Reachable server → Reachable (server.openConnection name source sink).2
  | finish {server : Server} (connection : Connection) :
      Reachable server → Reachable (connection.finish server).2

variable {server : Server}

theorem pool_note (connection : String) (happening : Happening) :
    (server.note connection happening).pool = server.pool := by
  cases happening <;> rfl

theorem isClean_finish (hclean : server.pool.IsClean) (connection : Connection) :
    (connection.finish server).2.pool.IsClean := by
  unfold Connection.finish
  split
  · exact (hclean.release _).release _
  · exact hclean

/-- The pool of a server never holds bytes that are left over. -/
theorem Reachable.isClean (hserver : server.Reachable) : server.pool.IsClean := by
  induction hserver with
  | start settings dispatcher => exact Pool.isClean_empty _ _
  | beginShutdown _ ih => exact ih
  | note connection happening _ ih => rwa [pool_note]
  | openConnection name source sink _ ih => exact ih.next.2.next.2
  | finish connection _ ih => exact isClean_finish ih connection

/-- **What a new connection is going to read are the bytes of its stream.** -/
theorem unread_openConnection (hserver : server.Reachable) (name : String) (source : Source)
    (sink : Sink) :
    (server.openConnection name source sink).1.link.reader.unread = source.remaining := by
  have hempty := hserver.isClean.next.1
  show server.pool.next.1.bytes ++ source.remaining = source.remaining
  rw [hempty, List.nil_append]

/-! ### Taking note -/

@[simp]
theorem settings_note (connection : String) (happening : Happening) :
    (server.note connection happening).settings = server.settings := by
  cases happening <;> rfl

@[simp]
theorem dispatcher_note (connection : String) (happening : Happening) :
    (server.note connection happening).dispatcher = server.dispatcher := by
  cases happening <;> rfl

/-- A server that has taken note of a run of a phase. -/
def after (connection : String) (run : PhaseRun) (server : Server) : Server :=
  run.happenings.foldl (note connection)
    (if run.link.signals.isEmpty then server else server.beginShutdown)

/-- **What each happening of a run keeps**, and beginning to shut down as well, the run keeps. -/
theorem after_induction {p : Server → Prop} {connection : String} {run : PhaseRun}
    (hserver : p server) (hshutdown : p server → p server.beginShutdown)
    (hnote : ∀ happening ∈ run.happenings, ∀ server, p server →
      p (server.note connection happening)) :
    p (server.after connection run) := by
  refine List.foldlRecOn run.happenings (note connection) ?_ fun server h happening hmem ↦
    hnote happening hmem server h
  split
  · exact hserver
  · exact hshutdown hserver

@[simp]
theorem settings_after (connection : String) (run : PhaseRun) (server : Server) :
    (server.after connection run).settings = server.settings :=
  after_induction (p := (·.settings = server.settings)) rfl id fun _ _ _ h ↦
    (settings_note ..).trans h

@[simp]
theorem dispatcher_after (connection : String) (run : PhaseRun) (server : Server) :
    (server.after connection run).dispatcher = server.dispatcher :=
  after_induction (p := (·.dispatcher = server.dispatcher)) rfl id fun _ _ _ h ↦
    (dispatcher_note ..).trans h

@[simp]
theorem pool_after (connection : String) (run : PhaseRun) (server : Server) :
    (server.after connection run).pool = server.pool :=
  after_induction (p := (·.pool = server.pool)) rfl id fun _ _ _ h ↦ (pool_note ..).trans h

end Server

/-- The phases that can follow upon the end of another one, whatever the server decides. -/
inductive PhaseEnd.LeadsTo : PhaseEnd → Phase → Prop
  | next (phase : Phase) : LeadsTo (.next phase) phase
  | idle : LeadsTo .replied .idle
  | closing : LeadsTo .replied (.closing .keepAliveDisabled)

namespace Connection

variable {server : Server}

theorem leadsTo_of_progressOf {ending : PhaseEnd} {phase : Phase}
    (h : progressOf server ending = .next phase) : ending.LeadsTo phase := by
  cases ending with
  | next other =>
    cases h
    exact .next phase
  | replied =>
    rw [progressOf] at h
    split at h
    · cases h
      exact .idle
    · cases h
      exact .closing
  | closed reason => cases h
  | hanging => cases h

theorem progressOf_eq_closed_iff {ending : PhaseEnd} {reason : CloseReason} :
    progressOf server ending = .closed reason ↔ ending = .closed reason := by
  cases ending <;> simp [progressOf]

theorem progressOf_eq_abandoned_iff {ending : PhaseEnd} :
    progressOf server ending = .abandoned ↔ ending = .hanging := by
  cases ending <;> simp [progressOf]

/-! ### One phase after another -/

/-- A connection whose stream is as a run has left it. -/
def leftBy (run : PhaseRun) (connection : Connection) : Connection :=
  { connection with link := run.link.clearSignals }

section Commit

variable {connection : Connection} {run : PhaseRun}

/-- A run that another phase follows takes effect. -/
theorem commit_of_next {next : Phase}
    (h : progressOf (server.after connection.name run) run.ending = .next next) :
    connection.commit run server =
      (.next next, connection.leftBy run, server.after connection.name run) := by
  unfold Server.after at h
  simp only [commit, h]
  rfl

/-- A run with which a connection is closed takes effect, and then the connection is finished. -/
theorem commit_of_closed {reason : CloseReason} (h : run.ending = .closed reason) :
    connection.commit run server =
      (.closed reason, (connection.leftBy run).finish (server.after connection.name run)) := by
  simp only [commit, h]
  rfl

/-- A run that does not end takes effect as far as it goes, and the connection is left without its
stream. -/
theorem commit_of_hanging (h : run.ending = .hanging) :
    connection.commit run server = (.abandoned,
      { connection.leftBy run with isAttached := false }, server.after connection.name run) := by
  simp only [commit, h]
  rfl

end Commit

section RunFrom

variable {horizon : Option Time} {fuel : Nat} {phase : Phase} {now : Time} {connection : Connection}

/-- The run of a phase of a connection. -/
def runOf (horizon : Option Time) (phase : Phase) (now : Time) (connection : Connection)
    (server : Server) : PhaseRun :=
  phase.run server.settings server.dispatcher horizon now connection.link

/-- A run that another phase follows takes effect, and then that phase is run. -/
theorem runFrom_of_next {next : Phase} {run : PhaseRun}
    (hrun : connection.runOf horizon phase now server = run)
    (h : progressOf (server.after connection.name run) run.ending = .next next) :
    connection.runFrom horizon (fuel + 1) phase now server =
      (connection.leftBy run).runFrom horizon fuel next run.time
        (server.after connection.name run) := by
  rw [runOf] at hrun
  rw [runFrom, hrun, commit_of_next h]

/-- A run with which the connection is closed is the last one. -/
theorem runFrom_of_closed {reason : CloseReason} {run : PhaseRun}
    (hrun : connection.runOf horizon phase now server = run) (h : run.ending = .closed reason) :
    connection.runFrom horizon (fuel + 1) phase now server =
      (⟨some reason, run.time⟩,
        (connection.leftBy run).finish (server.after connection.name run)) := by
  rw [runOf] at hrun
  rw [runFrom, hrun, commit_of_closed h]

/-- A run that does not end is the last one too, and there is no reason. -/
theorem runFrom_of_hanging {run : PhaseRun}
    (hrun : connection.runOf horizon phase now server = run) (h : run.ending = .hanging) :
    connection.runFrom horizon (fuel + 1) phase now server =
      (⟨none, run.time⟩, { connection.leftBy run with isAttached := false },
        server.after connection.name run) := by
  rw [runOf] at hrun
  rw [runFrom, hrun, commit_of_hanging h]

end RunFrom

/-- Serving a new connection runs its phases from the waiting for a request on. -/
theorem serve_openConnection (name : String) (source : Source) (sink : Sink) (horizon : Option Time)
    (now : Time) (server : Server) :
    (server.openConnection name source sink).1.serve horizon now
        (server.openConnection name source sink).2 =
      (server.openConnection name source sink).1.runFrom horizon
        (server.openConnection name source sink).1.phaseBound .idle now
        (server.openConnection name source sink).2 := rfl

end Connection

end FramedExchange
