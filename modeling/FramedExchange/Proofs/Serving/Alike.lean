import FramedExchange.Proofs.Serving.Shared
import FramedExchange.Proofs.Stream.Supply

/-!
# What a connection can tell about its server

The phases of a connection use the timeouts of its server, its handlers and whether it keeps
connections alive. They use neither the sizes of buffers nor what is in the pool, the metrics or the
log. Servers are alike if they differ in nothing else (`Server.Alike`).

On servers that are alike, phases that begin with links that agree come to the same end at the same
moment, with the same happenings, and leave links that agree (`Phase.run_agree`). When the runs take
effect the connections go on alike, and so do the servers (`Connection.commit_agree`).
-/

namespace FramedExchange

/-! ### Servers -/

/-- Settings that differ at most in the sizes of buffers and in how many connections there
may be. -/
structure ServerSettings.Alike (settings₁ settings₂ : ServerSettings) : Prop where
  readTimeout : settings₁.readTimeout = settings₂.readTimeout
  writeTimeout : settings₁.writeTimeout = settings₂.writeTimeout
  idleTimeout : settings₁.idleTimeout = settings₂.idleTimeout
  keepAlive : settings₁.keepAlive = settings₂.keepAlive

theorem ServerSettings.Alike.effectiveIdleTimeout {settings₁ settings₂ : ServerSettings}
    (h : settings₁.Alike settings₂) :
    settings₁.effectiveIdleTimeout = settings₂.effectiveIdleTimeout := by
  rw [ServerSettings.effectiveIdleTimeout, ServerSettings.effectiveIdleTimeout, h.idleTimeout,
    h.readTimeout]

/-- Servers that a connection cannot tell apart. Their idle buffers may be of any number and size,
but they are empty. -/
structure Server.Alike (server₁ server₂ : Server) : Prop where
  settings : server₁.settings.Alike server₂.settings
  dispatcher : server₁.dispatcher = server₂.dispatcher
  isShuttingDown : server₁.isShuttingDown = server₂.isShuttingDown
  isClean₁ : server₁.pool.IsClean
  isClean₂ : server₂.pool.IsClean

namespace Server.Alike

variable {server₁ server₂ : Server}

theorem keepsAlive (h : server₁.Alike server₂) : server₁.keepsAlive = server₂.keepsAlive := by
  rw [Server.keepsAlive, Server.keepsAlive, h.settings.keepAlive, h.isShuttingDown]

theorem progressOf (h : server₁.Alike server₂) (ending : PhaseEnd) :
    Connection.progressOf server₁ ending = Connection.progressOf server₂ ending := by
  cases ending with
  | replied => rw [Connection.progressOf, Connection.progressOf, h.keepsAlive]
  | next | closed | hanging => rfl

theorem beginShutdown (h : server₁.Alike server₂) :
    server₁.beginShutdown.Alike server₂.beginShutdown :=
  ⟨h.settings, h.dispatcher, rfl, h.isClean₁, h.isClean₂⟩

theorem note (h : server₁.Alike server₂) (name : String) (happening : Happening) :
    (server₁.note name happening).Alike (server₂.note name happening) := by
  cases happening with
  | shutdownBegun => exact h.beginShutdown
  | read | dispatched | panicked | wrote =>
    exact ⟨h.settings, h.dispatcher, h.isShuttingDown, h.isClean₁, h.isClean₂⟩

theorem foldl_note (h : server₁.Alike server₂) (name : String) (happenings : List Happening) :
    (happenings.foldl (Server.note name) server₁).Alike
      (happenings.foldl (Server.note name) server₂) := by
  induction happenings generalizing server₁ server₂ with
  | nil => exact h
  | cons happening happenings ih => exact ih (h.note name happening)

end Server.Alike

/-! ### Phases -/

/-- Links with the same outgoing half, whose readers agree. -/
structure Link.Agree (link₁ link₂ : Link) (now : Time) : Prop where
  reader : link₁.reader.Agree link₂.reader now
  sink : link₁.writer.sink = link₂.writer.sink

/-- Runs of phases that differ at most in the buffers. -/
structure PhaseRun.Agree (run₁ run₂ : PhaseRun) : Prop where
  ending : run₁.ending = run₂.ending
  time : run₁.time = run₂.time
  happenings : run₁.happenings = run₂.happenings
  link : run₁.link.Agree run₂.link run₁.time

namespace Phase

variable {settings₁ settings₂ : ServerSettings} {link₁ link₂ : Link} {now : Time}

theorem runIdle_agree (hsettings : settings₁.Alike settings₂) (h : link₁.Agree link₂ now)
    (horizon : Option Time) :
    (runIdle settings₁ horizon now link₁).Agree (runIdle settings₂ horizon now link₂) := by
  have htimeout := hsettings.effectiveIdleTimeout
  simp only [runIdle, Reader.peek, htimeout]
  -- what is shown may be more on one side, but only whether something is shown matters
  obtain ⟨hresult, hagree, -⟩ :=
    h.reader.fetch ⟨deadlineAfter now settings₂.effectiveIdleTimeout, horizon⟩ 1
  rcases hfetch₁ : link₁.reader.fetch ⟨deadlineAfter now settings₂.effectiveIdleTimeout, horizon⟩ 1
    now with ⟨⟨outcome, time⟩, r₁⟩
  rcases hfetch₂ : link₂.reader.fetch ⟨deadlineAfter now settings₂.effectiveIdleTimeout, horizon⟩ 1
    now with ⟨result, r₂⟩
  rw [hfetch₁, hfetch₂] at hresult hagree
  obtain rfl : ⟨outcome, time⟩ = result := hresult
  rcases outcome with (error | _) | _ | _
  all_goals exact ⟨rfl, rfl, rfl, hagree, h.sink⟩

theorem runReading_agree (hsettings : settings₁.Alike settings₂) (h : link₁.Agree link₂ now)
    (horizon : Option Time) :
    (runReading settings₁ horizon now link₁).Agree (runReading settings₂ horizon now link₂) := by
  obtain ⟨hresult, hagree⟩ := h.reader.readFrame ⟨deadlineAfter now settings₂.readTimeout, horizon⟩
  simp only [runReading, hsettings.readTimeout, ← hresult]
  exact ⟨rfl, rfl, rfl, hagree, h.sink⟩

theorem runDispatching_agree (hsettings : settings₁.Alike settings₂) (h : link₁.Agree link₂ now)
    (dispatcher : Dispatcher) (request : Frame) :
    (runDispatching settings₁ dispatcher request now link₁).Agree
      (runDispatching settings₂ dispatcher request now link₂) := by
  simp only [runDispatching, hsettings.writeTimeout]
  split
  · exact ⟨rfl, rfl, rfl, h⟩
  · exact ⟨rfl, rfl, rfl, h⟩

theorem runReplying_agree (h : link₁.Agree link₂ now) (dispatcher : Dispatcher)
    (horizon : Option Time) (header : Header) (reply : Reply) (deadline : Option Time) :
    (runReplying dispatcher horizon header reply deadline now link₁).Agree
      (runReplying dispatcher horizon header reply deadline now link₂) := by
  obtain ⟨hresult, hsink⟩ := Writer.writeFrame_congr h.sink ⟨deadline, horizon⟩
    (header.reply reply.code 0) reply.body now
  simp only [runReplying, ← hresult]
  exact ⟨rfl, rfl, rfl, h.reader.mono (Writer.le_time_writeFrame ..), hsink⟩

theorem runClosing_agree (hsettings : settings₁.Alike settings₂) (h : link₁.Agree link₂ now)
    (horizon : Option Time) (reason : CloseReason) :
    (runClosing settings₁ horizon reason now link₁).Agree
      (runClosing settings₂ horizon reason now link₂) := by
  simp only [runClosing, Writer.shutdown, hsettings.writeTimeout, h.sink]
  exact ⟨rfl, rfl, rfl, h.reader.mono (Sink.le_time_callScript ..), rfl⟩

/-- **On servers that are alike, a phase runs alike.** -/
theorem run_agree (hsettings : settings₁.Alike settings₂) (h : link₁.Agree link₂ now)
    (dispatcher : Dispatcher) (horizon : Option Time) (phase : Phase) :
    (phase.run settings₁ dispatcher horizon now link₁).Agree
      (phase.run settings₂ dispatcher horizon now link₂) := by
  cases phase with
  | idle => exact runIdle_agree hsettings h horizon
  | reading => exact runReading_agree hsettings h horizon
  | dispatching request => exact runDispatching_agree hsettings h dispatcher request
  | replying header reply deadline =>
    exact runReplying_agree h dispatcher horizon header reply deadline
  | closing reason => exact runClosing_agree hsettings h horizon reason

end Phase

/-! ### Connections -/

/-- Connections that differ at most in their buffers. -/
structure Connection.Agree (connection₁ connection₂ : Connection) (now : Time) : Prop where
  name : connection₁.name = connection₂.name
  link : connection₁.link.Agree connection₂.link now
  isAttached : connection₁.isAttached = connection₂.isAttached
  isClosed : connection₁.isClosed = connection₂.isClosed

variable {server₁ server₂ : Server} {now : Time}

/-- Servers that are alike open connections that agree. -/
theorem Server.Alike.openConnection (h : server₁.Alike server₂) (name : String) {source : Source}
    (hburst : 0 < source.burst) (sink : Sink) (now : Time) :
    (server₁.openConnection name source sink).1.Agree
        (server₂.openConnection name source sink).1 now ∧
      (server₁.openConnection name source sink).2.Alike
        (server₂.openConnection name source sink).2 := by
  obtain ⟨hempty₁, hclean₁⟩ := h.isClean₁.next
  obtain ⟨hempty₂, hclean₂⟩ := h.isClean₂.next
  exact ⟨⟨rfl, ⟨Reader.agree_of_empty hburst hempty₁ hempty₂ now, rfl⟩, rfl, rfl⟩,
    h.settings, h.dispatcher, h.isShuttingDown, hclean₁.next.2, hclean₂.next.2⟩

namespace Connection

variable {connection₁ connection₂ : Connection} {run₁ run₂ : PhaseRun}

theorem finish_agree (h : connection₁.Agree connection₂ now) (hservers : server₁.Alike server₂) :
    (connection₁.finish server₁).1.Agree (connection₂.finish server₂).1 now ∧
      (connection₁.finish server₁).2.Alike (connection₂.finish server₂).2 :=
  ⟨⟨h.name, h.link, rfl, rfl⟩, hservers.settings, hservers.dispatcher, hservers.isShuttingDown,
    Server.isClean_finish hservers.isClean₁ connection₁,
    Server.isClean_finish hservers.isClean₂ connection₂⟩

/-- What connections that agree go on with is the same, and they go on with it alike. -/
structure GoesOnAlike (went₁ went₂ : Progress × Connection × Server) (now : Time) : Prop where
  progress : went₁.1 = went₂.1
  connection : went₁.2.1.Agree went₂.2.1 now
  server : went₁.2.2.Alike went₂.2.2

/-- **Actions begin alike.** -/
theorem begin_agree (h : connection₁.Agree connection₂ now) (hservers : server₁.Alike server₂)
    (action : Action) :
    GoesOnAlike (connection₁.begin action server₁) (connection₂.begin action server₂) now := by
  unfold Connection.begin
  rw [h.isAttached]
  split
  · exact ⟨rfl, h, hservers⟩
  · cases action with
    | serve => exact ⟨rfl, h, hservers⟩
    | close => exact ⟨rfl, (finish_agree h hservers).1, (finish_agree h hservers).2⟩

/-- **Runs of phases take effect alike.** -/
theorem commit_agree (h : connection₁.Agree connection₂ now) (hservers : server₁.Alike server₂)
    (hrun : run₁.Agree run₂) :
    GoesOnAlike (connection₁.commit run₁ server₁) (connection₂.commit run₂ server₂) run₁.time := by
  have hafter : (server₁.after connection₁.name run₁).Alike
      (server₂.after connection₂.name run₂) := by
    have hsignals : run₁.link.signals = run₂.link.signals := hrun.link.reader.signals
    rw [Server.after, Server.after, h.name, hrun.happenings, hsignals]
    refine Server.Alike.foldl_note ?_ _ _
    split
    · exact hservers
    · exact hservers.beginShutdown
  have hleft : (connection₁.leftBy run₁).Agree (connection₂.leftBy run₂) run₁.time :=
    ⟨h.name, ⟨hrun.link.reader.clearSignals, hrun.link.sink⟩, h.isAttached, h.isClosed⟩
  have hprogress := hafter.progressOf run₁.ending
  rcases hnext : progressOf (server₁.after connection₁.name run₁) run₁.ending with
    next | reason | -
  all_goals rw [hnext, hrun.ending] at hprogress
  · rw [commit_of_next hnext, commit_of_next hprogress.symm]
    exact ⟨rfl, hleft, hafter⟩
  · have hclosed₂ := progressOf_eq_closed_iff.1 hprogress.symm
    rw [commit_of_closed (progressOf_eq_closed_iff.1 hnext), commit_of_closed hclosed₂]
    exact ⟨rfl, (finish_agree hleft hafter).1, (finish_agree hleft hafter).2⟩
  · have hhanging₂ := progressOf_eq_abandoned_iff.1 hprogress.symm
    rw [commit_of_hanging (progressOf_eq_abandoned_iff.1 hnext), commit_of_hanging hhanging₂]
    exact ⟨rfl, ⟨hleft.name, hleft.link, rfl, hleft.isClosed⟩, hafter⟩

end Connection

end FramedExchange
