import FramedExchange.Proofs.Serving.Course
import FramedExchange.Proofs.Stream.Lossless

/-!
# From one request to the next

On a stream that neither fails nor stalls, with no timeouts, keep-alive on and handlers that only
answer, all that matters of a connection between two phases is the phase, the bytes that are unread
and the bytes that have been sent (`View`). The pieces in which they travel, the moments and the
metrics do not.

One view leads to another in a certain number of phases, whatever the state that it is a view of
(`Reaches`). A request and its answer take at most five phases (`exists_reaches_answer`), so those
of a stream that are answered take five times as many at most (`exists_reaches_answers`).
-/

namespace FramedExchange

/-- No phase has a deadline. -/
structure ServerSettings.IsUnbounded (settings : ServerSettings) : Prop where
  readTimeout : settings.readTimeout = 0
  writeTimeout : settings.writeTimeout = 0
  idleTimeout : settings.idleTimeout = 0

theorem ServerSettings.IsUnbounded.effectiveIdleTimeout {settings : ServerSettings}
    (h : settings.IsUnbounded) : settings.effectiveIdleTimeout = 0 := by
  rw [ServerSettings.effectiveIdleTimeout, if_pos h.idleTimeout, h.readTimeout]

/-- A server that keeps every connection going. -/
structure Server.IsSteady (server : Server) : Prop where
  unbounded : server.settings.IsUnbounded
  keepAlive : server.settings.keepAlive = true
  running : server.isShuttingDown = false
  pure : server.dispatcher.IsPure

/-- A link over a stream that neither fails nor stalls, with certain bytes unread and others
sent. -/
structure Link.Shows (ends : Bool) (unread sent : Bytes) (link : Link) : Prop where
  source : link.reader.source.IsLossless ends
  sink : link.writer.sink.IsWilling
  unread : link.reader.unread = unread
  sent : link.writer.sink.taken = sent

theorem Link.Shows.clearSignals {ends : Bool} {unread sent : Bytes} {link : Link}
    (h : link.Shows ends unread sent) : link.clearSignals.Shows ends unread sent :=
  ⟨⟨h.source.brings, h.source.burst_pos, rfl⟩, h.sink, h.unread, h.sent⟩

namespace Server

variable {server : Server}

theorem isShuttingDown_foldl_note (connection : String) {happenings : List Happening}
    (hquiet : .shutdownBegun ∉ happenings) (server : Server) :
    (happenings.foldl (note connection) server).isShuttingDown = server.isShuttingDown := by
  induction happenings generalizing server with
  | nil => rfl
  | cons happening rest ih =>
    have hrest : .shutdownBegun ∉ rest := fun hmem ↦ hquiet (List.mem_cons_of_mem _ hmem)
    rw [List.foldl_cons, ih hrest]
    cases happening with
    | shutdownBegun => exact absurd List.mem_cons_self hquiet
    | _ => rfl

/-- A run without signals and without a call to shut down leaves a steady server steady. -/
theorem IsSteady.after (h : server.IsSteady) (connection : String) {run : PhaseRun}
    (hsignals : run.link.signals = []) (hquiet : .shutdownBegun ∉ run.happenings) :
    (server.after connection run).IsSteady where
  unbounded := by
    rw [settings_after]
    exact h.unbounded
  keepAlive := by
    rw [settings_after]
    exact h.keepAlive
  running := by
    rw [Server.after, hsignals, isShuttingDown_foldl_note connection hquiet]
    exact h.running
  pure := by
    rw [dispatcher_after]
    exact h.pure

theorem IsSteady.keepsAlive (h : server.IsSteady) : server.keepsAlive = true := by
  rw [Server.keepsAlive, h.keepAlive, h.running]
  rfl

end Server

/-- All that matters of a connection between two phases. -/
structure View where
  phase : Phase
  unread : Bytes
  sent : Bytes

/-- The connection and its server are in a state that a view tells of. -/
structure View.Shows (dispatcher : Dispatcher) (ends : Bool) (view : View) (connection : Connection)
    (server : Server) : Prop where
  steady : server.IsSteady
  dispatcher : server.dispatcher = dispatcher
  link : connection.link.Shows ends view.unread view.sent

/-- So many phases lead from every state of one view to a state of another. -/
def Reaches (dispatcher : Dispatcher) (ends : Bool) (phases : ℕ) (before after : View) : Prop :=
  ∀ (now : Time) (connection : Connection) (server : Server),
    before.Shows dispatcher ends connection server →
    ∃ (time : Time) (connection' : Connection) (server' : Server),
      after.Shows dispatcher ends connection' server' ∧
      ∀ fuel, connection.runFrom none (fuel + phases) before.phase now server =
        connection'.runFrom none fuel after.phase time server'

namespace Reaches

variable {dispatcher : Dispatcher} {ends : Bool} {phases more : ℕ} {first second third : View}

theorem refl (view : View) : Reaches dispatcher ends 0 view view :=
  fun now connection server h ↦ ⟨now, connection, server, h, fun _ ↦ rfl⟩

theorem trans (h : Reaches dispatcher ends phases first second)
    (h' : Reaches dispatcher ends more second third) :
    Reaches dispatcher ends (phases + more) first third := by
  intro now connection server hshows
  obtain ⟨time₁, connection₁, server₁, hshows₁, hrun₁⟩ := h now connection server hshows
  obtain ⟨time₂, connection₂, server₂, hshows₂, hrun₂⟩ := h' time₁ connection₁ server₁ hshows₁
  refine ⟨time₂, connection₂, server₂, hshows₂, fun fuel ↦ ?_⟩
  rw [Nat.add_comm phases, ← Nat.add_assoc, hrun₁, hrun₂]

/-- **One phase.** It is enough to look at what it does to the link, how it ends, and that it does
not ask for a shutdown. -/
theorem of_run
    (h : ∀ (settings : ServerSettings) (now : Time) (link : Link), settings.IsUnbounded →
      link.Shows ends first.unread first.sent →
      ∃ ending time link' happenings,
        first.phase.run settings dispatcher none now link = ⟨ending, time, link', happenings⟩ ∧
        link'.Shows ends second.unread second.sent ∧ .shutdownBegun ∉ happenings ∧
        (ending = .next second.phase ∨ ending = .replied ∧ second.phase = .idle)) :
    Reaches dispatcher ends 1 first second := by
  intro now connection server ⟨hsteady, hdispatcher, hlink⟩
  obtain ⟨ending, time, link, happenings, hrun, hshows, hquiet, hending⟩ :=
    h server.settings now connection.link hsteady.unbounded hlink
  have hafter : (server.after connection.name ⟨ending, time, link, happenings⟩).IsSteady :=
    hsteady.after connection.name hshows.source.quiet hquiet
  have hprogress :
      Connection.progressOf (server.after connection.name ⟨ending, time, link, happenings⟩) ending =
        .next second.phase := by
    rcases hending with rfl | ⟨rfl, hidle⟩
    · rfl
    · rw [Connection.progressOf, hafter.keepsAlive, hidle]
      rfl
  rw [← hdispatcher] at hrun
  refine ⟨time, connection.leftBy ⟨ending, time, link, happenings⟩,
    server.after connection.name ⟨ending, time, link, happenings⟩,
    ⟨hafter, ?_, hshows.clearSignals⟩, fun fuel ↦ Connection.runFrom_of_next hrun hprogress⟩
  rw [Server.dispatcher_after, hdispatcher]

end Reaches

/-! ### The phases of an exchange -/

section Exchange

variable {dispatcher : Dispatcher} {ends : Bool} {sent unread rest : Bytes} {request : Frame}

theorem reaches_reading (hne : unread ≠ []) :
    Reaches dispatcher ends 1 ⟨.idle, unread, sent⟩ ⟨.reading, unread, sent⟩ := by
  refine .of_run fun settings now link hunbounded hlink ↦ ?_
  have hsome : 1 ≤ link.reader.unread.length := by
    rw [hlink.unread]
    exact List.length_pos_iff.2 hne
  obtain ⟨time, reader, hfetch, hsource⟩ := Reader.fetch_eq_ok hlink.source hsome now
  have hkeep := link.reader.unread_fetch Limits.none 1 now
  rw [hfetch, hlink.unread] at hkeep
  refine ⟨.next .reading, time, { link with reader }, [], ?_,
    ⟨hsource, hlink.sink, hkeep, hlink.sent⟩, nofun, .inl rfl⟩
  rw [Phase.run, Phase.runIdle, limits_of_unbounded hunbounded.effectiveIdleTimeout, Reader.peek,
    hfetch]
  rfl

theorem reaches_dispatching (hfirst : Frame.first? unread = some (request, rest)) :
    Reaches dispatcher ends 1 ⟨.reading, unread, sent⟩ ⟨.dispatching request, rest, sent⟩ := by
  refine .of_run fun settings now link hunbounded hlink ↦ ?_
  have hunread : link.reader.unread = unread := hlink.unread
  rw [← hunread] at hfirst
  obtain ⟨time, reader, hread, hleft, hsource⟩ :=
    Reader.exists_readFrame_eq_ok hlink.source hfirst now
  refine ⟨.next (.dispatching request), time, { link with reader },
    [.read (.ofMillis (time - now))], ?_, ⟨hsource, hlink.sink, hleft, hlink.sent⟩, by simp,
    .inl rfl⟩
  rw [Phase.run, Phase.runReading, limits_of_unbounded hunbounded.readTimeout, hread]

/-- The phase that follows the handler of a request. -/
def Dispatcher.phaseAfter (dispatcher : Dispatcher) (request : Frame) : Phase :=
  match dispatcher.reply? request with
  | some reply => .replying request.header reply none
  | none => .closing .handlerPanic

theorem reaches_phaseAfter (hpure : dispatcher.IsPure) (request : Frame) :
    Reaches dispatcher ends 1 ⟨.dispatching request, unread, sent⟩
      ⟨dispatcher.phaseAfter request, unread, sent⟩ := by
  refine .of_run fun settings now link hunbounded hlink ↦ ?_
  have hbegun := dispatcher.beginsShutdown_dispatch hpure request
  have hdeadline : deadlineAfter now settings.writeTimeout = none := if_pos hunbounded.writeTimeout
  simp only [Phase.run, Phase.runDispatching, hbegun, hdeadline, Dispatcher.phaseAfter,
    Dispatcher.reply?]
  rcases (dispatcher.dispatch request).result with panic | reply
  · rcases dispatcher.recover? with - | reply
    · exact ⟨_, now, link, _, rfl, hlink, by simp, .inl rfl⟩
    · exact ⟨_, now, link, _, rfl, hlink, by simp, .inl rfl⟩
  · exact ⟨_, now, link, _, rfl, hlink, by simp, .inl rfl⟩

theorem reaches_status {header : Header} {reply : Reply}
    (hlong : Frame.maxBody < reply.body.length) :
    Reaches dispatcher ends 1 ⟨.replying header reply none, unread, sent⟩
      ⟨.replying header (dispatcher.status .responseTooLarge) none, unread, sent⟩ := by
  refine .of_run fun settings now link hunbounded hlink ↦ ?_
  refine ⟨_, now, link, [.wrote (.ofMillis (now - now))], ?_, hlink, by simp, .inl rfl⟩
  rw [Phase.run, Phase.runReplying, Writer.writeFrame_of_lt hlong]

theorem reaches_idle {header : Header} {reply : Reply} (hfits : reply.body.length ≤ Frame.maxBody) :
    Reaches dispatcher ends 1 ⟨.replying header reply none, unread, sent⟩
      ⟨.idle, unread, sent ++ (reply.frame header).encode⟩ := by
  refine .of_run fun settings now link hunbounded hlink ↦ ?_
  obtain ⟨time, writer, hwrite, hsink, htaken⟩ := Writer.exists_writeFrame_eq_ok hlink.sink
    (header.reply reply.code 0) hfits now
  rw [hlink.sent] at htaken
  refine ⟨.replied, time, { link with writer }, [.wrote (.ofMillis (time - now))], ?_,
    ⟨hlink.source, hsink, hlink.unread, htaken⟩, by simp, .inr ⟨rfl, rfl⟩⟩
  show Phase.runReplying dispatcher none header reply none now link = _
  rw [Phase.runReplying, show (⟨none, none⟩ : Limits) = Limits.none from rfl, hwrite]

/-! ### Exchanges -/

/-- A reply is written in one phase, or in two if a status takes its place. -/
theorem exists_reaches_fitting (dispatcher : Dispatcher) (ends : Bool) (header : Header)
    (reply : Reply) (unread sent : Bytes) :
    ∃ phases ≤ 2, Reaches dispatcher ends phases ⟨.replying header reply none, unread, sent⟩
      ⟨.idle, unread, sent ++ ((dispatcher.fitting reply).frame header).encode⟩ := by
  rcases Nat.lt_or_ge Frame.maxBody reply.body.length with hlong | hfits
  · rw [Dispatcher.fitting_of_lt hlong]
    exact ⟨2, le_rfl, (reaches_status hlong).trans
      (reaches_idle (dispatcher.length_status_le .responseTooLarge))⟩
  · rw [Dispatcher.fitting_of_le hfits]
    exact ⟨1, by omega, reaches_idle hfits⟩

/-- A request reaches its handler in two phases, whatever follows it. -/
theorem reaches_request (hvalid : request.IsValid) (rest : Bytes) :
    Reaches dispatcher ends 2 ⟨.idle, request.encode ++ rest, sent⟩
      ⟨.dispatching request, rest, sent⟩ := by
  have hne : request.encode ++ rest ≠ [] := by
    simp [request.encode_ne_nil]
  exact (reaches_reading hne).trans (reaches_dispatching (Frame.first?_encode_append hvalid rest))

/-- **A request and its answer** take at most five phases. -/
theorem exists_reaches_answer (ends : Bool) (hpure : dispatcher.IsPure) {answer : Frame}
    (hvalid : request.IsValid) (hanswer : dispatcher.answer? request = some answer)
    (rest sent : Bytes) :
    ∃ phases ≤ 5, Reaches dispatcher ends phases ⟨.idle, request.encode ++ rest, sent⟩
      ⟨.idle, rest, sent ++ answer.encode⟩ := by
  obtain ⟨reply, hreply, rfl⟩ := Option.map_eq_some_iff.1 hanswer
  have hphase : dispatcher.phaseAfter request = .replying request.header reply none := by
    rw [Dispatcher.phaseAfter, hreply]
  obtain ⟨phases, hle, hwritten⟩ :=
    exists_reaches_fitting dispatcher ends request.header reply rest sent
  rw [← hphase] at hwritten
  exact ⟨2 + 1 + phases, by omega,
    ((reaches_request hvalid rest).trans (reaches_phaseAfter hpure request)).trans hwritten⟩

/-- A request without an answer is the last one. -/
theorem reaches_handlerPanic (hpure : dispatcher.IsPure) (hvalid : request.IsValid)
    (hnone : dispatcher.answer? request = none) (rest : Bytes) :
    Reaches dispatcher ends 3 ⟨.idle, request.encode ++ rest, sent⟩
      ⟨.closing .handlerPanic, rest, sent⟩ := by
  have hphase : dispatcher.phaseAfter request = .closing .handlerPanic := by
    rw [Dispatcher.phaseAfter, Option.map_eq_none_iff.1 hnone]
  rw [← hphase]
  exact (reaches_request hvalid rest).trans (reaches_phaseAfter hpure request)

/-- **Requests are answered one after the other**, in at most five phases each, up to the first that
has no answer. -/
theorem exists_reaches_answers (ends : Bool) (hpure : dispatcher.IsPure) {requests : List Frame}
    (hvalid : ∀ request ∈ requests, request.IsValid) (rest sent : Bytes) :
    ∃ phases later,
      Reaches dispatcher ends phases ⟨.idle, requests.flatMap Frame.encode ++ rest, sent⟩
        ⟨.idle, later.flatMap Frame.encode ++ rest,
          sent ++ (dispatcher.answers requests).flatMap Frame.encode⟩ ∧
      (later = [] ∧ phases ≤ 5 * requests.length ∧ dispatcher.closing rest requests = .ofRest rest ∨
        ∃ request more, later = request :: more ∧ request.IsValid ∧
          dispatcher.answer? request = none ∧ phases + 5 ≤ 5 * requests.length ∧
          dispatcher.closing rest requests = .handlerPanic) := by
  induction requests generalizing sent with
  | nil =>
    refine ⟨0, [], ?_, .inl ⟨rfl, le_rfl, rfl⟩⟩
    rw [Dispatcher.answers, List.flatMap_nil, List.append_nil]
    exact .refl _
  | cons request requests ih =>
    have hrequest := hvalid request List.mem_cons_self
    rcases hanswer : dispatcher.answer? request with - | answer
    · -- no phase is run: this request is the first of those that are left
      refine ⟨0, request :: requests, ?_, .inr ⟨request, requests, rfl, hrequest, hanswer, ?_, ?_⟩⟩
      · rw [Dispatcher.answers_cons_of_none hanswer, List.flatMap_nil, List.append_nil]
        exact .refl _
      · rw [List.length_cons]
        omega
      · exact Dispatcher.closing_cons_of_none hanswer
    · obtain ⟨first, hfirst, hreach⟩ := exists_reaches_answer ends hpure hrequest hanswer
        (requests.flatMap Frame.encode ++ rest) sent
      obtain ⟨more, later, hreach', hend⟩ :=
        ih (fun other hmem ↦ hvalid other (List.mem_cons_of_mem _ hmem)) (sent ++ answer.encode)
      refine ⟨first + more, later, ?_, ?_⟩
      · rw [Dispatcher.answers_cons_of_some hanswer, List.flatMap_cons, List.flatMap_cons,
          List.append_assoc, ← List.append_assoc sent]
        exact hreach.trans hreach'
      · rw [Dispatcher.closing_cons_of_some hanswer, List.length_cons]
        rcases hend with
          ⟨hlater, hmore, hclosing⟩ | ⟨last, after, hlater, hlast, hnone, hmore, hclosing⟩
        · exact .inl ⟨hlater, by omega, hclosing⟩
        · exact .inr ⟨last, after, hlater, hlast, hnone, by omega, hclosing⟩

end Exchange

end FramedExchange
