import FramedExchange.Proofs.Serving.Reaching

/-!
# What serving means

Serving a stream that neither fails nor stalls is a function of the bytes that come in. The requests
are answered one after the other; what follows them, or a request without an answer, takes three
phases more, so the number of phases that serving is allowed is enough
(`le_phaseBound_openConnection`).

* `serve_of_isCut`: serving writes the answers to the requests in order and nothing else, and ends
  for the reason that the rest of the bytes gives;
* `taken_serve_of_requests`: a stream of whole requests gets the same answers if it falls silent
  behind them.
-/

namespace FramedExchange

section Closing

variable {dispatcher : Dispatcher} {ends : Bool} {sent unread rest : Bytes}

/-! ### The end of the stream -/

/-- **What follows the last request** leads to the closing of the connection in two phases. -/
theorem exists_reaches_ofRest (dispatcher : Dispatcher) (hnone : Frame.first? rest = none)
    (sent : Bytes) :
    ∃ phases left, phases ≤ 2 ∧ Reaches dispatcher true phases ⟨.idle, rest, sent⟩
      ⟨.closing (.ofRest rest), left, sent⟩ := by
  -- without another byte the peer is gone; with some the reading begins and fails
  by_cases hempty : rest = []
  · refine ⟨1, rest, by omega, .of_run fun settings now link hunbounded hlink ↦ ?_⟩
    have hfew : link.reader.unread.length < 1 := by
      rw [hlink.unread, hempty]
      exact Nat.zero_lt_one
    obtain ⟨time, reader, hfetch, hsource⟩ := Reader.fetch_eq_closed hlink.source hfew now
    have hkeep := link.reader.unread_fetch Limits.none 1 now
    rw [hfetch, hlink.unread] at hkeep
    refine ⟨.next (.closing .peerClosed), time, { link with reader }, [], ?_,
      ⟨hsource, hlink.sink, hkeep, hlink.sent⟩, nofun, .inl ?_⟩
    · rw [Phase.run, Phase.runIdle, limits_of_unbounded hunbounded.effectiveIdleTimeout,
        Reader.peek, hfetch]
      rfl
    · rw [CloseReason.ofRest, if_pos hempty]
  · have hfailed : Reaches dispatcher true 1 ⟨.reading, rest, sent⟩ ⟨.closing (.ofRest rest),
        rest.drop (if rest.length < Header.size then 0 else Header.size), sent⟩ := by
      refine .of_run fun settings now link hunbounded hlink ↦ ?_
      have hunread : link.reader.unread = rest := hlink.unread
      rw [← hunread] at hnone
      obtain ⟨time, reader, hread, hleft, hsource⟩ :=
        Reader.exists_readFrame_eq_error hlink.source hnone now
      rw [hunread] at hread hleft
      refine ⟨.next (.closing (.read (Frame.defect rest))), time, { link with reader },
        [.read (.ofMillis (time - now))], ?_, ⟨hsource, hlink.sink, hleft, hlink.sent⟩, by simp,
        .inl ?_⟩
      · rw [Phase.run, Phase.runReading, limits_of_unbounded hunbounded.readTimeout, hread]
        simp only [Frame.isBroken_defect, if_true]
      · rw [CloseReason.ofRest, if_neg hempty]
    exact ⟨2, _, le_rfl, (reaches_reading hempty).trans hfailed⟩

/-- **A whole stream leads to the closing of the connection**, with the answers to its requests
sent. -/
theorem exists_reaches_closing (hpure : dispatcher.IsPure) {bytes : Bytes} {requests : List Frame}
    (hcut : Frame.IsCut bytes requests rest) :
    ∃ phases left, phases ≤ 5 * requests.length + 2 ∧
      Reaches dispatcher true phases ⟨.idle, bytes, []⟩
        ⟨.closing (dispatcher.closing rest requests), left,
          (dispatcher.answers requests).flatMap Frame.encode⟩ := by
  have hnone : Frame.first? rest = none := Frame.first?_eq_none_iff.2 hcut.maximal
  obtain ⟨phases, later, hreach, hend⟩ := exists_reaches_answers true hpure hcut.valid rest []
  rw [← hcut.joined, List.nil_append] at hreach
  rcases hend with
    ⟨rfl, hphases, hclosing⟩ | ⟨request, more, rfl, hvalid, hanswer, hphases, hclosing⟩
  · obtain ⟨last, left, hlast, hreach'⟩ := exists_reaches_ofRest dispatcher hnone
      ((dispatcher.answers requests).flatMap Frame.encode)
    rw [hclosing]
    exact ⟨phases + last, left, by omega, hreach.trans hreach'⟩
  · rw [List.flatMap_cons, List.append_assoc] at hreach
    rw [hclosing]
    exact ⟨phases + 3, _, by omega, hreach.trans (reaches_handlerPanic hpure hvalid hanswer _)⟩

/-- Closing is the last phase, and sends nothing. -/
theorem closed_of_shows {reason : CloseReason} {connection : Connection} {server : Server}
    (h : View.Shows dispatcher ends ⟨.closing reason, unread, sent⟩ connection server) (fuel : ℕ)
    (now : Time) :
    (connection.runFrom none (fuel + 1) (.closing reason) now server).1.result? = some reason ∧
      (connection.runFrom none (fuel + 1) (.closing reason) now server).2.1.link.writer.sink.taken =
        sent := by
  obtain ⟨result, time, sink, hshutdown⟩ := h.link.sink.shutdown now
  obtain ⟨record, hrecord, hnone⟩ :=
    connection.link.writer.sink.exists_recorded_shutdown Limits.none now
  have hrun : connection.runOf none (.closing reason) now server =
      ⟨.closed reason, time,
        { connection.link with writer := { connection.link.writer with sink } }, []⟩ := by
    rw [Connection.runOf, Phase.run, Phase.runClosing,
      limits_of_unbounded h.steady.unbounded.writeTimeout, Writer.shutdown, hshutdown]
  have htaken : sink.taken = connection.link.writer.sink.taken := by
    rw [hshutdown] at hrecord
    rw [Sink.taken_eq_recorded, Sink.taken_eq_recorded, hrecord, Sink.recorded_append, hnone,
      List.append_nil]
  rw [Connection.runFrom_of_closed hrun rfl]
  exact ⟨rfl, htaken.trans h.link.sent⟩

theorem closed_of_reaches {phases fuel : ℕ} {view : View} {reason : CloseReason}
    (h : Reaches dispatcher ends phases view ⟨.closing reason, unread, sent⟩)
    {connection : Connection} {server : Server}
    (hshows : view.Shows dispatcher ends connection server) (hfuel : phases + 1 ≤ fuel)
    (now : Time) :
    (connection.runFrom none fuel view.phase now server).1.result? = some reason ∧
      (connection.runFrom none fuel view.phase now server).2.1.link.writer.sink.taken = sent := by
  obtain ⟨time, connection', server', hshows', hrun⟩ := h now connection server hshows
  obtain ⟨extra, rfl⟩ := Nat.exists_eq_add_of_le hfuel
  rw [show phases + 1 + extra = extra + 1 + phases by omega, hrun]
  exact closed_of_shows hshows' extra time

/-- On a silent stream that has nothing left the waiting for a request is the last phase, and never
ends. -/
theorem abandoned_of_shows {connection : Connection} {server : Server}
    (h : View.Shows dispatcher false ⟨.idle, [], sent⟩ connection server) (fuel : ℕ) (now : Time) :
    (connection.runFrom none (fuel + 1) .idle now server).1.result? = none ∧
      (connection.runFrom none (fuel + 1) .idle now server).2.1.link.writer.sink.taken = sent := by
  have hfew : connection.link.reader.unread.length < 1 := by
    rw [h.link.unread]
    exact Nat.zero_lt_one
  have hhanging := Reader.outcome_fetch_eq_hanging h.link.source hfew now
  rcases hfetch : connection.link.reader.fetch Limits.none 1 now with ⟨⟨outcome, time⟩, reader⟩
  rw [hfetch] at hhanging
  obtain rfl : outcome = .hanging := hhanging
  have hrun : connection.runOf none .idle now server =
      ⟨.hanging, time, { connection.link with reader }, []⟩ := by
    rw [Connection.runOf, Phase.run, Phase.runIdle,
      limits_of_unbounded h.steady.unbounded.effectiveIdleTimeout, Reader.peek, hfetch]
    rfl
  rw [Connection.runFrom_of_hanging hrun rfl]
  exact ⟨rfl, h.link.sent⟩

end Closing

/-! ### Serving -/

variable {server : Server} {source : Source} {sink : Sink}

/-- A new connection to a steady server has everything unread and nothing sent. -/
theorem Server.shows_openConnection {ends : Bool} (hserver : server.Reachable)
    (hsteady : server.IsSteady) (name : String) (hsource : source.IsLossless ends)
    (hsink : sink.IsWilling) (hfresh : sink.sent = []) :
    View.Shows server.dispatcher ends ⟨.idle, source.remaining, []⟩
      (server.openConnection name source sink).1 (server.openConnection name source sink).2 where
  steady := ⟨hsteady.unbounded, hsteady.keepAlive, hsteady.running, hsteady.pure⟩
  dispatcher := rfl
  link :=
    { source := hsource
      sink := hsink
      unread := unread_openConnection hserver name source sink
      sent := Sink.taken_of_sent_eq_nil hfresh }

/-- Every request has at least the bytes of a header, so there are five phases for each, and three
more. -/
theorem Server.le_phaseBound_openConnection (hserver : server.Reachable) (name : String)
    (sink : Sink) {requests : List Frame} {rest : Bytes}
    (hcut : Frame.IsCut source.remaining requests rest) :
    5 * requests.length + 3 ≤ (server.openConnection name source sink).1.phaseBound := by
  have hcount : requests.length ≤ source.remaining.length / Header.size := by
    have hmany := Frame.size_mul_length_split_le source.remaining
    rw [hcut.split_eq] at hmany
    rw [Nat.le_div_iff_mul_le (by decide), Nat.mul_comm]
    exact hmany
  rw [Connection.phaseBound, Server.unread_openConnection hserver name source sink]
  omega

/-- What is sent in answer to whole requests does not depend on whether the stream ends with
them. -/
theorem Connection.taken_serve_of_requests {ends : Bool} (hserver : server.Reachable)
    (hsteady : server.IsSteady) (name : String) (hsource : source.IsLossless ends)
    (hsink : sink.IsWilling) (hfresh : sink.sent = []) {requests : List Frame}
    (hvalid : ∀ request ∈ requests, request.IsValid)
    (hrequests : source.remaining = requests.flatMap Frame.encode) (now : Time) :
    let opened := server.openConnection name source sink
    (opened.1.serve none now opened.2).2.1.link.writer.sink.taken =
      (server.dispatcher.answers requests).flatMap Frame.encode := by
  intro opened
  have hshows := Server.shows_openConnection hserver hsteady name hsource hsink hfresh
  have hcut : Frame.IsCut source.remaining requests [] := hrequests ▸ Frame.isCut_flatMap hvalid
  have hfuel : 5 * requests.length + 3 ≤ opened.1.phaseBound :=
    Server.le_phaseBound_openConnection hserver name sink hcut
  cases ends with
  | true =>
    obtain ⟨phases, left, hle, hreach⟩ := exists_reaches_closing hsteady.pure hcut
    exact (closed_of_reaches hreach hshows (by omega) now).2
  | false =>
    obtain ⟨phases, later, hreach, hend⟩ := exists_reaches_answers false hsteady.pure hvalid [] []
    rw [← hcut.joined, List.nil_append] at hreach
    rcases hend with ⟨rfl, hphases, -⟩ | ⟨request, more, rfl, hrequest, hanswer, hphases, -⟩
    · -- the phases that are allowed besides are never run, because the waiting does not end
      obtain ⟨time, connection, server', hshows', hrun⟩ := hreach now _ _ hshows
      have hle : phases + 1 ≤ opened.1.phaseBound := by omega
      obtain ⟨extra, hextra⟩ := Nat.exists_eq_add_of_le hle
      have hbound : opened.1.phaseBound = extra + 1 + phases := by omega
      rw [Connection.serve_openConnection, hbound, hrun]
      exact (abandoned_of_shows hshows' extra time).2
    · rw [List.flatMap_cons, List.append_assoc] at hreach
      have hpanic := hreach.trans (reaches_handlerPanic hsteady.pure hrequest hanswer _)
      exact (closed_of_reaches hpanic hshows (by omega) now).2

/-- A request without an answer ends the serving, whether or not the stream ends behind it. -/
theorem Connection.result?_serve_of_unanswered {ends : Bool} (hserver : server.Reachable)
    (hsteady : server.IsSteady) (name : String) (hsource : source.IsLossless ends)
    (hsink : sink.IsWilling) (hfresh : sink.sent = []) {requests : List Frame}
    (hvalid : ∀ request ∈ requests, request.IsValid)
    (hrequests : source.remaining = requests.flatMap Frame.encode)
    (hnone : ∃ request ∈ requests, server.dispatcher.answer? request = none) (now : Time) :
    let opened := server.openConnection name source sink
    (opened.1.serve none now opened.2).1.result? = some .handlerPanic := by
  intro opened
  have hshows := Server.shows_openConnection hserver hsteady name hsource hsink hfresh
  have hcut : Frame.IsCut source.remaining requests [] := hrequests ▸ Frame.isCut_flatMap hvalid
  have hfuel : 5 * requests.length + 3 ≤ opened.1.phaseBound :=
    Server.le_phaseBound_openConnection hserver name sink hcut
  obtain ⟨phases, later, hreach, hend⟩ := exists_reaches_answers ends hsteady.pure hvalid [] []
  rw [← hcut.joined, List.nil_append] at hreach
  rcases hend with ⟨-, -, hclosing⟩ | ⟨request, more, rfl, hrequest, hanswer, hphases, -⟩
  · -- a stream whose requests are all answered would end otherwise
    rw [Dispatcher.closing_of_unanswered hnone] at hclosing
    cases hclosing
  · rw [List.flatMap_cons, List.append_assoc] at hreach
    have hpanic := hreach.trans (reaches_handlerPanic hsteady.pure hrequest hanswer _)
    exact (closed_of_reaches hpanic hshows (by omega) now).1

/-- **Serving a stream answers its requests**, one after the other and up to the first that has no
answer, and sends nothing else. It always comes to its end, for the reason that the requests and the
bytes behind them give. -/
theorem Connection.serve_of_isCut (hserver : server.Reachable) (hsteady : server.IsSteady)
    (name : String) (hsource : source.IsLossless true) (hsink : sink.IsWilling)
    (hfresh : sink.sent = []) {requests : List Frame} {rest : Bytes}
    (hcut : Frame.IsCut source.remaining requests rest) (now : Time) :
    let opened := server.openConnection name source sink
    let served := opened.1.serve none now opened.2
    served.1.result? = some (server.dispatcher.closing rest requests) ∧
      served.2.1.link.writer.sink.taken =
        (server.dispatcher.answers requests).flatMap Frame.encode := by
  intro opened served
  have hshows := Server.shows_openConnection hserver hsteady name hsource hsink hfresh
  have hfuel : 5 * requests.length + 3 ≤ opened.1.phaseBound :=
    Server.le_phaseBound_openConnection hserver name sink hcut
  obtain ⟨phases, left, hle, hreach⟩ := exists_reaches_closing hsteady.pure hcut
  exact closed_of_reaches hreach hshows (by omega) now

/-- Two requests in three pieces. The handler of the second one panics, which the code convention
has no answer for. -/
theorem Connection.serve_of_isCut_panicking :
    let server := Server.start .default (.byCode ⟨[(7, .echo), (8, .panicking .untyped)]⟩)
    let requests := [Frame.ofBody (.make 7 0) [1, 2], Frame.ofBody (.make 8 0) [3]]
    let input := requests.flatMap Frame.encode
    let source := Source.ofScript [⟨0, .data (input.take 5)⟩, ⟨3, .data ((input.drop 5).take 10)⟩,
      ⟨4, .data (input.drop 15)⟩, ⟨9, .eof⟩]
    let opened := server.openConnection "conn-1" source (.ofScripts [⟨2, .take 1⟩] [] [])
    let served := opened.1.serve none 0 opened.2
    served.1.result? = some .handlerPanic ∧
      served.2.1.link.writer.sink.taken = (Frame.ofBody (.make 0 0) [1, 2]).encode := by
  intro server requests input source opened served
  have hsteady : server.IsSteady := by
    refine ⟨⟨rfl, rfl, rfl⟩, rfl, rfl, fun entry hmem code body ↦ ?_⟩
    obtain rfl | hmem := List.mem_cons.1 hmem
    · rfl
    · obtain rfl := List.mem_singleton.1 hmem
      rfl
  have hvalid : ∀ request ∈ requests, request.IsValid := by
    intro request hmem
    obtain rfl | hmem := List.mem_cons.1 hmem
    · exact Frame.isValid_ofBody (Header.isOurs_make 7 0) (by decide)
    · obtain rfl := List.mem_singleton.1 hmem
      exact Frame.isValid_ofBody (Header.isOurs_make 8 0) (by decide)
  have hsource : source.IsLossless true :=
    ⟨.data 0 _ (.data 3 _ (.data 4 _ (.eof 9))), by decide, rfl⟩
  have hsink : (Sink.ofScripts [⟨2, .take 1⟩] [] []).IsWilling :=
    ⟨fun item hmem ↦ ⟨0, by rw [List.mem_singleton.1 hmem]⟩, nofun, nofun⟩
  have hcut : Frame.IsCut source.remaining requests [] :=
    ⟨by decide, hvalid, Frame.first?_eq_none_iff.1 (by decide)⟩
  exact Connection.serve_of_isCut (.start _ _) hsteady "conn-1" hsource hsink rfl hcut 0

end FramedExchange
