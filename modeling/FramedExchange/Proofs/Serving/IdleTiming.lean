import FramedExchange.Proofs.Serving.Station
import FramedExchange.Proofs.Stream.Arrival
import FramedExchange.Proofs.Stream.Resuming

/-!
# How long a connection waits for a request

Each wait has a window of its own, which opens when the wait begins. With bytes at hand there is no
wait. Otherwise the connection wakes when something arrives in the window, at that very moment, or
it is closed for idleness exactly at the end of the window (`PhaseRun.Waits`, `Station.IsTimed`).

Nothing but such a wait ends with a closing for idleness (`Phase.eq_idle_of_next`). So a peer that
is never silent for as long as a window is not closed for idleness, and whoever is has sent nothing
of a request since the window was opened.
-/

namespace FramedExchange

/-- Writing a frame makes no call to shut the stream down. -/
theorem Writer.shutdowns_writeFrame (limits : Limits) (header : Header) (body : Bytes) (now : Time)
    (w : Writer) :
    (w.writeFrame limits header body now).2.sink.shutdowns = w.sink.shutdowns := by
  rw [writeFrame]
  split
  · rfl
  · show (w.writeRaw limits _ body now).2.sink.shutdowns = w.sink.shutdowns
    rw [writeRaw]
    split <;> rename_i hwrite
    · exact (congrArg (·.2.shutdowns) hwrite).symm
    · exact (congrArg (·.2.shutdowns) hwrite).symm

/-! ### One wait -/

/-- What a connection that waits goes on with when something arrives. -/
inductive Arrival.Wakes : Arrival → Phase → Prop
  | data (bytes : Bytes) : Wakes (.data bytes) .reading
  | eof : Wakes .eof (.closing .peerClosed)
  | closed (error : IoError) (hkind : error.kind = .unexpectedEof) :
      Wakes (.failure error) (.closing .peerClosed)
  | failure (error : IoError) (hkind : error.kind ≠ .unexpectedEof) :
      Wakes (.failure error) (.closing (.read (.io error)))

/-- How a wait ends that begins at a moment with nothing at hand, with the first arrival that is to
come. -/
inductive PhaseRun.Waits (timeout now : Time) (arrival? : Option (Scheduled Arrival))
    (run : PhaseRun) : Prop
  /-- With the arrival, when it is there. -/
  | woken {arrival : Scheduled Arrival} {phase : Phase} (harrival : arrival? = some arrival)
      (hdue : timeout = 0 ∨ max now arrival.due ≤ now + timeout)
      (hwakes : arrival.event.Wakes phase) (hending : run.ending = .next phase)
      (htime : run.time = max now arrival.due)
  /-- At the end of the window, with no arrival by then. -/
  | timedOut (htimeout : 0 < timeout)
      (hsilent : ∀ arrival, arrival? = some arrival → now + timeout < arrival.due)
      (hending : run.ending = .next (.closing .idleTimeout)) (htime : run.time = now + timeout)
  /-- Never, with neither an arrival nor a window. -/
  | hanging (htimeout : timeout = 0) (hsilent : arrival? = none) (hending : run.ending = .hanging)

namespace Phase

variable {settings : ServerSettings} {now : Time} {link : Link}

/-- What a wait goes on with once the first fetch has come to its end. -/
def idleEnd : Outcome (Except IoError Unit) → PhaseEnd
  | .done (.ok ()) => .next .reading
  | .done (.error error) =>
    .next (.closing (if error.kind = .unexpectedEof then .peerClosed else .read (.io error)))
  | .elapsed => .next (.closing .idleTimeout)
  | .hanging => .hanging

theorem runIdle_of_fetch {horizon : Option Time} {result : Timed (Except IoError Unit)}
    {reader : Reader}
    (hfetch : link.reader.fetch ⟨deadlineAfter now settings.effectiveIdleTimeout, horizon⟩ 1 now =
      (result, reader)) :
    (runIdle settings horizon now link).ending = idleEnd result.outcome ∧
      (runIdle settings horizon now link).time = result.time := by
  obtain ⟨outcome, time⟩ := result
  simp only [runIdle, Reader.peek, hfetch]
  rcases outcome with (error | _) | _ | _ <;> exact ⟨rfl, rfl⟩

/-- With bytes at hand there is no wait. -/
theorem runIdle_of_buffered (settings : ServerSettings) (horizon : Option Time) (now : Time)
    (hbuffered : link.reader.buffered ≠ 0) :
    (runIdle settings horizon now link).ending = .next .reading ∧
      (runIdle settings horizon now link).time = now :=
  runIdle_of_fetch (Reader.fetch_of_le (Nat.pos_of_ne_zero hbuffered))

/-- **A wait ends with the first arrival or at the end of its window.** -/
theorem waits_runIdle (hburst : 0 < link.reader.source.burst) (hempty : link.reader.buffered = 0) :
    (runIdle settings none now link).Waits settings.effectiveIdleTimeout now
      (Source.firstArrival? link.reader.source.script) := by
  have hfew : ¬1 ≤ link.reader.buffered := by
    rw [hempty]
    exact Nat.not_succ_le_zero 0
  have hroom : 0 < min (link.reader.buffer.reserve Reader.chunk).spare link.reader.source.burst :=
    lt_min (Nat.lt_of_lt_of_le (by decide) (Buffer.le_spare_reserve _ _)) hburst
  have hnow : Limits.allows (deadlineAfter now settings.effectiveIdleTimeout) now :=
    allows_deadlineAfter_iff.2 (.inr (Nat.le_add_right _ _))
  have hreads := Source.reads_readScript hroom hnow link.reader.source.script
  rcases hread : link.reader.source.read ⟨deadlineAfter now settings.effectiveIdleTimeout, none⟩ now
    (link.reader.buffer.reserve Reader.chunk).spare with ⟨result, source⟩
  have hresult : (Source.readScript ⟨deadlineAfter now settings.effectiveIdleTimeout, none⟩
      (min (link.reader.buffer.reserve Reader.chunk).spare link.reader.source.burst) now
      link.reader.source.script).1 = result := congrArg Prod.fst hread
  rw [hresult] at hreads
  cases hreads with
  | @arrived arrival outcome harrival hdue hbrings =>
    obtain ⟨due, event⟩ := arrival
    rw [allows_deadlineAfter_iff] at hdue
    cases hbrings with
    | data bytes byte read =>
      -- one byte is all that the wait is for, so no second read follows
      have henough : 1 ≤ Reader.buffered
          ⟨(link.reader.buffer.reserve Reader.chunk).append (byte :: read), source⟩ := by
        rw [Reader.buffered, Buffer.length, Buffer.bytes_append, List.length_append]
        exact Nat.le_add_left _ _
      have hfetch := (Reader.fetch_of_read_data hfew hread).trans (Reader.fetch_of_le henough)
      obtain ⟨hending, htime⟩ := runIdle_of_fetch hfetch
      exact .woken harrival hdue (.data bytes) hending htime
    | eof =>
      obtain ⟨hending, htime⟩ := runIdle_of_fetch (Reader.fetch_of_read_nothing hfew hread rfl)
      exact .woken harrival hdue .eof hending htime
    | failure error =>
      obtain ⟨hending, htime⟩ := runIdle_of_fetch (Reader.fetch_of_read_nothing hfew hread rfl)
      by_cases hkind : error.kind = .unexpectedEof
      · refine .woken harrival hdue (.closed error hkind) ?_ htime
        rw [hending]
        exact congrArg (fun reason ↦ PhaseEnd.next (.closing reason)) (if_pos hkind)
      · refine .woken harrival hdue (.failure error hkind) ?_ htime
        rw [hending]
        exact congrArg (fun reason ↦ PhaseEnd.next (.closing reason)) (if_neg hkind)
  | @elapsed last hdeadline hsilent =>
    obtain ⟨htimeout, rfl⟩ := deadlineAfter_eq_some_iff.1 hdeadline
    obtain ⟨hending, htime⟩ := runIdle_of_fetch (Reader.fetch_of_read_nothing hfew hread rfl)
    exact .timedOut htimeout hsilent hending htime
  | hanging time hdeadline hsilent =>
    obtain ⟨hending, -⟩ := runIdle_of_fetch (Reader.fetch_of_read_nothing hfew hread rfl)
    exact .hanging (deadlineAfter_eq_none_iff.1 hdeadline) hsilent hending

/-- **A wait that ends with a closing for idleness** has begun with nothing at hand, and nothing has
arrived in its window. -/
theorem silent_of_idleTimeout (hburst : 0 < link.reader.source.burst)
    (hending : (runIdle settings none now link).ending = .next (.closing .idleTimeout)) :
    link.reader.buffered = 0 ∧ 0 < settings.effectiveIdleTimeout ∧
      (∀ arrival, Source.firstArrival? link.reader.source.script = some arrival →
        now + settings.effectiveIdleTimeout < arrival.due) ∧
      (runIdle settings none now link).time = now + settings.effectiveIdleTimeout := by
  rcases Nat.eq_zero_or_pos link.reader.buffered with hempty | hbuffered
  · refine ⟨hempty, ?_⟩
    cases waits_runIdle hburst hempty with
    | @woken arrival _ _ _ hwakes hwoken =>
      obtain ⟨due, event⟩ := arrival
      cases hwoken.symm.trans hending
      cases hwakes
    | timedOut hpos hsilent _ htime => exact ⟨hpos, hsilent, htime⟩
    | hanging _ _ hhanging => cases hhanging.symm.trans hending
  · obtain ⟨hreading, -⟩ := runIdle_of_buffered settings none now hbuffered.ne'
    cases hreading.symm.trans hending

/-- **Nothing but a wait ends with a closing for idleness.** -/
theorem eq_idle_of_next {dispatcher : Dispatcher} {horizon : Option Time} {server : Server}
    {phase : Phase}
    (h : Connection.progressOf server (phase.run settings dispatcher horizon now link).ending =
      .next (.closing .idleTimeout)) :
    phase = .idle ∧
      (phase.run settings dispatcher horizon now link).ending = .next (.closing .idleTimeout) := by
  have hending : (phase.run settings dispatcher horizon now link).ending =
      .next (.closing .idleTimeout) := by
    rcases hleads : (phase.run settings dispatcher horizon now link).ending with
      other | - | reason | -
    all_goals
      rw [hleads, Connection.progressOf] at h
    · rw [Progress.next.inj h]
    · split at h <;> cases h
    · cases h
    · cases h
  refine ⟨?_, hending⟩
  have hends := ends_run settings dispatcher horizon phase now link
  rw [hending] at hends
  cases hends
  rfl

/-- A phase that another one follows makes no call to shut the stream down. -/
theorem shutdowns_run {dispatcher : Dispatcher} {horizon : Option Time} {phase : Phase}
    (hphase : ∀ reason, phase ≠ .closing reason) :
    (phase.run settings dispatcher horizon now link).link.writer.sink.shutdowns =
      link.writer.sink.shutdowns := by
  cases phase with
  | idle | reading => rfl
  | dispatching request =>
    rw [run, (runDispatching_spec settings dispatcher request now link).1]
  | replying header reply deadline =>
    exact Writer.shutdowns_writeFrame ⟨deadline, horizon⟩ (header.reply reply.code 0) reply.body now
      link.writer
  | closing reason => exact absurd rfl (hphase reason)

end Phase

/-! ### Serving -/

namespace Station

/-- What the stream of a station brings next. -/
def arrival? (station : Station) : Option (Scheduled Arrival) :=
  Source.firstArrival? station.connection.link.reader.source.script

/-- How long a connection waits at a station, if it waits there, with windows of a certain
length. -/
structure IsTimed (timeout : Time) (station : Station) : Prop where
  /-- With bytes at hand it goes on to read a request at once. -/
  buffered : station.connection.link.reader.buffered ≠ 0 →
    (station.run none).ending = .next .reading ∧ (station.run none).time = station.since
  /-- If nothing arrives in the window, it is closed for idleness at the end of the window. -/
  silent : station.connection.link.reader.buffered = 0 → 0 < timeout →
    (∀ arrival, station.arrival? = some arrival → station.since + timeout < arrival.due) →
    (station.run none).ending = .next (.closing .idleTimeout) ∧
      (station.run none).time = station.since + timeout
  /-- If something arrives in the window, or at any time if there is no window, it wakes then. -/
  woken : station.connection.link.reader.buffered = 0 →
    ∀ arrival, station.arrival? = some arrival →
      (timeout = 0 ∨ arrival.due ≤ station.since + timeout) →
      (station.run none).time = max station.since arrival.due ∧
        ∃ phase, arrival.event.Wakes phase ∧ (station.run none).ending = .next phase
  /-- Without a window it is not closed for idleness. -/
  unlimited : timeout = 0 → (station.run none).ending ≠ .next (.closing .idleTimeout)

variable {first station : Station}

theorem isTimed_of_idle (hphase : station.phase = .idle)
    (hburst : 0 < station.connection.link.reader.source.burst) :
    station.IsTimed station.server.settings.effectiveIdleTimeout := by
  obtain ⟨phase, since, connection, server⟩ := station
  obtain rfl : phase = .idle := hphase
  refine ⟨Phase.runIdle_of_buffered server.settings none since, fun hempty htimeout hsilent ↦ ?_,
    fun hempty arrival harrival hdue ↦ ?_, fun htimeout hending ↦ ?_⟩
  · cases Phase.waits_runIdle hburst hempty with
    | @woken arrival _ harrival hdue =>
      have hlate := hsilent arrival harrival
      rcases hdue with hzero | hle
      · exact absurd hzero htimeout.ne'
      · exact absurd ((Nat.le_max_right _ _).trans hle) (Nat.not_le.2 hlate)
    | timedOut _ _ hending htime => exact ⟨hending, htime⟩
    | hanging hzero => exact absurd hzero htimeout.ne'
  · cases Phase.waits_runIdle hburst hempty with
    | @woken found phase hfound _ hwakes hending htime =>
      obtain rfl : arrival = found := Option.some.inj (harrival.symm.trans hfound)
      exact ⟨htime, phase, hwakes, hending⟩
    | timedOut hpos hsilent =>
      rcases hdue with hzero | hle
      · exact absurd hzero hpos.ne'
      · exact absurd hle (Nat.not_le.2 (hsilent arrival harrival))
    | hanging _ hnone => cases harrival.symm.trans hnone
  · obtain ⟨-, hpos, -⟩ := Phase.silent_of_idleTimeout hburst hending
    exact absurd htimeout hpos.ne'

/-- **A closing for idleness follows a wait in which nothing has arrived.** -/
theorem Passes.exists_silent (hpasses : first.Passes none station)
    (hfirst : first.phase = .idle)
    (hburst : ∀ station, first.Passes none station →
      0 < station.connection.link.reader.source.burst)
    (hclosing : station.phase = .closing .idleTimeout) :
    ∃ waiting, first.Passes none waiting ∧ waiting.phase = .idle ∧
      waiting.connection.link.reader.buffered = 0 ∧
      0 < waiting.server.settings.effectiveIdleTimeout ∧
      (∀ arrival, waiting.arrival? = some arrival →
        waiting.since + waiting.server.settings.effectiveIdleTimeout < arrival.due) ∧
      station.since = waiting.since + waiting.server.settings.effectiveIdleTimeout := by
  cases hpasses with
  | first =>
    rw [hfirst] at hclosing
    cases hclosing
  | @next waiting phase hwaiting hnext =>
    obtain rfl : phase = .closing .idleTimeout := hclosing
    obtain ⟨hidle, hending⟩ := Phase.eq_idle_of_next hnext
    have hpositive := hburst waiting hwaiting
    obtain ⟨phase, since, connection, server⟩ := waiting
    obtain rfl : phase = .idle := hidle
    obtain ⟨hempty, hpos, hsilent, htime⟩ := Phase.silent_of_idleTimeout hpositive hending
    exact ⟨_, hwaiting, rfl, hempty, hpos, hsilent, htime⟩

/-- To close takes as long as the shutting down of the stream does. -/
theorem time_run_of_closing (station : Station) (horizon : Option Time) {reason : CloseReason}
    (hclosing : station.phase = .closing reason) :
    station.since ≤ (station.run horizon).time ∧
      (station.connection.link.writer.sink.shutdowns = [] →
        (station.run horizon).time = station.since) := by
  obtain ⟨phase, since, connection, server⟩ := station
  obtain rfl : phase = .closing reason := hclosing
  refine ⟨Sink.le_time_callScript _ since connection.link.writer.sink.shutdowns, fun hnone ↦ ?_⟩
  show (Sink.callScript _ since connection.link.writer.sink.shutdowns).1.time = since
  rw [hnone]
  rfl

/-- On the way no call is made to shut the stream down. -/
theorem Passes.shutdowns {horizon : Option Time} (hpasses : first.Passes horizon station) :
    station.connection.link.writer.sink.shutdowns =
      first.connection.link.writer.sink.shutdowns := by
  induction hpasses with
  | first => rfl
  | next _ hnext ih => exact (Phase.shutdowns_run (Phase.ne_closing_of_progressOf hnext)).trans ih

end Station

/-- **Idle timing.** Whenever a new connection that is served begins to wait for a request, however
many it has had before, it waits as its window says (`Station.IsTimed`). If it is closed for
idleness, then at the end of a window that was opened with nothing at hand and in which nothing has
arrived. So a peer whose every silence is shorter than the window is not closed for idleness. -/
theorem Connection.isTimed_serve {server : Server} (hserver : server.Reachable) (name : String)
    {source : Source} (hburst : 0 < source.burst) (sink : Sink) (now : Time) :
    let opened := server.openConnection name source sink
    let timeout := server.settings.effectiveIdleTimeout
    let first : Station := ⟨.idle, now, opened.1, opened.2⟩
    let served := (opened.1.serve none now opened.2).1
    (∀ station, first.Passes none station → station.phase = .idle → station.IsTimed timeout) ∧
      (served.result? = some .idleTimeout → ∃ station, first.Passes none station ∧
        station.phase = .idle ∧ station.connection.link.reader.buffered = 0 ∧ 0 < timeout ∧
        (∀ arrival, station.arrival? = some arrival → station.since + timeout < arrival.due) ∧
        station.since + timeout ≤ served.time ∧
        (sink.shutdowns = [] → served.time = station.since + timeout)) ∧
      ((∀ station, first.Passes none station → station.phase = .idle →
          station.connection.link.reader.buffered = 0 →
          ∃ arrival, station.arrival? = some arrival ∧ arrival.due < station.since + timeout) →
        served.result? ≠ some .idleTimeout) := by
  intro opened timeout first served
  have halike : server.Alike server :=
    ⟨⟨rfl, rfl, rfl, rfl⟩, rfl, rfl, hserver.isClean, hserver.isClean⟩
  have hagree := (halike.openConnection name hburst sink now).1.link
  have hpositive (station : Station) (hpasses : first.Passes none station) :
      0 < station.connection.link.reader.source.burst := by
    obtain ⟨supply, hbehind, -⟩ := (hpasses.agree hagree).reader
    exact hbehind.burst_pos
  have htimeout (station : Station) (hpasses : first.Passes none station) :
      station.server.settings.effectiveIdleTimeout = timeout :=
    congrArg ServerSettings.effectiveIdleTimeout hpasses.settings
  have hidle : served.result? = some .idleTimeout → ∃ station, first.Passes none station ∧
      station.phase = .idle ∧ station.connection.link.reader.buffered = 0 ∧ 0 < timeout ∧
      (∀ arrival, station.arrival? = some arrival → station.since + timeout < arrival.due) ∧
      station.since + timeout ≤ served.time ∧
      (sink.shutdowns = [] → served.time = station.since + timeout) := by
    intro hresult
    have hstart : first.Passes none first := .first
    obtain ⟨last, hlast, hclosing, htime⟩ := hstart.exists_closing_of_runFrom hresult
    obtain ⟨waiting, hwaiting, hphase, hempty, hpos, hsilent, hsince⟩ :=
      hlast.exists_silent rfl hpositive hclosing
    rw [htimeout waiting hwaiting] at hpos hsilent hsince
    obtain ⟨hleaves, hatOnce⟩ := last.time_run_of_closing none hclosing
    refine ⟨waiting, hwaiting, hphase, hempty, hpos, hsilent, ?_, fun hnone ↦ ?_⟩
    · exact hsince.symm.trans_le (hleaves.trans_eq htime.symm)
    · exact htime.trans ((hatOnce (hlast.shutdowns.trans hnone)).trans hsince)
  refine ⟨fun station hpasses hphase ↦ ?_, hidle, fun hprompt hresult ↦ ?_⟩
  · have htimed := Station.isTimed_of_idle hphase (hpositive station hpasses)
    rwa [htimeout station hpasses] at htimed
  · -- the window in which nothing has arrived is one of those in which something does
    obtain ⟨station, hpasses, hphase, hempty, -, hsilent, -⟩ := hidle hresult
    obtain ⟨arrival, harrival, hsoon⟩ := hprompt station hpasses hphase hempty
    exact absurd hsoon (Nat.lt_asymm (hsilent arrival harrival))

/-- A peer that sends one request and then nothing, and a peer that closes the stream in time. -/
theorem Connection.isTimed_serve_silent :
    let server := Server.start { ServerSettings.default with idleTimeout := 5 }
      (.byCode ⟨[(7, .echo)]⟩)
    let request := (Frame.ofBody (.make 7 0) [1, 2]).encode
    let silent := server.openConnection "conn-1" (.ofScript [⟨4, .data request⟩]) .eager
    let gone := server.openConnection "conn-2" (.ofScript [⟨3, .eof⟩]) .eager
    let first : Station := ⟨.idle, 0, silent.1, silent.2⟩
    server.Reachable ∧ (silent.1.serve none 0 silent.2).1 = ⟨some .idleTimeout, 9⟩ ∧
      (first.run none).time = 4 ∧
      (∃ station, first.Passes none station ∧ station.phase = .idle ∧
        station.connection.link.reader.buffered = 0 ∧ station.since = 4) ∧
      (gone.1.serve none 0 gone.2).1 = ⟨some .peerClosed, 3⟩ ∧
      (gone.1.serve none 0 gone.2).1.result? ≠ some .idleTimeout := by
  intro server request silent gone first
  have hserver : server.Reachable := .start _ _
  have hsilent : (silent.1.serve none 0 silent.2).1 = ⟨some .idleTimeout, 9⟩ := by decide +kernel
  have hgone : (gone.1.serve none 0 gone.2).1 = ⟨some .peerClosed, 3⟩ := by decide +kernel
  have hburst : 0 < (Source.ofScript [⟨4, .data request⟩]).burst := by decide
  have hburst' : 0 < (Source.ofScript [⟨3, .eof⟩]).burst := by decide
  obtain ⟨htimed, hidle, -⟩ := Connection.isTimed_serve hserver "conn-1" hburst .eager 0
  obtain ⟨-, -, hprompt⟩ := Connection.isTimed_serve hserver "conn-2" hburst' .eager 0
  refine ⟨hserver, hsilent, ?_, ?_, hgone, hprompt ?_⟩
  · exact ((htimed first .first rfl).woken rfl _ rfl (.inr (by decide))).1
  · obtain ⟨station, hpasses, hphase, hempty, -, -, -, hatOnce⟩ :=
      hidle (congrArg Settled.result? hsilent)
    have hnine : (9 : ℕ) = station.since + 5 :=
      (congrArg Settled.time hsilent).symm.trans (hatOnce rfl)
    exact ⟨station, hpasses, hphase, hempty, (Nat.add_right_cancel (m := 5) hnine).symm⟩
  · -- the only phase that follows the first wait is the closing
    have hstations (station : Station)
        (hpasses : Station.Passes none ⟨.idle, 0, gone.1, gone.2⟩ station) :
        station = ⟨.idle, 0, gone.1, gone.2⟩ ∨ station.phase = .closing .peerClosed := by
      induction hpasses with
      | first => exact .inl rfl
      | next _ hnext ih =>
        rcases ih with rfl | hclosing
        · have hwoken : (Station.run none ⟨.idle, 0, gone.1, gone.2⟩).ending =
              .next (.closing .peerClosed) := by decide +kernel
          rw [hwoken] at hnext
          exact .inr (Progress.next.inj hnext).symm
        · exact absurd hclosing (Phase.ne_closing_of_progressOf hnext _)
    intro station hpasses hphase _
    rcases hstations station hpasses with rfl | hclosing
    · exact ⟨_, rfl, by decide⟩
    · cases hphase.symm.trans hclosing

end FramedExchange
