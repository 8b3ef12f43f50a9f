import FramedExchange.Proofs.Serving.Station
import FramedExchange.Proofs.Stream.ReadingTime
import FramedExchange.Proofs.Stream.WritingTime

/-!
# How long an exchange takes

A request that has begun to come in has one window for its header and its body together
(`Station.ReadsInTime`). It goes to its handler as soon as its last byte is there; an error shows
when it comes; and at the end of the window the connection is closed, if nothing is decided by then.

The window of a reply opens when the handler is run (`Station.RepliesInTime`). A reply that is too
large is replaced at once, and the status in its place is written in what is left of the same window
(`Station.Passes.exists_armed`). So no read and no write that is recorded takes longer than its
window, and without a window nothing is ever late.
-/

namespace FramedExchange

/-! ### One read and one write -/

namespace Phase

variable {settings : ServerSettings} {dispatcher : Dispatcher} {horizon : Option Time}
variable {now : Time} {link : Link}

/-- What reading leads to. -/
def readEnd : Option (Except FrameError Frame) → PhaseEnd
  | some (.ok request) => .next (.dispatching request)
  | some (.error error) => .next (if error.isBroken then .closing (.read error) else .idle)
  | none => .hanging

/-- What the writing of a reply that fits leads to. -/
def writeEnd : Option (Except FrameError Unit) → PhaseEnd
  | some (.ok ()) => .replied
  | some (.error error) => .next (.closing (.write error))
  | none => .hanging

theorem readEnd_ne_hanging {result? : Option (Except FrameError Frame)} (h : result?.isSome) :
    readEnd result? ≠ .hanging := by
  obtain ⟨error | request, rfl⟩ := Option.isSome_iff_exists.1 h <;> exact nofun

theorem writeEnd_ne_hanging {result? : Option (Except FrameError Unit)} (h : result?.isSome) :
    writeEnd result? ≠ .hanging := by
  obtain ⟨error | done, rfl⟩ := Option.isSome_iff_exists.1 h <;> exact nofun

/-- Reading closes a connection for nothing but the error that it has met. -/
theorem eq_of_readEnd_eq_closing {result? : Option (Except FrameError Frame)} {error : FrameError}
    (h : readEnd result? = .next (.closing (.read error))) : result? = some (.error error) := by
  rcases result? with - | other | request
  · cases h
  · rw [readEnd] at h
    split at h
    · cases h
      rfl
    · cases h
  · cases h

/-- Writing closes a connection for nothing but the error that it has met. -/
theorem eq_of_writeEnd_eq_closing {result? : Option (Except FrameError Unit)} {error : FrameError}
    (h : writeEnd result? = .next (.closing (.write error))) : result? = some (.error error) := by
  rcases result? with - | other | done <;> cases h
  rfl

theorem runReading_of_read {result : Settled (Except FrameError Frame)}
    (hread : (link.reader.readFrame ⟨deadlineAfter now settings.readTimeout, horizon⟩ now).1 =
      result) :
    (runReading settings horizon now link).ending = readEnd result.result? ∧
      (runReading settings horizon now link).time = result.time := by
  subst hread
  refine ⟨?_, rfl⟩
  simp only [runReading]
  rcases (link.reader.readFrame
      ⟨deadlineAfter now settings.readTimeout, horizon⟩ now).1.result? with
    - | error | request <;> rfl

theorem runReplying_of_write {header : Header} {reply : Reply} {deadline : Option Time}
    (hfits : reply.body.length ≤ Frame.maxBody) {result : Settled (Except FrameError Unit)}
    (hwrite : (link.writer.writeFrame ⟨deadline, horizon⟩ (header.reply reply.code 0)
      reply.body now).1 = result) :
    (runReplying dispatcher horizon header reply deadline now link).ending =
      writeEnd result.result? ∧
      (runReplying dispatcher horizon header reply deadline now link).time = result.time := by
  refine ⟨?_, congrArg Settled.time hwrite⟩
  obtain ⟨result?, time⟩ := result
  have hresult := congrArg Settled.result? hwrite
  simp only [runReplying, hresult]
  rcases result? with - | error | done
  · rfl
  · -- a body that fits is never found too large
    have hbroken := Writer.isBroken_of_writeFrame hfits hresult
    cases error with
    | tooLarge size => cases hbroken
    | _ => rfl
  · rfl

/-- How reading ends is a matter of what is read. -/
theorem ending_runReading (settings : ServerSettings) (horizon : Option Time) (now : Time)
    (link : Link) :
    (runReading settings horizon now link).ending = readEnd (link.reader.readFrame
      ⟨deadlineAfter now settings.readTimeout, horizon⟩ now).1.result? :=
  (runReading_of_read rfl).1

/-- How the writing of a reply that fits ends is a matter of what is written. -/
theorem ending_runReplying (dispatcher : Dispatcher) (horizon : Option Time) (header : Header)
    {reply : Reply} (hfits : reply.body.length ≤ Frame.maxBody) (deadline : Option Time)
    (now : Time) (link : Link) :
    (runReplying dispatcher horizon header reply deadline now link).ending =
      writeEnd (link.writer.writeFrame ⟨deadline, horizon⟩ (header.reply reply.code 0) reply.body
        now).1.result? :=
  (runReplying_of_write hfits rfl).1

/-- What the run of a phase that has taken so long may have happen. -/
inductive Records (elapsed : Duration) : Phase → Happening → Prop
  | read : Records elapsed .reading (.read elapsed)
  | dispatched (request : Frame) : Records elapsed (.dispatching request) (.dispatched request)
  | shutdownBegun (request : Frame) : Records elapsed (.dispatching request) .shutdownBegun
  | panicked (request : Frame) (panic : Panic) :
    Records elapsed (.dispatching request) (.panicked request.header.code panic)
  | wrote (header : Header) (reply : Reply) (deadline : Option Time) :
    Records elapsed (.replying header reply deadline) (.wrote elapsed)

/-- **Each phase records only what is its own**, and how long it has taken. -/
theorem records_of_mem {phase : Phase} {happening : Happening}
    (h : happening ∈ (phase.run settings dispatcher horizon now link).happenings) :
    phase.Records (.ofMillis ((phase.run settings dispatcher horizon now link).time - now))
      happening := by
  cases phase with
  | idle => cases h
  | reading =>
    change _ ∈ (runReading settings horizon now link).happenings at h
    simp only [runReading] at h
    split at h
    · rw [List.mem_singleton.1 h]
      exact .read
    · cases h
  | dispatching request =>
    have hbegun {begun : Bool} (hmem : happening ∈
      if begun then [Happening.shutdownBegun] else []) : happening = .shutdownBegun := by
      split at hmem
      · exact List.mem_singleton.1 hmem
      · cases hmem
    change _ ∈ (runDispatching settings dispatcher request now link).happenings at h
    -- a handler may have begun the shutting down, whether or not it has panicked
    rw [runDispatching] at h
    split at h
    · rcases List.mem_cons.1 h with rfl | hmem
      · exact .dispatched request
      · rw [hbegun hmem]
        exact .shutdownBegun request
    · rcases List.mem_cons.1 h with rfl | hmem
      · exact .dispatched request
      · rcases List.mem_append.1 hmem with hmem | hmem
        · rw [hbegun hmem]
          exact .shutdownBegun request
        · rw [List.mem_singleton.1 hmem]
          exact .panicked request _
  | replying header reply deadline =>
    change _ ∈ (runReplying dispatcher horizon header reply deadline now link).happenings at h
    simp only [runReplying] at h
    split at h
    · rw [List.mem_singleton.1 h]
      exact .wrote header reply deadline
    · cases h
  | closing reason => cases h

theorem Records.read_iff {elapsed measured : Duration} {phase : Phase} :
    phase.Records elapsed (.read measured) ↔ phase = .reading ∧ measured = elapsed := by
  constructor
  · rintro ⟨⟩
    exact ⟨rfl, rfl⟩
  · rintro ⟨rfl, rfl⟩
    exact .read

theorem Records.wrote_iff {elapsed measured : Duration} {phase : Phase} :
    phase.Records elapsed (.wrote measured) ↔
      (∃ header reply deadline, phase = .replying header reply deadline) ∧ measured = elapsed := by
  constructor
  · rintro ⟨⟩
    exact ⟨⟨_, _, _, rfl⟩, rfl⟩
  · rintro ⟨⟨header, reply, deadline, rfl⟩, rfl⟩
    exact .wrote header reply deadline

/-- **Reading begins with a byte at hand**: it follows nothing but a wait that has found one. -/
theorem buffered_of_leadsTo_reading {phase : Phase}
    (h : (phase.run settings dispatcher horizon now link).ending.LeadsTo .reading) :
    (phase.run settings dispatcher horizon now link).link.reader.buffered ≠ 0 := by
  have hidle : phase = .idle := by
    have hends := ends_run settings dispatcher horizon phase now link
    generalize (phase.run settings dispatcher horizon now link).ending = ending at h hends
    cases hends <;> cases h
    rfl
  subst hidle
  rcases hfetch : link.reader.fetch ⟨deadlineAfter now settings.effectiveIdleTimeout, horizon⟩ 1 now
    with ⟨⟨outcome, time⟩, reader⟩
  have hreader : (Phase.idle.run settings dispatcher horizon now link).link.reader = reader :=
    congrArg Prod.snd hfetch
  rw [hreader]
  simp only [run, runIdle, Reader.peek, hfetch] at h
  rcases outcome with (error | done) | - | -
  · cases h
  · exact Nat.ne_of_gt (Reader.le_buffered_of_fetch hfetch)
  · cases h
  · cases h

/-- **Replying follows the running of a handler**, which sets its deadline, or a reply that was too
large, which hands its own deadline on. Neither takes any time. -/
theorem armed_of_leadsTo_replying {phase : Phase} {header : Header} {reply : Reply}
    {deadline : Option Time}
    (h : (phase.run settings dispatcher horizon now link).ending.LeadsTo
      (.replying header reply deadline)) :
    (phase.run settings dispatcher horizon now link).time = now ∧
      ((∃ request, phase = .dispatching request ∧ header = request.header ∧
          dispatcher.reply? request = some reply ∧
          deadline = deadlineAfter now settings.writeTimeout) ∨
        ∃ large : Reply, phase = .replying header large deadline ∧
          Frame.maxBody < large.body.length ∧ reply = dispatcher.status .responseTooLarge) := by
  have hends := ends_run settings dispatcher horizon phase now link
  generalize (phase.run settings dispatcher horizon now link).ending = ending at h hends
  cases hends with
  | @handled request reply hreply =>
    cases h
    refine ⟨?_, .inl ⟨request, rfl, rfl, hreply, rfl⟩⟩
    rw [run, runDispatching]
    split <;> rfl
  | @replaced header large deadline hlong =>
    cases h
    refine ⟨?_, .inr ⟨large, rfl, hlong, rfl⟩⟩
    rw [run, runReplying, Writer.writeFrame_of_lt hlong]
  | _ => cases h

end Phase

/-! ### Stations -/

namespace Station

variable {first station : Station}

/-- How a station at which a request is read keeps to its window. -/
structure ReadsInTime (timeout : Time) (station : Station) : Prop where
  /-- The request goes to its handler when its last byte is there, or at once if that is so
  already. -/
  dispatched : ∀ due request,
    (∃ rest, Frame.first? (station.connection.link.reader.receivedBy due).bytes =
      some (request, rest)) →
    (∀ moment, moment < due →
      Frame.first? (station.connection.link.reader.receivedBy moment).bytes = none) →
    (timeout = 0 ∨ due ≤ station.since + timeout) →
    (station.run none).ending = .next (.dispatching request) ∧
      (station.run none).time = max station.since due
  /-- A bad header, an error or the end of the stream closes the connection when it shows. -/
  failed : ∀ due error, station.connection.link.reader.frameBy? due = some (.error error) →
    (∀ moment, moment < due → station.connection.link.reader.frameBy? moment = none) →
    (timeout = 0 ∨ due ≤ station.since + timeout) →
    (station.run none).ending = .next (.closing (.read error)) ∧
      (station.run none).time = max station.since due
  /-- If none of this has come by the end of the window, the connection is closed exactly then. -/
  late : 0 < timeout →
    (station.connection.link.reader.receivedBy (station.since + timeout)).stop? = none →
    Frame.first? (station.connection.link.reader.receivedBy (station.since + timeout)).bytes =
      none →
    Frame.defect (station.connection.link.reader.receivedBy (station.since + timeout)).bytes =
      .closed →
    (station.run none).ending = .next (.closing (.read .timeout)) ∧
      (station.run none).time = station.since + timeout
  inWindow : 0 < timeout →
    (station.run none).ending ≠ .hanging ∧ (station.run none).time ≤ station.since + timeout
  /-- Without a window nothing is late. -/
  unbounded : timeout = 0 → (station.run none).ending ≠ .next (.closing (.read .timeout))

/-- **A station at which a request is read keeps to its window**, if it begins with a byte
at hand. -/
theorem readsInTime_of_reading (hphase : station.phase = .reading)
    (hburst : 0 < station.connection.link.reader.source.burst)
    (hbuffered : station.connection.link.reader.buffered ≠ 0) :
    station.ReadsInTime station.server.settings.readTimeout := by
  have hread := Reader.isInTime_readFrame hburst hbuffered station.server.settings.readTimeout
    station.since
  have hrun {result : Settled (Except FrameError Frame)}
      (h : (station.connection.link.reader.readFrame
        ⟨deadlineAfter station.since station.server.settings.readTimeout, none⟩ station.since).1 =
          result) :
      (station.run none).ending = Phase.readEnd result.result? ∧
        (station.run none).time = result.time := by
    rw [run, hphase]
    exact Phase.runReading_of_read h
  have hlasting := station.connection.link.reader.isLasting_frameBy?
  refine ⟨fun due request hwhole hfirst hwithin ↦ ?_, fun due error hframe hfirst hwithin ↦ ?_,
    fun hpos hstop hwhole hdefect ↦ ?_, fun hpos ↦ ?_, fun hzero hend ↦ ?_⟩
  · have hframe : station.connection.link.reader.frameBy? due = some (.ok request) :=
      Received.frame?_eq_ok_iff.2 hwhole
    refine hrun (hread.decided due _ hframe (fun moment hlt ↦ ?_) hwithin)
    -- what was decided before would stay decided, so it would be this request
    rcases hearly : station.connection.link.reader.frameBy? moment with - | result
    · rfl
    · have hsame := hlasting hlt.le hearly
      rw [hframe] at hsame
      obtain rfl := Option.some.inj hsame
      obtain ⟨rest, hrest⟩ := Received.frame?_eq_ok_iff.1 hearly
      rw [hfirst moment hlt] at hrest
      cases hrest
  · have hbroken : error.isBroken = true := by
      rcases Received.frame?_eq_error hframe with ⟨failure, rfl⟩ | ⟨magic, version, rfl⟩
      · exact FrameError.isBroken_ofIo failure
      · rfl
    obtain ⟨hend, htime⟩ := hrun (hread.decided due _ hframe hfirst hwithin)
    refine ⟨hend.trans ?_, htime⟩
    rw [Phase.readEnd, if_pos hbroken]
  · have hnone : station.connection.link.reader.frameBy?
        (station.since + station.server.settings.readTimeout) = none :=
      Received.frame?_eq_none hstop hwhole hdefect
    exact hrun (hread.undecided hpos hnone)
  · obtain ⟨hsome, htime⟩ := hread.inWindow hpos
    obtain ⟨hend, hsame⟩ := hrun rfl
    exact ⟨hend ▸ Phase.readEnd_ne_hanging hsome, hsame.trans_le htime⟩
  · obtain ⟨hsame, -⟩ := hrun rfl
    obtain ⟨due, hdue⟩ :=
      hread.unbounded hzero _ (Phase.eq_of_readEnd_eq_closing (hsame.symm.trans hend))
    rcases Received.frame?_eq_error hdue with ⟨failure, hio⟩ | ⟨magic, version, hheader⟩
    · exact FrameError.ofIo_ne_timeout failure hio.symm
    · cases hheader

/-- How a station at which a reply is written keeps to its window. -/
structure RepliesInTime (timeout : Time) (header : Header) (reply : Reply) (deadline : Option Time)
    (station : Station) : Prop where
  /-- A status that fits takes the place of a reply that does not, at once and under the
  same deadline. -/
  replaced : Frame.maxBody < reply.body.length →
    (station.run none).ending = .next
        (.replying header (station.server.dispatcher.status .responseTooLarge) deadline) ∧
      (station.run none).time = station.since ∧
      (station.server.dispatcher.status .responseTooLarge).body.length ≤ Frame.maxBody
  /-- A reply that fits is written when all of it has been taken and flushed. -/
  replied : reply.body.length ≤ Frame.maxBody → ∀ due,
    station.connection.link.writer.frameBy? (reply.frame header) due = some (.ok ()) →
    (∀ moment, moment < due →
      station.connection.link.writer.frameBy? (reply.frame header) moment = none) →
    (timeout = 0 ∨ due ≤ station.since + timeout) →
    (station.run none).ending = .replied ∧ (station.run none).time = max station.since due
  /-- A failure closes the connection when it shows. -/
  failed : reply.body.length ≤ Frame.maxBody → ∀ due error,
    station.connection.link.writer.frameBy? (reply.frame header) due = some (.error error) →
    (∀ moment, moment < due →
      station.connection.link.writer.frameBy? (reply.frame header) moment = none) →
    (timeout = 0 ∨ due ≤ station.since + timeout) →
    (station.run none).ending = .next (.closing (.write error)) ∧
      (station.run none).time = max station.since due
  /-- If the reply has neither been flushed nor failed by the end of the window, the connection is
  closed exactly then. -/
  late : reply.body.length ≤ Frame.maxBody → 0 < timeout →
    station.connection.link.writer.frameBy? (reply.frame header) (station.since + timeout) = none →
    (station.run none).ending = .next (.closing (.write .timeout)) ∧
      (station.run none).time = station.since + timeout
  inWindow : 0 < timeout →
    (station.run none).ending ≠ .hanging ∧ (station.run none).time ≤ station.since + timeout
  /-- Without a window nothing is late. -/
  unbounded : timeout = 0 → (station.run none).ending ≠ .next (.closing (.write .timeout))

/-- **A station at which a reply is written keeps to its window**, if its deadline is the
end of it. -/
theorem repliesInTime_of_replying {timeout : Time} {header : Header} {reply : Reply}
    {deadline : Option Time} (hphase : station.phase = .replying header reply deadline)
    (hdeadline : deadline = deadlineAfter station.since timeout) :
    station.RepliesInTime timeout header reply deadline := by
  -- a reply that is too large is replaced before anything is written; any other one is written
  rcases Nat.lt_or_ge Frame.maxBody reply.body.length with hlong | hfits
  · have hrun : (station.run none).ending = .next
        (.replying header (station.server.dispatcher.status .responseTooLarge) deadline) ∧
        (station.run none).time = station.since := by
      rw [run, hphase, Phase.run, Phase.runReplying, Writer.writeFrame_of_lt hlong]
      exact ⟨rfl, rfl⟩
    have hnot {p : Prop} (hfits : reply.body.length ≤ Frame.maxBody) : p :=
      absurd hfits (Nat.not_le.2 hlong)
    refine ⟨fun _ ↦ ⟨hrun.1, hrun.2, Dispatcher.length_status_le ..⟩, hnot, hnot, hnot, fun _ ↦ ?_,
      fun _ ↦ ?_⟩
    · rw [hrun.1, hrun.2]
      refine ⟨?_, Nat.le_add_right ..⟩
      rintro ⟨⟩
    · rw [hrun.1]
      rintro ⟨⟩
  · subst hdeadline
    have hwrite := Writer.isInTime_writeFrame (header.reply reply.code 0) hfits timeout
      station.since station.connection.link.writer
    have hrun {result : Settled (Except FrameError Unit)}
        (h : (station.connection.link.writer.writeFrame ⟨deadlineAfter station.since timeout, none⟩
          (header.reply reply.code 0) reply.body station.since).1 = result) :
        (station.run none).ending = Phase.writeEnd result.result? ∧
          (station.run none).time = result.time := by
      rw [run, hphase]
      exact Phase.runReplying_of_write hfits h
    refine ⟨fun hlong ↦ absurd hfits (Nat.not_le.2 hlong), fun _ due hframe hfirst hwithin ↦ ?_,
      fun _ due error hframe hfirst hwithin ↦ ?_, fun _ hpos hnone ↦ ?_, fun hpos ↦ ?_,
      fun hzero hend ↦ ?_⟩
    · exact hrun (hwrite.decided due _ hframe hfirst hwithin)
    · exact hrun (hwrite.decided due _ hframe hfirst hwithin)
    · exact hrun (hwrite.undecided hpos hnone)
    · obtain ⟨hsome, htime⟩ := hwrite.inWindow hpos
      obtain ⟨hend, hsame⟩ := hrun rfl
      exact ⟨hend ▸ Phase.writeEnd_ne_hanging hsome, hsame.trans_le htime⟩
    · obtain ⟨hsame, -⟩ := hrun rfl
      obtain ⟨due, hdue⟩ :=
        hwrite.unbounded hzero _ (Phase.eq_of_writeEnd_eq_closing (hsame.symm.trans hend))
      obtain ⟨failure, hio⟩ := Writer.frameBy?_eq_error hdue
      exact FrameError.ofIo_ne_timeout failure hio.symm

/-! ### On the way -/

/-- A station at which a request is read begins with a byte at hand. -/
theorem Passes.buffered (h : first.Passes none station) (hfirst : first.phase = .idle)
    (hphase : station.phase = .reading) : station.connection.link.reader.buffered ≠ 0 := by
  cases h with
  | first => cases hfirst.symm.trans hphase
  | @next before phase hpasses hnext =>
    obtain rfl : phase = .reading := hphase
    exact Phase.buffered_of_leadsTo_reading (Connection.leadsTo_of_progressOf hnext)

/-- **The deadline of a reply was set when the handler was run**, and no time has passed
since then. -/
theorem Passes.exists_armed (h : first.Passes none station) (hfirst : first.phase = .idle)
    {header : Header} {reply : Reply} {deadline : Option Time}
    (hphase : station.phase = .replying header reply deadline) :
    ∃ armed request, first.Passes none armed ∧ armed.phase = .dispatching request ∧
      header = request.header ∧ station.since = armed.since ∧
      deadline = deadlineAfter armed.since first.server.settings.writeTimeout := by
  induction h generalizing header reply deadline with
  | first => cases hfirst.symm.trans hphase
  | @next before phase hpasses hnext ih =>
    obtain rfl : phase = .replying header reply deadline := hphase
    obtain ⟨htime, ⟨request, hbefore, hheader, -, hdeadline⟩ | ⟨large, hbefore, -, -⟩⟩ :=
      Phase.armed_of_leadsTo_replying (Connection.leadsTo_of_progressOf hnext)
    · refine ⟨before, request, hpasses, hbefore, hheader, htime, ?_⟩
      rw [hdeadline, hpasses.settings]
    · obtain ⟨armed, request, harmed, hrequest, hheader, hsince, hdeadline⟩ := ih hbefore
      exact ⟨armed, request, harmed, hrequest, hheader, htime.trans hsince, hdeadline⟩

end Station

/-- **In-flight timing.** Whenever a new connection that is served reads a request, however many it
has had before, it keeps to the window that opened when the first byte was there; and whenever it
writes a reply, or what takes the place of one, it keeps to the window that opened when the handler
was run. So no read and no write that is recorded takes longer than its window. -/
theorem Connection.isPrompt_serve {server : Server} (hserver : server.Reachable) (name : String)
    {source : Source} (hburst : 0 < source.burst) (sink : Sink) (now : Time) :
    let opened := server.openConnection name source sink
    let first : Station := ⟨.idle, now, opened.1, opened.2⟩
    let readTimeout := server.settings.readTimeout
    let writeTimeout := server.settings.writeTimeout
    (∀ station, first.Passes none station → station.phase = .reading →
        station.ReadsInTime readTimeout) ∧
      (∀ station, first.Passes none station → ∀ header reply deadline,
        station.phase = .replying header reply deadline →
        (∃ armed request, first.Passes none armed ∧ armed.phase = .dispatching request ∧
          header = request.header ∧ station.since = armed.since ∧
          deadline = deadlineAfter armed.since writeTimeout) ∧
        station.RepliesInTime writeTimeout header reply deadline) ∧
      (∀ station, first.Passes none station → ∀ elapsed,
        .read elapsed ∈ (station.run none).happenings → 0 < readTimeout →
        elapsed.nanoseconds ≤ (Duration.ofMillis readTimeout).nanoseconds) ∧
      ∀ station, first.Passes none station → ∀ elapsed,
        .wrote elapsed ∈ (station.run none).happenings → 0 < writeTimeout →
        elapsed.nanoseconds ≤ (Duration.ofMillis writeTimeout).nanoseconds := by
  intro opened first readTimeout writeTimeout
  have halike : server.Alike server :=
    ⟨⟨rfl, rfl, rfl, rfl⟩, rfl, rfl, hserver.isClean, hserver.isClean⟩
  have hagree := (halike.openConnection name hburst sink now).1.link
  have hreads (station : Station) (hpasses : first.Passes none station)
      (hphase : station.phase = .reading) : station.ReadsInTime readTimeout := by
    obtain ⟨supply, hbehind, -⟩ := (hpasses.agree hagree).reader
    have hinTime := Station.readsInTime_of_reading hphase hbehind.burst_pos
      (hpasses.buffered rfl hphase)
    rwa [hpasses.settings] at hinTime
  have hreplies (station : Station) (hpasses : first.Passes none station) (header : Header)
      (reply : Reply) (deadline : Option Time)
      (hphase : station.phase = .replying header reply deadline) :
      (∃ armed request, first.Passes none armed ∧ armed.phase = .dispatching request ∧
        header = request.header ∧ station.since = armed.since ∧
        deadline = deadlineAfter armed.since writeTimeout) ∧
      station.RepliesInTime writeTimeout header reply deadline := by
    have harmed := hpasses.exists_armed rfl hphase
    refine ⟨harmed, Station.repliesInTime_of_replying hphase ?_⟩
    obtain ⟨armed, -, -, -, -, hsince, hdeadline⟩ := harmed
    rw [hsince]
    exact hdeadline
  have hsample {time since timeout : Time} (hle : time ≤ since + timeout) :
      (Duration.ofMillis (time - since)).nanoseconds ≤ (Duration.ofMillis timeout).nanoseconds :=
    Nat.mul_le_mul_right _ (Nat.sub_le_iff_le_add'.2 hle)
  refine ⟨hreads, hreplies, fun station hpasses elapsed hmem hpos ↦ ?_,
    fun station hpasses elapsed hmem hpos ↦ ?_⟩
  · obtain ⟨hphase, rfl⟩ := Phase.Records.read_iff.1 (Phase.records_of_mem hmem)
    exact hsample ((hreads station hpasses hphase).inWindow hpos).2
  · obtain ⟨⟨header, reply, deadline, hphase⟩, rfl⟩ :=
      Phase.Records.wrote_iff.1 (Phase.records_of_mem hmem)
    exact hsample ((hreplies station hpasses header reply deadline hphase).2.inWindow hpos).2

/-- A peer that sends the rest of its request too late, and a peer that sends it in time and then
takes the reply too slowly. -/
theorem Connection.isPrompt_serve_slow :
    let server := Server.start { ServerSettings.default with readTimeout := 5, writeTimeout := 7 }
      (.byCode ⟨[(7, .echo)]⟩)
    let request := Frame.ofBody (.make 7 0) [1, 2]
    let start := request.encode.take 4
    let rest := request.encode.drop 4
    let late := server.openConnection "conn-1" (.ofScript [⟨2, .data start⟩, ⟨9, .data rest⟩])
      .eager
    let slow := server.openConnection "conn-2" (.ofScript [⟨2, .data start⟩, ⟨6, .data rest⟩])
      (.ofScripts [⟨8, .take 3⟩, ⟨20, .take 9⟩] [] [])
    let lateStart : Station := ⟨.idle, 0, late.1, late.2⟩
    let slowStart : Station := ⟨.idle, 0, slow.1, slow.2⟩
    server.Reachable ∧
      (∃ station, lateStart.Passes none station ∧ station.phase = .reading ∧ station.since = 2 ∧
        (station.run none).ending = .next (.closing (.read .timeout)) ∧
        (station.run none).time = 7) ∧
      (∃ station, slowStart.Passes none station ∧ station.phase = .reading ∧ station.since = 2 ∧
        (station.run none).ending = .next (.dispatching request) ∧ (station.run none).time = 6) ∧
      ∃ station, slowStart.Passes none station ∧
        (∃ deadline, station.phase = .replying request.header ⟨0, [1, 2]⟩ deadline) ∧
        station.since = 6 ∧ (station.run none).ending = .next (.closing (.write .timeout)) ∧
        (station.run none).time = 13 := by
  intro server request start rest late slow lateStart slowStart
  have hserver : server.Reachable := .start _ _
  have hburst : 0 < (Source.ofScript [⟨2, .data start⟩, ⟨9, .data rest⟩]).burst := by decide
  have hburst' : 0 < (Source.ofScript [⟨2, .data start⟩, ⟨6, .data rest⟩]).burst := by decide
  obtain ⟨hlate, -⟩ := Connection.isPrompt_serve hserver "conn-1" hburst .eager 0
  obtain ⟨hreads, hreplies, -⟩ := Connection.isPrompt_serve hserver "conn-2" hburst'
    (.ofScripts [⟨8, .take 3⟩, ⟨20, .take 9⟩] [] []) 0
  let waiting := lateStart.next none .reading
  let reading := slowStart.next none .reading
  let replying := (reading.next none (.dispatching request)).next none
    (.replying request.header ⟨0, [1, 2]⟩ (some 13))
  have hwaiting : lateStart.Passes none waiting := .next .first (by decide +kernel)
  have hreading : slowStart.Passes none reading := .next .first (by decide +kernel)
  have hreplying : slowStart.Passes none replying :=
    .next (.next hreading (by decide +kernel)) (by decide +kernel)
  have hsince : waiting.since = 2 := by decide +kernel
  have hsince' : reading.since = 2 := by decide +kernel
  have harmed : replying.since = 6 := by decide +kernel
  refine ⟨hserver, ⟨waiting, hwaiting, rfl, hsince, ?_⟩, ⟨reading, hreading, rfl, hsince', ?_⟩,
    replying, hreplying, ⟨_, rfl⟩, harmed, ?_⟩
  · obtain ⟨hend, htime⟩ := (hlate waiting hwaiting rfl).late (by decide) (by decide +kernel)
      (by decide +kernel) (by decide +kernel)
    exact ⟨hend, htime.trans (congrArg (· + 5) hsince)⟩
  · obtain ⟨hend, htime⟩ := (hreads reading hreading rfl).dispatched 6 request
      ⟨[], by decide +kernel⟩ (by decide +kernel) (.inr (by decide +kernel))
    exact ⟨hend, htime.trans (congrArg (max · 6) hsince')⟩
  · obtain ⟨hend, htime⟩ := (hreplies replying hreplying _ _ _ rfl).2.late (by decide) (by decide)
      (by decide +kernel)
    exact ⟨hend, htime.trans (congrArg (· + 7) harmed)⟩

end FramedExchange
