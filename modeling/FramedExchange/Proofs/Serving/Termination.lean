import FramedExchange.Proofs.Serving.Measure
import FramedExchange.Proofs.Stream.Ending

/-!
# Serving comes to its end

On a stream on which nothing is awaited for ever no phase before the closing hangs
(`Course.IsLive`): each of them ends, and another one follows. Only so many can follow
(`Course.bound`), so serving comes to the closing, within five phases for each request that the
bytes of the stream can hold and two more (`Course.ComesToEnd`). No handler changes that, whatever
it answers and whether it panics.
-/

namespace FramedExchange

open Relation

namespace Phase

variable {settings : ServerSettings} {dispatcher : Dispatcher} {horizon : Option Time}
variable {now : Time} {link : Link} {phase : Phase}

/-- **Before the closing no phase hangs** on a stream on which nothing is awaited for ever. -/
theorem run_ne_hanging (hends : Source.Ends link.reader.source.script)
    (hsink : link.writer.sink.IsResponsive) (hphase : ∀ reason, phase ≠ .closing reason) :
    (phase.run settings dispatcher none now link).ending ≠ .hanging := by
  cases phase with
  | idle =>
    let limits : Limits := ⟨deadlineAfter now settings.effectiveIdleTimeout, none⟩
    have hfetch := Reader.fetch_ne_hanging hends (show limits.horizon = none from rfl) 1 now
    simp only [run, runIdle, Reader.peek]
    -- only a fetch that hangs makes the waiting hang, and this source brings something or ends
    rcases hpeek : link.reader.fetch limits 1 now with ⟨⟨(error | done) | _ | _, time⟩, reader⟩
    · rintro ⟨⟩
    · rintro ⟨⟩
    · rintro ⟨⟩
    · rw [hpeek] at hfetch
      exact absurd rfl hfetch
  | reading =>
    rw [run, ending_runReading]
    exact readEnd_ne_hanging (Reader.isSome_readFrame hends rfl now)
  | dispatching request =>
    obtain ⟨-, ⟨reply, -, hend⟩ | ⟨-, hend⟩⟩ :=
      runDispatching_spec settings dispatcher request now link
    all_goals
      rw [run, hend]
      rintro ⟨⟩
  | replying header reply deadline =>
    rcases Nat.lt_or_ge Frame.maxBody reply.body.length with hlong | hfits
    · rw [run, (runReplying_of_lt dispatcher none header hlong deadline now link).2]
      rintro ⟨⟩
    · rw [run, ending_runReplying dispatcher none header hfits]
      exact writeEnd_ne_hanging ((Writer.isSome_writeFrame hsink _ _ _ now).1 rfl)
  | closing reason => exact absurd rfl (hphase reason)

/-- Closing comes to an end if shutting the stream down comes to something, or has a deadline. -/
theorem runClosing_eq_closed (h : (∀ item ∈ link.writer.sink.shutdowns, item.event ≠ .stall) ∨
      settings.writeTimeout ≠ 0) (reason : CloseReason) :
    (runClosing settings none reason now link).ending = .closed reason := by
  have hcomes : (Sink.callScript ⟨deadlineAfter now settings.writeTimeout, none⟩ now
      link.writer.sink.shutdowns).1.outcome ≠ .hanging := by
    rcases h with hshutdowns | htimeout
    · exact (Sink.callScript_ne_hanging _ now hshutdowns).1 rfl
    · rw [deadlineAfter, if_neg htimeout]
      exact Sink.callScript_ne_hanging_of_deadline _ _ _
  rcases hshutdown : Sink.callScript ⟨deadlineAfter now settings.writeTimeout, none⟩ now
    link.writer.sink.shutdowns with ⟨⟨_ | _ | _, time⟩, shutdowns⟩
  · simp only [runClosing, Writer.shutdown, Sink.shutdown, hshutdown]
  · simp only [runClosing, Writer.shutdown, Sink.shutdown, hshutdown]
  · rw [hshutdown] at hcomes
    exact absurd rfl hcomes

/-- What follows a phase is the closing, or again a stream on which nothing is awaited for ever. -/
theorem ends_run_of_leadsTo {next : Phase} (hends : Source.Ends link.reader.source.script)
    (hsink : link.writer.sink.IsResponsive)
    (hbegun : phase = .reading → link.reader.buffered ≠ 0)
    (h : (phase.run settings dispatcher horizon now link).ending.LeadsTo next) :
    ((∃ reason, next = .closing reason) ∨
        Source.Ends (phase.run settings dispatcher horizon now link).link.reader.source.script) ∧
      (phase.run settings dispatcher horizon now link).link.writer.sink.IsResponsive ∧
      (phase.run settings dispatcher horizon now link).link.writer.sink.shutdowns =
        link.writer.sink.shutdowns := by
  cases phase with
  | idle =>
    refine ⟨?_, hsink, rfl⟩
    simp only [run, runIdle, Reader.peek] at h ⊢
    rcases hpeek : link.reader.fetch ⟨deadlineAfter now settings.effectiveIdleTimeout, horizon⟩
      1 now with ⟨⟨(error | done) | _ | _, time⟩, reader⟩
    all_goals rw [hpeek] at h
    · cases h
      exact .inl ⟨_, rfl⟩
    · exact .inr (Reader.ends_of_fetch hends hpeek)
    · cases h
      exact .inl ⟨_, rfl⟩
    · cases h
  | reading =>
    refine ⟨?_, hsink, rfl⟩
    rw [run, ending_runReading] at h
    simp only [run, runReading]
    -- a frame that has begun and is not read breaks the stream, so the closing follows
    rcases hread : link.reader.readFrame ⟨deadlineAfter now settings.readTimeout, horizon⟩ now with
      ⟨⟨_ | error | request, time⟩, reader⟩
    all_goals rw [hread] at h
    · cases h
    · have hbroken := Reader.isBroken_of_readFrame (hbegun rfl) (congrArg (·.1.result?) hread)
      rw [readEnd, if_pos hbroken] at h
      cases h
      exact .inl ⟨_, rfl⟩
    · exact .inr (Reader.ends_of_readFrame hends hread)
  | dispatching request =>
    rw [run, (runDispatching_spec settings dispatcher request now link).1]
    exact ⟨.inr hends, hsink, rfl⟩
  | replying header reply deadline =>
    have hwrite := (Writer.isSome_writeFrame hsink ⟨deadline, horizon⟩ (header.reply reply.code 0)
      reply.body now).2
    exact ⟨.inr hends, hwrite⟩
  | closing reason =>
    obtain ⟨-, -, hend | hend⟩ := runClosing_spec settings horizon reason now link
    all_goals
      rw [run, hend] at h
      cases h

end Phase

namespace Course

variable {settings : ServerSettings} {dispatcher : Dispatcher} {now : Time} {link : Link}
variable {runs : List PhaseRun} {course next : Course}

/-! ### Nothing hangs before the closing -/

/-- A course on a stream on which nothing is awaited for ever, apart from being shut down as
`shutdowns` say. -/
structure IsLive (shutdowns : List (Scheduled Completion)) (course : Course) : Prop where
  ends : (∃ reason, course.phase = .closing reason) ∨ Source.Ends course.link.reader.source.script
  responsive : course.link.writer.sink.IsResponsive
  shutdowns : course.link.writer.sink.shutdowns = shutdowns

variable {shutdowns : List (Scheduled Completion)}

/-- **Each step leads from one live course to another.** -/
theorem IsLive.step (h : course.IsLive shutdowns) (hstep : Step settings dispatcher course next)
    (hbegun : course.phase = .reading → course.link.reader.buffered ≠ 0) :
    next.IsLive shutdowns := by
  rcases h.ends with ⟨reason, hphase⟩ | hends
  · obtain ⟨ending, hends, hleads⟩ := hstep.exists_ends
    rw [hphase] at hends
    cases hends <;> cases hleads
  · obtain ⟨horizon, hleads, hnext⟩ := hstep.exists_run
    obtain ⟨hsource, hsink, hshutdowns⟩ :=
      Phase.ends_run_of_leadsTo hends h.responsive hbegun hleads
    rw [hnext]
    exact ⟨hsource, hsink, hshutdowns.trans h.shutdowns⟩

theorem isLive_of_reachable (hreach : Reachable settings dispatcher now link course)
    (hstart : (start now link).IsLive shutdowns) : course.IsLive shutdowns := by
  induction hreach with
  | refl => exact hstart
  | tail hreach hstep ih => exact ih.step hstep (buffered_of_reading hreach)

/-- **A live course goes on**: unless it is closing, its phase ends and another one follows,
whatever has become of the server. -/
theorem IsLive.goesOn (h : course.IsLive shutdowns)
    (hphase : ∀ reason, course.phase ≠ .closing reason)
    (server : Server) : ∃ phase, Connection.progressOf server
      (course.run settings dispatcher none).ending = .next phase := by
  have hends : Source.Ends course.link.reader.source.script := by
    rcases h.ends with ⟨reason, hclosing⟩ | hends
    · exact absurd hclosing (hphase reason)
    · exact hends
  have hne : (course.run settings dispatcher none).ending ≠ .hanging :=
    Phase.run_ne_hanging hends h.responsive hphase
  rcases hend : (course.run settings dispatcher none).ending with phase | _ | reason | _
  · exact ⟨phase, rfl⟩
  · exact ⟨_, rfl⟩
  · exact absurd (Phase.run_eq_closed hend) (hphase reason)
  · exact absurd hend hne

/-- What it means that serving which begins on a link at a moment comes to its end. -/
structure ComesToEnd (settings : ServerSettings) (dispatcher : Dispatcher) (now : Time)
    (link : Link) : Prop where
  /-- There are at most so many phases before the one that serving has come to. -/
  bounded : ∀ runs course, Came settings dispatcher now link runs course →
    runs.length ≤ 5 * (link.reader.unread.length / Header.size) + 2
  /-- Every phase before the closing ends, and another one follows, whatever has become of
  the server. -/
  goesOn : ∀ course, Reachable settings dispatcher now link course →
    (∀ reason, course.phase ≠ .closing reason) → ∀ server,
    ∃ phase, Connection.progressOf server (course.run settings dispatcher none).ending = .next phase
  /-- When a phase of one kind comes round again, a request has been read, or the second of two
  replies takes the place of the first one. -/
  takes : ∀ course next, Reachable settings dispatcher now link course →
    TransGen (Step settings dispatcher) course next → course.phase.SameKind next.phase →
    next.link.reader.unread.length + Header.size ≤ course.link.reader.unread.length ∨
      ∃ header reply deadline, course.phase = .replying header reply deadline ∧
        Frame.maxBody < reply.body.length ∧
        next.phase = .replying header (dispatcher.status .responseTooLarge) deadline
  /-- From the running of a handler to the next, the writing of a reply begins twice at most. -/
  repliesTwice : ∀ before first after course,
    Came settings dispatcher now link (before ++ first :: after) course → first.dispatched ≠ [] →
    dispatched after = [] → (first :: after).countP PhaseRun.beginsReply ≤ 2
  /-- The status that replaces a reply is not too large itself. -/
  fits : ∀ (limits : Limits) (header : Header) code moment (writer : Writer) size,
    (writer.writeFrame limits (header.reply code 0) (dispatcher.status .responseTooLarge).body
      moment).1.result? ≠ some (.error (.tooLarge size))

/-- **Serving comes to its end** on a stream on which nothing is awaited for ever. -/
theorem comesToEnd_of_isLive (hstart : (start now link).IsLive shutdowns) :
    ComesToEnd settings dispatcher now link where
  bounded runs course hcame := by
    have hle := hcame.length_add_bound_le
    omega
  goesOn course hreach hphase server := (isLive_of_reachable hreach hstart).goesOn hphase server
  takes course next hreach hsteps hkind := taken_of_cycle hreach hsteps hkind
  repliesTwice before first after course hcame _ hlater := by
    have hle := hcame.countP_beginsReply_le rfl hlater
    omega
  fits limits header code moment writer size hresult := by
    have hfits := Dispatcher.length_status_le dispatcher .responseTooLarge
    cases Writer.isBroken_of_writeFrame hfits hresult

end Course

/-! ### Serving -/

/-- What the run of a closing means for who serves: its reason, unless the run hangs. -/
def PhaseRun.settled (run : PhaseRun) : Settled CloseReason where
  result? := match run.ending with
    | .closed reason => some reason
    | _ => none
  time := run.time

/-- **Phases that are run with enough fuel come to the closing.** -/
theorem Connection.exists_closing_of_runFrom {settings : ServerSettings} {dispatcher : Dispatcher}
    {now : Time} {link : Link} {shutdowns : List (Scheduled Completion)} {fuel : ℕ}
    (hstart : (Course.start now link).IsLive shutdowns) {runs : List PhaseRun} {course : Course}
    (hcame : Course.Came settings dispatcher now link runs course) {connection : Connection}
    {server : Server} (hsettings : server.settings = settings)
    (hdispatcher : server.dispatcher = dispatcher) (hlink : connection.link = course.link)
    (hfuel : course.bound < fuel) :
    ∃ runs last reason, Course.Came settings dispatcher now link runs last ∧
      last.phase = .closing reason ∧
      (connection.runFrom none fuel course.phase course.since server).1 =
        (last.run settings dispatcher none).settled := by
  induction fuel generalizing runs course connection server with
  | zero => cases hfuel
  | succ fuel ih =>
    have hrun : connection.runOf none course.phase course.since server =
        course.run settings dispatcher none := by
      rw [runOf, hlink, hsettings, hdispatcher, Course.run]
    -- the closing is where the run ends; from any other phase it goes on with less ahead
    by_cases hphase : ∃ reason, course.phase = .closing reason
    · obtain ⟨reason, hclosing⟩ := hphase
      refine ⟨runs, course, reason, hcame, hclosing, ?_⟩
      have hspec := (Phase.runClosing_spec settings none reason course.since course.link).2.2
      have hend : (course.run settings dispatcher none).ending = .closed reason ∨
          (course.run settings dispatcher none).ending = .hanging := by
        rwa [Course.run, hclosing]
      rcases hend with hend | hend
      · rw [runFrom_of_closed hrun hend, PhaseRun.settled, hend]
      · rw [runFrom_of_hanging hrun hend, PhaseRun.settled, hend]
    · have hlive := Course.isLive_of_reachable hcame.reachable hstart
      obtain ⟨phase, hnext⟩ : ∃ phase, progressOf
          (server.after connection.name (course.run settings dispatcher none))
          (course.run settings dispatcher none).ending = .next phase :=
        hlive.goesOn (not_exists.1 hphase) _
      have hsame : (server.after connection.name (course.run settings dispatcher none)).settings =
          settings := (Server.settings_after ..).trans hsettings
      have hlt := (Course.Step.goOn hsame hnext).bound_lt
        (Course.buffered_of_reading hcame.reachable)
      rw [runFrom_of_next hrun hnext]
      exact ih (hcame.goOn hsame hnext) hsame ((Server.dispatcher_after ..).trans hdispatcher) rfl
        (Nat.lt_of_lt_of_le hlt (Nat.le_of_lt_succ hfuel))

/-- **Serving a connection terminates and makes progress**, whatever the settings and the handlers
are: on a stream that brings so many bytes and then ends or fails, and of which every write and
every flush completes or fails some time, it comes to the closing within five phases for every ten
bytes and two more. Then only shutting the stream down can hang. -/
theorem Connection.comesToEnd_serve {server : Server} (hserver : server.Reachable) (name : String)
    {source : Source} (hends : Source.Ends source.script) {sink : Sink} (hsink : sink.IsResponsive)
    (now : Time) :
    let opened := server.openConnection name source sink
    let bound := 5 * (source.remaining.length / Header.size) + 2
    opened.1.link.reader.unread.length = source.remaining.length ∧
    Course.ComesToEnd server.settings server.dispatcher now opened.1.link ∧
    (∃ runs course reason,
      Course.Came server.settings server.dispatcher now opened.1.link runs course ∧
      course.phase = .closing reason ∧ runs.length ≤ bound ∧
      (opened.1.serve none now opened.2).1 =
        (course.run server.settings server.dispatcher none).settled) ∧
    ((∀ item ∈ sink.shutdowns, item.event ≠ .stall) ∨ server.settings.writeTimeout ≠ 0 →
      ∃ reason, (opened.1.serve none now opened.2).1.result? = some reason) := by
  intro opened bound
  have hinput : opened.1.link.reader.unread = source.remaining :=
    Server.unread_openConnection hserver ..
  have hstart : (Course.start now opened.1.link).IsLive sink.shutdowns := ⟨.inr hends, hsink, rfl⟩
  have hend : Course.ComesToEnd server.settings server.dispatcher now opened.1.link :=
    Course.comesToEnd_of_isLive hstart
  have hfuel : (Course.start now opened.1.link).bound < opened.1.phaseBound := Nat.lt_succ_self _
  have hsettings : opened.2.settings = server.settings := rfl
  have hdispatcher : opened.2.dispatcher = server.dispatcher := rfl
  obtain ⟨runs, course, reason, hcame, hphase, hserve⟩ :=
    Connection.exists_closing_of_runFrom hstart .start hsettings hdispatcher rfl hfuel
  refine ⟨congrArg List.length hinput, hend, ⟨runs, course, reason, hcame, hphase, ?_, hserve⟩,
    fun hshutdown ↦ ⟨reason, ?_⟩⟩
  · have hle := hend.bounded runs course hcame
    rwa [hinput] at hle
  · have hlive := Course.isLive_of_reachable hcame.reachable hstart
    have hclosed : (course.run server.settings server.dispatcher none).ending = .closed reason := by
      rw [Course.run, hphase]
      refine Phase.runClosing_eq_closed ?_ reason
      rwa [hlive.shutdowns]
    rw [Connection.serve_openConnection]
    exact (congrArg Settled.result? hserve).trans (by rw [PhaseRun.settled, hclosed])

/-- A handler whose answer fits into no frame, and a peer that ends the stream inside its second
request and takes the reply in pieces. -/
theorem Connection.comesToEnd_serve_oversized :
    let server := Server.start { ServerSettings.default with writeTimeout := 30 }
      (.byCode ⟨[(7, .const (List.replicate 70000 0))]⟩)
    let request := Frame.ofBody (.make 7 0) [1, 2]
    let source := Source.ofScript [⟨2, .data request.encode⟩, ⟨3, .signal⟩,
      ⟨5, .data (request.encode.take 4)⟩, ⟨9, .eof⟩]
    let sink := Sink.ofScripts [⟨4, .take 3⟩, ⟨6, .failure ⟨.interrupted, "interrupted"⟩⟩]
      [⟨8, .success⟩] [⟨12, .stall⟩]
    let opened := server.openConnection "conn-1" source sink
    server.Reachable ∧ Source.Ends source.script ∧ sink.IsResponsive ∧
      source.remaining.length = 16 ∧
      (∃ runs course reason,
        Course.Came server.settings server.dispatcher 0 opened.1.link runs course ∧
        course.phase = .closing reason ∧ runs.length ≤ 7) ∧
      ∃ reason, (opened.1.serve none 0 opened.2).1.result? = some reason := by
  intro server request source sink opened
  have hserver : server.Reachable := .start _ _
  have hends : Source.Ends source.script := .data 2 _ (.signal 3 (.data 5 _ (.eof 9)))
  have hsink : sink.IsResponsive := ⟨by decide, by decide⟩
  have hlength : source.remaining.length = 16 := by decide
  obtain ⟨-, -, ⟨runs, course, reason, hcame, hphase, hbound, -⟩, hresult⟩ :=
    Connection.comesToEnd_serve hserver "conn-1" hends hsink 0
  rw [hlength] at hbound
  exact ⟨hserver, hends, hsink, hlength, ⟨runs, course, reason, hcame, hphase, hbound⟩,
    hresult (.inr (by decide))⟩

end FramedExchange
