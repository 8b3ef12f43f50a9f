import FramedExchange.Proofs.Metrics.Latencies
import FramedExchange.Proofs.Serving.Measure

/-!
# How many latencies are recorded

A server records how long each read of a request and each write of a reply took, whatever came of
it. A reply that is too large is written twice in this sense: the first write fails at once, and the
status that takes its place is written next.

Every phase that comes to an end adds one sample if it reads or writes and none otherwise
(`Phase.length_reads_run`, `Phase.length_writes_run`). So the samples of reads are counted by the
requests that have been dispatched and the read that failed, if one did, and the samples of writes
by the replies that have been written, those that were too large and the write that failed
(`Course.IsTallied`). The metrics of the server have exactly these samples more when the connection
is closed (`Connection.isTallied_serve`).
-/

namespace FramedExchange

namespace Happening

/-- How long a read took. -/
def read? : Happening → Option Duration
  | .read elapsed => some elapsed
  | _ => none

/-- How long a write took. -/
def wrote? : Happening → Option Duration
  | .wrote elapsed => some elapsed
  | _ => none

end Happening

/-! ### What the metrics record -/

namespace Metrics

/-- Record samples of reads and of writes. -/
def recordAll (reads writes : List Duration) (m : Metrics) : Metrics :=
  { m with reads := m.reads.recordAll reads, writes := m.writes.recordAll writes }

theorem recordAll_append (reads writes moreReads moreWrites : List Duration) (m : Metrics) :
    m.recordAll (reads ++ moreReads) (writes ++ moreWrites) =
      (m.recordAll reads writes).recordAll moreReads moreWrites := by
  rw [recordAll, Histogram.recordAll_append, Histogram.recordAll_append]
  rfl

end Metrics

namespace PhaseRun

/-- The samples of reads in a run. -/
def reads (run : PhaseRun) : List Duration := run.happenings.filterMap Happening.read?

/-- The samples of writes in a run. -/
def writes (run : PhaseRun) : List Duration := run.happenings.filterMap Happening.wrote?

end PhaseRun

namespace Server

theorem metrics_note (connection : String) (happening : Happening) (server : Server) :
    (server.note connection happening).metrics =
      server.metrics.recordAll happening.read?.toList happening.wrote?.toList := by
  cases happening <;> rfl

theorem metrics_foldl_note (connection : String) (happenings : List Happening) (server : Server) :
    (happenings.foldl (note connection) server).metrics = server.metrics.recordAll
      (happenings.filterMap Happening.read?) (happenings.filterMap Happening.wrote?) := by
  induction happenings generalizing server with
  | nil => rfl
  | cons happening happenings ih =>
    rw [List.foldl_cons, ih, metrics_note, ← Metrics.recordAll_append]
    cases happening <;> rfl

/-- **A server that has taken note of a run has recorded its samples**, and its metrics are
otherwise as they were. -/
theorem metrics_after (connection : String) (run : PhaseRun) (server : Server) :
    (server.after connection run).metrics = server.metrics.recordAll run.reads run.writes := by
  rw [after, metrics_foldl_note]
  split <;> rfl

end Server

/-- Whether the reply that a request gets first is too large for a frame. -/
def Dispatcher.isOversized (dispatcher : Dispatcher) (request : Frame) : Bool :=
  match dispatcher.reply? request with
  | some reply => Frame.maxBody < reply.body.length
  | none => false

/-! ### What a phase records -/

namespace Phase

/-- How many reads of a request there are in a phase. -/
def readings : Phase → ℕ
  | reading => 1
  | _ => 0

/-- How many writes of a reply there are in a phase. -/
def writings : Phase → ℕ
  | replying .. => 1
  | _ => 0

/-- How many writes of a reply have failed when the connection is closed for a reason. -/
def failedWrites : Phase → ℕ
  | closing (.write _) => 1
  | _ => 0

variable {settings : ServerSettings} {dispatcher : Dispatcher} {horizon : Option Time}
variable {now : Time} {link : Link} {phase : Phase}

/-- **A phase that comes to an end has recorded each of its reads**, those that failed as well. -/
theorem length_reads_run
    (h : (phase.run settings dispatcher horizon now link).ending ≠ .hanging) :
    (phase.run settings dispatcher horizon now link).reads.length = phase.readings := by
  cases phase with
  | idle | closing => rfl
  | reading =>
    simp only [run, runReading, PhaseRun.reads] at h ⊢
    generalize (link.reader.readFrame
      ⟨deadlineAfter now settings.readTimeout, horizon⟩ now).1.result? =
      result? at h ⊢
    rcases result? with - | error | request
    · exact absurd rfl h
    · rfl
    · rfl
  | dispatching request =>
    simp only [run, runDispatching, PhaseRun.reads]
    cases (dispatcher.dispatch request).beginsShutdown <;> split <;> rfl
  | replying header reply deadline =>
    simp only [run, runReplying, PhaseRun.reads]
    split <;> rfl

/-- Likewise for its writes. -/
theorem length_writes_run
    (h : (phase.run settings dispatcher horizon now link).ending ≠ .hanging) :
    (phase.run settings dispatcher horizon now link).writes.length = phase.writings := by
  cases phase with
  | idle | closing => rfl
  | reading =>
    simp only [run, runReading, PhaseRun.writes]
    split <;> rfl
  | dispatching request =>
    simp only [run, runDispatching, PhaseRun.writes]
    cases (dispatcher.dispatch request).beginsShutdown <;> split <;> rfl
  | replying header reply deadline =>
    simp only [run, runReplying, PhaseRun.writes] at h ⊢
    generalize (link.writer.writeFrame ⟨deadline, horizon⟩ (header.reply reply.code 0) reply.body
      now).1.result? = result? at h ⊢
    rcases result? with - | error | done
    · exact absurd rfl h
    · rfl
    · rfl

theorem readings_eq_zero (h : phase ≠ .reading) : phase.readings = 0 := by
  cases phase with
  | reading => exact absurd rfl h
  | _ => rfl

theorem failedWrites_eq_zero (h : ∀ reason, phase ≠ .closing reason) : phase.failedWrites = 0 := by
  cases phase with
  | closing reason => exact absurd rfl (h reason)
  | _ => rfl

end Phase

/-! ### The count of a course -/

namespace Course

variable {settings : ServerSettings} {dispatcher : Dispatcher} {horizon : Option Time}
variable {now : Time} {link : Link} {runs : List PhaseRun} {course next : Course}

/-- The samples of reads in runs, in their order. -/
def reads (runs : List PhaseRun) : List Duration := runs.flatMap PhaseRun.reads

/-- The samples of writes in runs, in their order. -/
def writes (runs : List PhaseRun) : List Duration := runs.flatMap PhaseRun.writes

/-- No phase follows one that does not end. -/
theorem ne_hanging_of_next {server : Server} {phase : Phase}
    (hnext : Connection.progressOf server (course.run settings dispatcher horizon).ending =
      .next phase) :
    (course.run settings dispatcher horizon).ending ≠ .hanging := by
  intro hanging
  rw [hanging] at hnext
  cases hnext

theorem ne_hanging_of_failed (hphase : course.phase = .reading) {error : FrameError}
    (hread : (course.link.reader.readFrame ⟨deadlineAfter course.since settings.readTimeout,
        horizon⟩ course.since).1.result? = some (.error error)) :
    (course.run settings dispatcher horizon).ending ≠ .hanging := by
  rw [run, hphase, Phase.run, Phase.ending_runReading, hread]
  exact Phase.readEnd_ne_hanging rfl

theorem length_reads_append_run (h : (course.run settings dispatcher horizon).ending ≠ .hanging) :
    (reads (runs ++ [course.run settings dispatcher horizon])).length =
      (reads runs).length + course.phase.readings := by
  rw [reads, List.flatMap_append, List.flatMap_singleton, List.length_append, reads]
  exact congrArg _ (Phase.length_reads_run h)

theorem length_writes_append_run (h : (course.run settings dispatcher horizon).ending ≠ .hanging) :
    (writes (runs ++ [course.run settings dispatcher horizon])).length =
      (writes runs).length + course.phase.writings := by
  rw [writes, List.flatMap_append, List.flatMap_singleton, List.length_append, writes]
  exact congrArg _ (Phase.length_writes_run h)

/-- **A read that does not close the connection has got a request**, and there is no other
way to get one. -/
theorem Step.readings_eq (h : Step settings dispatcher course next)
    (hbuffered : course.phase = .reading → course.link.reader.buffered ≠ 0)
    (hopen : ∀ reason, next.phase ≠ .closing reason) :
    course.phase.readings = next.phase.inHand.length := by
  by_cases hreading : course.phase = .reading
  · rcases h.follows_reading hreading (hbuffered hreading) with ⟨request, hnext⟩ | ⟨error, hnext, -⟩
    · rw [hreading, hnext]
      rfl
    · exact absurd hnext (hopen _)
  · rw [Phase.readings_eq_zero hreading]
    rcases hnext : next.phase with - | - | request | - | reason
    case dispatching => exact absurd (h.first?_of_dispatching hnext).1 hreading
    all_goals rfl

/-- **As long as the connection has not come to the closing, every read has got a request**, which
has been dispatched or is in hand. -/
theorem Came.length_reads (h : Came settings dispatcher now link runs course)
    (hopen : ∀ reason, course.phase ≠ .closing reason) :
    (reads runs).length = (dispatched runs).length + course.phase.inHand.length := by
  induction h with
  | start => rfl
  | @goOn runs course horizon server phase hcame hsettings hnext ih =>
    have hstep : Step settings dispatcher course _ := .goOn hsettings hnext
    rw [length_reads_append_run (ne_hanging_of_next hnext),
      ih (Phase.ne_closing_of_progressOf hnext), dispatched_append_run, List.length_append,
      hstep.readings_eq (buffered_of_reading hcame.reachable) hopen]

/-- **Each phase keeps the count of its writes**: a write that has come to its end has written a
reply, was of one that is too large, or has failed. -/
theorem count_writings {following : Phase}
    (hleads : (course.run settings dispatcher horizon).ending.LeadsTo following) :
    (course.repliedAfter (course.run settings dispatcher horizon).ending).length +
        course.phase.inHand.countP dispatcher.isOversized + following.failedWrites +
        course.phase.replacements =
      course.replied.length + course.phase.writings + following.replacements := by
  obtain ⟨phase, since, link, replied⟩ := course
  have hends := Phase.ends_run settings dispatcher horizon phase since link
  rw [run] at hleads ⊢
  generalize (phase.run settings dispatcher horizon since link).ending = ending at hleads hends ⊢
  cases hends with
  | @handled request reply hreply =>
    cases hleads
    show replied.length + [request].countP dispatcher.isOversized + 0 + 0 = replied.length + 0 + _
    rw [List.countP_singleton, Dispatcher.isOversized, hreply, Phase.replacements]
    -- a reply that is too large is counted here and as one that is still to be replaced
    by_cases hlong : Frame.maxBody < reply.body.length <;> simp [hlong]
  | @notHandled request hreply =>
    cases hleads
    show replied.length + [request].countP dispatcher.isOversized + 0 + 0 = replied.length + 0 + 0
    rw [List.countP_singleton, Dispatcher.isOversized, hreply]
    rfl
  | replaced hlong =>
    cases hleads
    have hfits := Dispatcher.length_status_le dispatcher .responseTooLarge
    rw [Phase.replacements, Phase.replacements, if_pos hlong, if_neg (Nat.not_lt.2 hfits)]
    rfl
  | @replied header reply deadline hfits =>
    show (replied ++ [reply.frame header]).length + 0 + _ + (if _ then 1 else 0) = _
    rw [if_neg (Nat.not_lt.2 hfits), List.length_append]
    cases hleads <;> rfl
  | notReplied hfits error =>
    cases hleads
    rw [Phase.replacements, if_neg (Nat.not_lt.2 hfits)]
    rfl
  | closed | hanging => cases hleads
  | _ =>
    cases hleads
    rfl

/-- **The writes are counted** by the replies that have been written, those that were too large, and
the write that has failed. -/
theorem Came.length_writes (h : Came settings dispatcher now link runs course) :
    (writes runs).length + course.phase.replacements =
      course.replied.length + (dispatched runs).countP dispatcher.isOversized +
        course.phase.failedWrites := by
  induction h with
  | start => rfl
  | @goOn runs course horizon server phase hcame hsettings hnext ih =>
    have hopen := Phase.failedWrites_eq_zero (Phase.ne_closing_of_progressOf hnext)
    have hcount := count_writings (Connection.leadsTo_of_progressOf hnext)
    rw [length_writes_append_run (ne_hanging_of_next hnext), dispatched_append_run,
      List.countP_append]
    show _ + phase.replacements = (course.repliedAfter _).length + _ + phase.failedWrites
    omega

/-! ### The tally -/

variable (settings dispatcher now link)

/-- The connection is to be closed because the reading of a request has failed. -/
inductive FailedToRead : List PhaseRun → Course → Prop
  | intro {runs : List PhaseRun} {course : Course} {horizon : Option Time} {error : FrameError}
      (hcame : Came settings dispatcher now link runs course) (hphase : course.phase = .reading)
      (hread : (course.link.reader.readFrame ⟨deadlineAfter course.since settings.readTimeout,
          horizon⟩ course.since).1.result? = some (.error error)) :
      FailedToRead (runs ++ [course.run settings dispatcher horizon])
        (course.goOn (course.run settings dispatcher horizon) (.closing (.read error)))

/-- How the samples match the exchanges when a connection is to be closed for a reason. -/
structure IsTallied (runs : List PhaseRun) (reason : CloseReason) (course : Course) : Prop where
  /-- Every read has got a request that was dispatched, but for a read that failed. -/
  reads_of_failed : FailedToRead settings dispatcher now link runs course →
    (reads runs).length = (dispatched runs).length + 1
  reads : ¬FailedToRead settings dispatcher now link runs course →
    (Course.reads runs).length = (dispatched runs).length
  /-- Every write has written a reply or was of one that is too large, but for a write that
  failed. -/
  writes_of_failed : ∀ error, reason = .write error → (writes runs).length =
    course.replied.length + (dispatched runs).countP dispatcher.isOversized + 1
  writes : (∀ error, reason ≠ .write error) → (Course.writes runs).length =
    course.replied.length + (dispatched runs).countP dispatcher.isOversized
  /-- Every dispatched request has had a reply written, but for one whose reply failed or that has
  none. -/
  dispatched_of_failed : (reason = .handlerPanic ∨ ∃ error, reason = .write error) →
    (dispatched runs).length = course.replied.length + 1
  dispatched : (reason ≠ .handlerPanic ∧ ∀ error, reason ≠ .write error) →
    (Course.dispatched runs).length = course.replied.length

variable {settings dispatcher now link}

/-- A reading that leads to the closing has failed. -/
theorem Came.failedToRead (hcame : Came settings dispatcher now link runs course)
    (hphase : course.phase = .reading) {server : Server} {reason : CloseReason}
    (hsettings : server.settings = settings)
    (hnext : Connection.progressOf server (course.run settings dispatcher horizon).ending =
      .next (.closing reason)) :
    FailedToRead settings dispatcher now link (runs ++ [course.run settings dispatcher horizon])
      (course.goOn (course.run settings dispatcher horizon) (.closing reason)) := by
  have hstep : Step settings dispatcher course _ := .goOn hsettings hnext
  rcases hstep.follows_reading hphase (buffered_of_reading hcame.reachable hphase) with
    ⟨request, hclosing⟩ | ⟨error, hclosing, -⟩
  · cases hclosing
  · obtain rfl : reason = .read error := Phase.closing.inj hclosing
    refine .intro hcame hphase (Phase.eq_of_readEnd_eq_closing ?_)
    rw [← Phase.ending_runReading]
    have hleads := Connection.leadsTo_of_progressOf hnext
    rw [run, hphase, Phase.run] at hleads
    generalize (Phase.runReading settings horizon course.since course.link).ending =
      ending at hleads ⊢
    cases hleads
    rfl

/-- Only the reading of a request closes a connection with an error that is not of the
stream itself. -/
theorem Came.failedToRead_of_read (h : Came settings dispatcher now link runs course)
    {error : FrameError} (hphase : course.phase = .closing (.read error))
    (hother : ∀ failure, error ≠ .io failure) :
    FailedToRead settings dispatcher now link runs course := by
  cases h with
  | start => cases hphase
  | @goOn runs course horizon server phase hcame hsettings hnext =>
    obtain rfl : phase = .closing (.read error) := hphase
    refine hcame.failedToRead ?_ hsettings hnext
    have hends := Phase.ends_run settings dispatcher horizon course.phase course.since course.link
    have hleads := Connection.leadsTo_of_progressOf hnext
    rw [run] at hleads
    generalize (course.phase.run settings dispatcher horizon course.since course.link).ending =
      ending at hends hleads
    generalize course.phase = before at hends ⊢
    cases hends with
    | notRead => rfl
    | failed failure =>
      cases hleads
      exact absurd rfl (hother failure)
    | _ => cases hleads

/-- **When a connection is to be closed, the samples match the exchanges.** -/
theorem Came.isTallied (h : Came settings dispatcher now link runs course) {reason : CloseReason}
    (hphase : course.phase = .closing reason) :
    course.IsTallied settings dispatcher now link runs reason := by
  have hwrites := h.length_writes
  have hdispatched := h.length_dispatched
  rw [hphase] at hwrites hdispatched
  -- the writes and the dispatched requests are counted by what the closing phase says of the reason
  refine ⟨?_, fun hnot ↦ ?_, ?_, fun hother ↦ ?_, ?_, fun hother ↦ ?_⟩
  · rintro ⟨hcame, hreading, hread⟩
    have hopen (other : CloseReason) : Phase.reading ≠ .closing other := nofun
    rw [length_reads_append_run (ne_hanging_of_failed hreading hread), dispatched_append_run,
      hcame.length_reads (hreading ▸ hopen), hreading, List.length_append]
    rfl
  · cases h with
    | start => cases hphase
    | goOn hcame hsettings hnext =>
      obtain rfl := hphase
      -- the phase before the closing was not the reading of a request
      have hreading := fun hreading ↦ hnot (hcame.failedToRead hreading hsettings hnext)
      rw [length_reads_append_run (ne_hanging_of_next hnext), Phase.readings_eq_zero hreading,
        hcame.length_reads (Phase.ne_closing_of_progressOf hnext), dispatched_append_run,
        List.length_append]
      rfl
  · rintro error rfl
    exact hwrites
  · cases reason with
    | write error => exact absurd rfl (hother error)
    | _ => exact hwrites
  · rintro (rfl | ⟨error, rfl⟩)
    · exact hdispatched
    · exact hdispatched
  · cases reason with
    | write error => exact absurd rfl (hother.2 error)
    | handlerPanic => exact absurd rfl hother.1
    | _ => exact hdispatched

end Course

/-! ### Serving -/

namespace Connection

/-- **Serving that comes to its end has recorded the samples of its runs**, and counted the
connection as closed. -/
theorem exists_came_of_runFrom {settings : ServerSettings} {dispatcher : Dispatcher} {now : Time}
    {link : Link} {horizon : Option Time} {fuel : ℕ} {runs : List PhaseRun} {course : Course}
    (hcame : Course.Came settings dispatcher now link runs course) {connection : Connection}
    {server : Server} {reason : CloseReason} (hsettings : server.settings = settings)
    (hdispatcher : server.dispatcher = dispatcher) (hlink : connection.link = course.link)
    (hopen : connection.isClosed = false)
    (h : (connection.runFrom horizon fuel course.phase course.since server).1.result? =
      some reason) :
    ∃ more last, Course.Came settings dispatcher now link (runs ++ more) last ∧
      last.phase = .closing reason ∧
      (connection.runFrom horizon fuel course.phase course.since server).2.2.metrics =
        (server.metrics.recordAll (Course.reads more) (Course.writes more)).closed := by
  induction fuel generalizing runs course connection server with
  | zero => cases h
  | succ fuel ih =>
    have hrun : connection.runOf horizon course.phase course.since server =
        course.run settings dispatcher horizon := by
      rw [runOf, hlink, hsettings, hdispatcher, Course.run]
    rcases hprogress : progressOf (server.after connection.name
        (course.run settings dispatcher horizon)) (course.run settings dispatcher horizon).ending
        with next | other | -
    · have hsame : (server.after connection.name
          (course.run settings dispatcher horizon)).settings =
          settings := (Server.settings_after ..).trans hsettings
      have hbase : (server.after connection.name
          (course.run settings dispatcher horizon)).dispatcher =
          dispatcher := (Server.dispatcher_after ..).trans hdispatcher
      have hstill : (connection.leftBy (course.run settings dispatcher horizon)).isClosed = false :=
        hopen
      rw [runFrom_of_next hrun hprogress] at h ⊢
      obtain ⟨more, last, hlast, hphase, hmetrics⟩ :=
        ih (hcame.goOn hsame hprogress) hsame hbase rfl hstill h
      rw [List.append_assoc] at hlast
      refine ⟨_, last, hlast, hphase, hmetrics.trans ?_⟩
      rw [Server.metrics_after, ← Metrics.recordAll_append]
      rfl
    · have hend := progressOf_eq_closed_iff.1 hprogress
      have hphase : course.phase = .closing other := Phase.run_eq_closed hend
      rw [runFrom_of_closed hrun hend] at h ⊢
      cases h
      -- nothing is recorded while the stream is shut down
      have hreads : (course.run settings dispatcher horizon).reads = [] := by
        rw [Course.run, hphase]
        rfl
      have hwrites : (course.run settings dispatcher horizon).writes = [] := by
        rw [Course.run, hphase]
        rfl
      refine ⟨[], course, by rwa [List.append_nil], hphase, ?_⟩
      show (if connection.isClosed then _ else (server.after connection.name _).metrics.closed) = _
      rw [hopen, Server.metrics_after, hreads, hwrites]
      rfl
    · have hend := progressOf_eq_abandoned_iff.1 hprogress
      rw [runFrom_of_hanging hrun hend] at h
      cases h

/-- **The samples match the exchanges**, whatever the settings and the handlers are and whatever the
stream does. When a connection is to be closed there is a sample of a read for every request that
has been dispatched, and one more for a read that failed; there is a sample of a write for every
reply that has been written and for every one that was too large, and one more for a write that
failed; and every dispatched request but the last has had its reply written. These are the samples
that the server has recorded when the connection is closed. -/
theorem isTallied_serve (server : Server) (name : String) (source : Source) (sink : Sink)
    (now : Time) :
    let opened := server.openConnection name source sink
    (∀ runs course reason,
      Course.Came server.settings server.dispatcher now opened.1.link runs course →
      course.phase = .closing reason →
      course.IsTallied server.settings server.dispatcher now opened.1.link runs reason) ∧
    ∀ horizon reason, (opened.1.serve horizon now opened.2).1.result? = some reason →
      ∃ runs course, Course.Came server.settings server.dispatcher now opened.1.link runs course ∧
        course.phase = .closing reason ∧
        (opened.1.serve horizon now opened.2).2.2.metrics =
          (opened.2.metrics.recordAll (Course.reads runs) (Course.writes runs)).closed := by
  intro opened
  refine ⟨fun runs course reason hcame hphase ↦
    hcame.isTallied hphase, fun horizon reason hresult ↦ ?_⟩
  rw [Connection.serve_openConnection] at hresult ⊢
  have hsettings : opened.2.settings = server.settings := rfl
  have hdispatcher : opened.2.dispatcher = server.dispatcher := rfl
  have hopen : opened.1.isClosed = false := rfl
  exact exists_came_of_runFrom .start hsettings hdispatcher rfl hopen hresult

/-- A peer that has been answered twice and ends the stream inside its third request. -/
theorem isTallied_serve_cutShort :
    let server := Server.start .default (.byCode ⟨[(7, .echo)]⟩)
    let request := Frame.ofBody (.make 7 0) [1, 2]
    let source := Source.ofScript
      [⟨2, .data request.encode⟩, ⟨5, .data (request.encode ++ request.encode.take 4)⟩, ⟨9, .eof⟩]
    let opened := server.openConnection "conn-1" source .eager
    let served := opened.1.serve none 0 opened.2
    served.1.result? = some (.read .closed) ∧
    served.2.2.metrics.reads.count = 3 ∧ served.2.2.metrics.writes.count = 2 ∧
    ∃ runs course, Course.Came server.settings server.dispatcher 0 opened.1.link runs course ∧
      course.phase = .closing (.read .closed) ∧
      served.2.2.metrics =
        (opened.2.metrics.recordAll (Course.reads runs) (Course.writes runs)).closed ∧
      (Course.reads runs).length = (Course.dispatched runs).length + 1 ∧
      (Course.writes runs).length =
        course.replied.length + (Course.dispatched runs).countP server.dispatcher.isOversized ∧
      (Course.dispatched runs).length = course.replied.length := by
  intro server request source opened served
  obtain ⟨htallied, hserved⟩ := isTallied_serve server "conn-1" source .eager 0
  have hresult : served.1.result? = some (.read .closed) := by decide +kernel
  obtain ⟨runs, course, hcame, hphase, hmetrics⟩ := hserved none _ hresult
  obtain ⟨hreads, -, -, hwrites, -, hdispatched⟩ := htallied runs course _ hcame hphase
  exact ⟨hresult, by decide +kernel, by decide +kernel, runs, course, hcame, hphase, hmetrics,
    hreads (hcame.failedToRead_of_read hphase nofun), hwrites nofun, hdispatched ⟨nofun, nofun⟩⟩

end Connection

end FramedExchange
