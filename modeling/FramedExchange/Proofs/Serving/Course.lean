import FramedExchange.Proofs.Serving.Answer
import FramedExchange.Proofs.Serving.Shared
import FramedExchange.Proofs.Stream.Reading
import FramedExchange.Proofs.Stream.Writing
import Mathlib.Logic.Relation

/-!
# The course of a connection

What each phase of a connection can do is said once, for any settings, any stream and any horizon:
which half of the link it leaves alone, what it reads or writes, and which phases can follow it.

A course is what is known between two phases of a connection that is served (`Course`), together
with the replies that have been written so far. From one course to the next the server decides
whether a reply is followed by another request. Other connections may have changed that server in
the meantime, so any server with the same settings may decide (`Course.Step`).

Serving passes through courses only (`exists_course_of_runFrom`).
-/

namespace FramedExchange

/-! ### What a phase can do -/

namespace Phase

variable {settings : ServerSettings} {dispatcher : Dispatcher} {horizon : Option Time}
variable {now : Time} {link : Link}

/-- Waiting takes nothing and writes nothing. A reading follows, or the end for a reason other than
a failed reply. -/
theorem runIdle_spec (settings : ServerSettings) (horizon : Option Time) (now : Time)
    (link : Link) :
    (runIdle settings horizon now link).link.writer = link.writer ∧
      (runIdle settings horizon now link).link.reader.unread = link.reader.unread ∧
      ((runIdle settings horizon now link).ending = .next .reading ∨
        (∃ reason, (runIdle settings horizon now link).ending = .next (.closing reason) ∧
          ∀ error, reason ≠ .write error) ∨
        (runIdle settings horizon now link).ending = .hanging) := by
  have hkeep := link.reader.unread_fetch
    ⟨deadlineAfter now settings.effectiveIdleTimeout, horizon⟩ 1 now
  refine ⟨rfl, hkeep, ?_⟩
  simp only [runIdle, Reader.peek]
  rcases link.reader.fetch ⟨deadlineAfter now settings.effectiveIdleTimeout, horizon⟩ 1 now with
    ⟨⟨outcome, time⟩, reader⟩
  rcases outcome with (error | _) | _ | _
  · refine .inr (.inl ⟨_, rfl, fun failure ↦ ?_⟩)
    split <;> exact nofun
  · exact .inl rfl
  · exact .inr (.inl ⟨_, rfl, nofun⟩)
  · exact .inr (.inr rfl)

/-- Reading writes nothing. The request that it ends with is the first frame of the unread bytes;
when it leads back to waiting it has taken nothing. -/
theorem runReading_spec (settings : ServerSettings) (horizon : Option Time) (now : Time)
    (link : Link) :
    (runReading settings horizon now link).link.writer = link.writer ∧
      ((∃ request, (runReading settings horizon now link).ending = .next (.dispatching request) ∧
          Frame.first? link.reader.unread =
            some (request, (runReading settings horizon now link).link.reader.unread)) ∨
        ((runReading settings horizon now link).ending = .next .idle ∧
          (runReading settings horizon now link).link.reader.unread = link.reader.unread) ∨
        (∃ error, (runReading settings horizon now link).ending = .next (.closing (.read error))) ∨
        (runReading settings horizon now link).ending = .hanging) := by
  refine ⟨rfl, ?_⟩
  simp only [runReading]
  rcases hread : link.reader.readFrame ⟨deadlineAfter now settings.readTimeout, horizon⟩ now with
    ⟨⟨result, time⟩, reader⟩
  rcases result with - | error | request
  · exact .inr (.inr (.inr rfl))
  · rcases Reader.readFrame_eq_error hread with hbroken | ⟨rfl, hkeep⟩
    · exact .inr (.inr (.inl ⟨error, by simp [hbroken]⟩))
    · exact .inr (.inl ⟨rfl, hkeep⟩)
  · exact .inl ⟨request, rfl, Reader.readFrame_eq_ok hread⟩

/-- Running a handler leaves the stream alone. The reply that is owed is written next; if none is
owed the connection ends. -/
theorem runDispatching_spec (settings : ServerSettings) (dispatcher : Dispatcher) (request : Frame)
    (now : Time) (link : Link) :
    (runDispatching settings dispatcher request now link).link = link ∧
      ((∃ reply, dispatcher.reply? request = some reply ∧
          (runDispatching settings dispatcher request now link).ending =
            .next (.replying request.header reply (deadlineAfter now settings.writeTimeout))) ∨
        (dispatcher.reply? request = none ∧
          (runDispatching settings dispatcher request now link).ending =
            .next (.closing .handlerPanic))) := by
  rw [runDispatching, Dispatcher.reply?]
  rcases (dispatcher.dispatch request).result with panic | reply
  · refine ⟨rfl, ?_⟩
    rcases hrecover : dispatcher.recover? with - | reply
    · exact .inr ⟨rfl, rfl⟩
    · exact .inl ⟨reply, rfl, rfl⟩
  · exact ⟨rfl, .inl ⟨reply, rfl, rfl⟩⟩

/-- A reply that does not fit leaves the stream alone, and the status that replaces it is written
next. -/
theorem runReplying_of_lt (dispatcher : Dispatcher) (horizon : Option Time) (header : Header)
    {reply : Reply} (hlong : Frame.maxBody < reply.body.length) (deadline : Option Time)
    (now : Time) (link : Link) :
    (runReplying dispatcher horizon header reply deadline now link).link = link ∧
      (runReplying dispatcher horizon header reply deadline now link).ending =
        .next (.replying header (dispatcher.status .responseTooLarge) deadline) := by
  rw [runReplying, Writer.writeFrame_of_lt hlong]
  exact ⟨rfl, rfl⟩

/-- Writing a reply that fits reads nothing and sends a prefix of its frame: the whole of it when it
ends well, and otherwise the connection ends. -/
theorem runReplying_of_le (dispatcher : Dispatcher) (horizon : Option Time) (header : Header)
    {reply : Reply} (hfits : reply.body.length ≤ Frame.maxBody) (deadline : Option Time)
    (now : Time) (link : Link) :
    (runReplying dispatcher horizon header reply deadline now link).link.reader = link.reader ∧
      ∃ record,
        (runReplying dispatcher horizon header reply deadline now link).link.writer.sink.sent =
          link.writer.sink.sent ++ record ∧
        Sink.recorded record <+: (reply.frame header).encode ∧
        (((runReplying dispatcher horizon header reply deadline now link).ending = .replied ∧
            Sink.recorded record = (reply.frame header).encode) ∨
          (∃ error, (runReplying dispatcher horizon header reply deadline now link).ending =
            .next (.closing (.write error))) ∨
          (runReplying dispatcher horizon header reply deadline now link).ending = .hanging) := by
  obtain ⟨record, hsent, hprefix, hall⟩ := Writer.exists_recorded_writeFrame ⟨deadline, horizon⟩
    (header.reply reply.code 0) hfits now link.writer
  refine ⟨rfl, record, hsent, hprefix, ?_⟩
  simp only [runReplying]
  rcases hwrite : link.writer.writeFrame ⟨deadline, horizon⟩ (header.reply reply.code 0) reply.body
    now with ⟨⟨result, time⟩, writer⟩
  rw [hwrite] at hall
  rcases result with - | error | _
  · exact .inr (.inr rfl)
  · -- a body that fits is never found too large, so the failure ends the connection
    have hfinal := Writer.isBroken_of_writeFrame hfits (congrArg (·.1.result?) hwrite)
    refine .inr (.inl ⟨error, ?_⟩)
    cases error with
    | tooLarge size => cases hfinal
    | _ => rfl
  · exact .inl ⟨rfl, hall rfl⟩

/-- Closing reads nothing and sends no bytes, and it is the end. -/
theorem runClosing_spec (settings : ServerSettings) (horizon : Option Time) (reason : CloseReason)
    (now : Time) (link : Link) :
    (runClosing settings horizon reason now link).link.reader = link.reader ∧
      (∃ record, (runClosing settings horizon reason now link).link.writer.sink.sent =
        link.writer.sink.sent ++ record ∧ Sink.recorded record = []) ∧
      ((runClosing settings horizon reason now link).ending = .closed reason ∨
        (runClosing settings horizon reason now link).ending = .hanging) := by
  have hsent := Sink.exists_recorded_shutdown ⟨deadlineAfter now settings.writeTimeout, horizon⟩ now
    link.writer.sink
  refine ⟨rfl, hsent, ?_⟩
  simp only [runClosing, Writer.shutdown]
  rcases link.writer.sink.shutdown ⟨deadlineAfter now settings.writeTimeout, horizon⟩ now with
    ⟨⟨outcome, time⟩, sink⟩
  cases outcome with
  | hanging => exact .inr rfl
  | done result => exact .inl rfl
  | elapsed => exact .inl rfl

/-- What a phase sends is nothing, or a prefix of the reply that it is there to write. -/
theorem exists_sent_run (settings : ServerSettings) (dispatcher : Dispatcher)
    (horizon : Option Time) (phase : Phase) (now : Time) (link : Link) :
    ∃ record, (phase.run settings dispatcher horizon now link).link.writer.sink.sent =
        link.writer.sink.sent ++ record ∧
      (Sink.recorded record = [] ∨
        ∃ header reply deadline, phase = .replying header reply deadline ∧
          reply.body.length ≤ Frame.maxBody ∧
          Sink.recorded record <+: (reply.frame header).encode) := by
  cases phase with
  | idle => exact ⟨[], by simp [run, (runIdle_spec settings horizon now link).1], .inl rfl⟩
  | reading => exact ⟨[], by simp [run, (runReading_spec settings horizon now link).1], .inl rfl⟩
  | dispatching request =>
    have hlink := (runDispatching_spec settings dispatcher request now link).1
    exact ⟨[], by simp [run, hlink], .inl rfl⟩
  | replying header reply deadline =>
    rcases Nat.lt_or_ge Frame.maxBody reply.body.length with hlong | hfits
    · have hlink := (runReplying_of_lt dispatcher horizon header hlong deadline now link).1
      exact ⟨[], by simp [run, hlink], .inl rfl⟩
    · obtain ⟨-, record, hsent, hprefix, -⟩ :=
        runReplying_of_le dispatcher horizon header hfits deadline now link
      exact ⟨record, hsent, .inr ⟨header, reply, deadline, rfl, hfits, hprefix⟩⟩
  | closing reason =>
    obtain ⟨-, ⟨record, hsent, hnone⟩, -⟩ := runClosing_spec settings horizon reason now link
    exact ⟨record, hsent, .inl hnone⟩

/-- How a phase that begins at a moment can end. -/
inductive Ends (settings : ServerSettings) (dispatcher : Dispatcher) (now : Time) :
    Phase → PhaseEnd → Prop
  | woken : Ends settings dispatcher now .idle (.next .reading)
  | gone : Ends settings dispatcher now .idle (.next (.closing .peerClosed))
  | expired : Ends settings dispatcher now .idle (.next (.closing .idleTimeout))
  | failed (error : IoError) :
      Ends settings dispatcher now .idle (.next (.closing (.read (.io error))))
  | read (request : Frame) : Ends settings dispatcher now .reading (.next (.dispatching request))
  | notBegun : Ends settings dispatcher now .reading (.next .idle)
  | notRead (error : FrameError) :
      Ends settings dispatcher now .reading (.next (.closing (.read error)))
  | handled {request : Frame} {reply : Reply} (hreply : dispatcher.reply? request = some reply) :
      Ends settings dispatcher now (.dispatching request)
        (.next (.replying request.header reply (deadlineAfter now settings.writeTimeout)))
  | notHandled {request : Frame} (hreply : dispatcher.reply? request = none) :
      Ends settings dispatcher now (.dispatching request) (.next (.closing .handlerPanic))
  | replaced {header : Header} {reply : Reply} {deadline : Option Time}
      (hlong : Frame.maxBody < reply.body.length) :
      Ends settings dispatcher now (.replying header reply deadline)
        (.next (.replying header (dispatcher.status .responseTooLarge) deadline))
  | replied {header : Header} {reply : Reply} {deadline : Option Time}
      (hfits : reply.body.length ≤ Frame.maxBody) :
      Ends settings dispatcher now (.replying header reply deadline) .replied
  | notReplied {header : Header} {reply : Reply} {deadline : Option Time}
      (hfits : reply.body.length ≤ Frame.maxBody) (error : FrameError) :
      Ends settings dispatcher now (.replying header reply deadline)
        (.next (.closing (.write error)))
  | closed (reason : CloseReason) : Ends settings dispatcher now (.closing reason) (.closed reason)
  | hanging (phase : Phase) : Ends settings dispatcher now phase .hanging

/-- **These are all the ways in which a phase can end.** -/
theorem ends_run (settings : ServerSettings) (dispatcher : Dispatcher) (horizon : Option Time)
    (phase : Phase) (now : Time) (link : Link) :
    phase.Ends settings dispatcher now (phase.run settings dispatcher horizon now link).ending := by
  cases phase with
  | idle =>
    simp only [run, runIdle, Reader.peek]
    -- an error, a first byte, the end of the wait, or none of them
    rcases link.reader.fetch ⟨deadlineAfter now settings.effectiveIdleTimeout, horizon⟩ 1 now with
      ⟨⟨(error | done) | - | -, time⟩, reader⟩
    · show Ends settings dispatcher now .idle (.next (.closing (if _ then _ else _)))
      split
      · exact .gone
      · exact .failed error
    · exact .woken
    · exact .expired
    · exact .hanging _
  | reading =>
    obtain ⟨-, ⟨request, hend, -⟩ | ⟨hend, -⟩ | ⟨error, hend⟩ | hend⟩ :=
      runReading_spec settings horizon now link
    · exact hend ▸ .read request
    · exact hend ▸ .notBegun
    · exact hend ▸ .notRead error
    · exact hend ▸ .hanging _
  | dispatching request =>
    obtain ⟨-, ⟨reply, hreply, hend⟩ | ⟨hreply, hend⟩⟩ :=
      runDispatching_spec settings dispatcher request now link
    · exact hend ▸ .handled hreply
    · exact hend ▸ .notHandled hreply
  | replying header reply deadline =>
    rcases Nat.lt_or_ge Frame.maxBody reply.body.length with hlong | hfits
    · have hend := (runReplying_of_lt dispatcher horizon header hlong deadline now link).2
      exact hend ▸ .replaced hlong
    · obtain ⟨-, record, -, -, ⟨hend, -⟩ | ⟨error, hend⟩ | hend⟩ :=
        runReplying_of_le dispatcher horizon header hfits deadline now link
      · exact hend ▸ .replied hfits
      · exact hend ▸ .notReplied hfits error
      · exact hend ▸ .hanging _
  | closing reason =>
    obtain ⟨-, -, hend | hend⟩ := runClosing_spec settings horizon reason now link
    · exact hend ▸ .closed reason
    · exact hend ▸ .hanging _

/-- Only closing ends with a connection closed, and for its own reason. -/
theorem run_eq_closed {phase : Phase} {reason : CloseReason}
    (h : (phase.run settings dispatcher horizon now link).ending = .closed reason) :
    phase = .closing reason := by
  have hends := ends_run settings dispatcher horizon phase now link
  rw [h] at hends
  cases hends
  rfl

/-- No phase follows the closing. -/
theorem progressOf_run_closing (server : Server) (reason : CloseReason) (following : Phase) :
    Connection.progressOf server
        ((closing reason).run settings dispatcher horizon now link).ending ≠ .next following := by
  obtain ⟨-, -, hend | hend⟩ := runClosing_spec settings horizon reason now link
  all_goals
    rw [run, hend]
    rintro ⟨⟩

theorem ne_closing_of_progressOf {server : Server} {phase following : Phase}
    (hnext : Connection.progressOf server
      (phase.run settings dispatcher horizon now link).ending = .next following)
    (reason : CloseReason) : phase ≠ .closing reason := by
  rintro rfl
  exact progressOf_run_closing server reason following hnext

end Phase

/-! ### Courses -/

/-- What is known about a connection that is served, between two of its phases. -/
structure Course where
  phase : Phase
  /-- The moment at which the phase begins. -/
  since : Time
  link : Link
  /-- The frames of the replies whose writing has ended well, in their order. -/
  replied : List Frame

namespace Course

/-- The course of a connection whose serving begins. -/
def start (now : Time) (link : Link) : Course := ⟨.idle, now, link, []⟩

/-- The replies that have been written once the phase of a course has ended. -/
def repliedAfter (ending : PhaseEnd) (course : Course) : List Frame :=
  match course.phase, ending with
  | .replying header reply _, .replied => course.replied ++ [reply.frame header]
  | _, _ => course.replied

/-- The course in which a phase begins that follows a run of the one before. -/
def goOn (run : PhaseRun) (phase : Phase) (course : Course) : Course :=
  ⟨phase, run.time, run.link.clearSignals, course.repliedAfter run.ending⟩

variable (settings : ServerSettings) (dispatcher : Dispatcher)

/-- Run the phase of a course. -/
def run (horizon : Option Time) (course : Course) : PhaseRun :=
  course.phase.run settings dispatcher horizon course.since course.link

/-- One course and the next. The server decides as it is when the phase has ended. -/
inductive Step : Course → Course → Prop
  | goOn {course : Course} {horizon : Option Time} {server : Server} {phase : Phase}
      (hsettings : server.settings = settings)
      (hnext : Connection.progressOf server (course.run settings dispatcher horizon).ending =
        .next phase) :
      Step course (course.goOn (course.run settings dispatcher horizon) phase)

section Step

variable {settings : ServerSettings} {dispatcher : Dispatcher} {course next : Course}

/-- **A step is a run of the phase** that the phase of the next course can follow. -/
theorem Step.exists_run (h : Step settings dispatcher course next) :
    ∃ horizon, (course.run settings dispatcher horizon).ending.LeadsTo next.phase ∧
      next = course.goOn (course.run settings dispatcher horizon) next.phase := by
  obtain ⟨-, hnext⟩ := h
  exact ⟨_, Connection.leadsTo_of_progressOf hnext, rfl⟩

/-- The phase of the next course follows one of the ways in which a phase can end. -/
theorem Step.exists_ends (h : Step settings dispatcher course next) :
    ∃ ending, course.phase.Ends settings dispatcher course.since ending ∧
      ending.LeadsTo next.phase := by
  obtain ⟨horizon, hleads, -⟩ := h.exists_run
  exact ⟨_, Phase.ends_run settings dispatcher horizon course.phase
    course.since course.link, hleads⟩

/-- **What is given to a handler has been read**: it was the first frame of the unread bytes. -/
theorem Step.first?_of_dispatching (h : Step settings dispatcher course next) {request : Frame}
    (hnext : next.phase = .dispatching request) :
    course.phase = .reading ∧
      Frame.first? course.link.reader.unread = some (request, next.link.reader.unread) := by
  have hreading : course.phase = .reading := by
    obtain ⟨ending, hends, hleads⟩ := h.exists_ends
    rw [hnext] at hleads
    generalize course.phase = phase at hends ⊢
    cases hends with
    | read => rfl
    | _ => cases hleads
  obtain ⟨horizon, hleads, hgone⟩ := h.exists_run
  obtain ⟨-, hends⟩ := Phase.runReading_spec settings horizon course.since course.link
  have hleft : next.link.reader.unread =
      (Phase.runReading settings horizon course.since course.link).link.reader.unread := by
    rw [hgone, run, hreading]
    rfl
  rw [hnext, run, hreading, Phase.run] at hleads
  rcases hends with ⟨first, hend, hfirst⟩ | ⟨hend, -⟩ | ⟨error, hend⟩ | hend
  all_goals
    rw [hend] at hleads
    cases hleads
  rw [hleft]
  exact ⟨hreading, hfirst⟩

end Step

/-- The courses that serving can come to which begins on a link at a moment. -/
def Reachable (now : Time) (link : Link) (course : Course) : Prop :=
  Relation.ReflTransGen (Step settings dispatcher) (start now link) course

end Course

/-- **Serving that comes to its end has passed through courses**: the last of them ends with the
closing of the connection. -/
theorem Connection.exists_course_of_runFrom {horizon : Option Time} {fuel : Nat} (course : Course)
    {connection : Connection} {server : Server} {reason : CloseReason}
    (hlink : connection.link = course.link)
    (h : (connection.runFrom horizon fuel course.phase course.since server).1.result? =
      some reason) :
    ∃ last, Relation.ReflTransGen (Course.Step server.settings server.dispatcher) course last ∧
      last.phase = .closing reason ∧
      (connection.runFrom horizon fuel course.phase course.since server).2.1.link =
        (last.run server.settings server.dispatcher horizon).link.clearSignals := by
  induction fuel generalizing course connection server with
  | zero => cases h
  | succ fuel ih =>
    have hrun : connection.runOf horizon course.phase course.since server =
        course.run server.settings server.dispatcher horizon := by
      rw [runOf, hlink, Course.run]
    rcases hprogress : progressOf (server.after connection.name
        (course.run server.settings server.dispatcher horizon))
        (course.run server.settings server.dispatcher horizon).ending with next | other | -
    · -- one step of the course, and the rest of the serving from where it leads to
      have hstep : Course.Step server.settings server.dispatcher course _ :=
        .goOn (server.settings_after _ _) hprogress
      rw [runFrom_of_next hrun hprogress] at h ⊢
      obtain ⟨last, hreach, hphase, hleft⟩ := ih (course.goOn _ next) rfl h
      rw [Server.settings_after, Server.dispatcher_after] at hreach hleft
      exact ⟨last, .head hstep hreach, hphase, hleft⟩
    · have hend := progressOf_eq_closed_iff.1 hprogress
      rw [runFrom_of_closed hrun hend] at h ⊢
      cases h
      exact ⟨course, .refl, Phase.run_eq_closed hend, rfl⟩
    · have hend := progressOf_eq_abandoned_iff.1 hprogress
      rw [runFrom_of_hanging hrun hend] at h
      cases h

end FramedExchange
