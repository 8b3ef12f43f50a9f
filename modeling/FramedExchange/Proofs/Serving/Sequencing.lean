import FramedExchange.Proofs.Serving.History
import FramedExchange.Proofs.Serving.Output

/-!
# Requests are handled one after the other, and each of them once

A reader fetches later requests while an earlier one is in progress, a reply that is too large is
replaced by another one, and panics, failures and deadlines end the serving at different places.
None of this shows in the order of what is done (`Course.IsSequenced`): the handlers have been given
the first requests of the stream in their order, each of them once and nothing else, and a request
is given to its handler only when the replies to all earlier ones have been written and flushed.

That a request in hand is the next one of the stream comes from the invariant of the output: the
requests behind it are those that have been answered (`Course.IsFaithful`).
-/

namespace FramedExchange

namespace Phase

variable {dispatcher : Dispatcher} {horizon : Option Time} {header : Header} {reply : Reply}
variable {deadline : Option Time} {now : Time} {link : Link}

/-- A reply that was written to its end has been flushed. -/
theorem exists_flushed_runReplying
    (h : (runReplying dispatcher horizon header reply deadline now link).ending = .replied) :
    ∃ pieces time,
      (runReplying dispatcher horizon header reply deadline now link).link.writer.sink.sent =
        link.writer.sink.sent ++ pieces ++ [.flush time] ∧
      Sink.recorded pieces = (reply.frame header).encode := by
  simp only [runReplying] at h ⊢
  refine Writer.exists_flushed_writeFrame ?_
  rcases hwrite : link.writer.writeFrame ⟨deadline, horizon⟩ (header.reply reply.code 0) reply.body
    now with ⟨⟨result, time⟩, writer⟩
  rw [hwrite] at h
  rcases result with - | error | _
  · cases h
  · cases error <;> cases h
  · rfl

end Phase

namespace Course

variable {settings : ServerSettings} {dispatcher : Dispatcher} {now : Time} {link : Link}
variable {runs : List PhaseRun} {course : Course}

/-- What it means that the requests of a stream are handled one after the other, for a course and
the runs by which serving has come to it. -/
structure IsSequenced (settings : ServerSettings) (dispatcher : Dispatcher) (requests : List Frame)
    (runs : List PhaseRun) (course : Course) : Prop where
  /-- The handlers have been given the first requests of the stream in their order, each once. If
  there is a request in hand, it is the one that follows. -/
  dispatched : dispatched runs ++ course.phase.inHand <+: requests
  /-- These are the frames that reading has got. -/
  received : received runs = Course.dispatched runs ++ course.phase.inHand
  /-- The replies that have been written to their end are the answers to the first of them. -/
  answered : course.replied.map some =
    ((Course.dispatched runs).take course.replied.length).map dispatcher.answer?
  /-- Of the others there is at most one, and none while a request is in hand. -/
  pending : (Course.dispatched runs).length = course.replied.length + course.phase.unanswered
  atMostOne : course.phase.unanswered ≤ 1
  /-- Behind each reply that has been written there is a flush, and then nothing but the next
  reply. -/
  flushed : (∀ error, course.phase ≠ .closing (.write error)) →
    Sink.Flushed course.replied course.link.writer.sink.sent
  /-- What the phase does depends on the handlers only by what they do with the request in hand. -/
  consulted : ∀ horizon other, other.convention = dispatcher.convention →
    (∀ request ∈ course.phase.inHand, other.dispatch request = dispatcher.dispatch request) →
    course.run settings other horizon = course.run settings dispatcher horizon

/-- **What has been dispatched are the first requests of the stream**, and the one in hand is the
next. -/
theorem Came.dispatched_prefix (hsent : link.writer.sink.sent = [])
    (h : Came settings dispatcher now link runs course) :
    dispatched runs ++ course.phase.inHand <+: (Frame.split link.reader.unread).1 := by
  induction h with
  | start => exact List.nil_prefix
  | @goOn runs course horizon server phase hcame hsettings hnext ih =>
    have hcame' := hcame.goOn hsettings hnext
    obtain ⟨handled, ahead, part, hfaithful⟩ :=
      exists_isFaithful_of_reachable hsent hcame'.reachable
    have hcount := hcame'.length_dispatched
    have hanswered := congrArg List.length hfaithful.answered
    rw [List.length_map, List.length_map] at hanswered
    rw [dispatched_append_run] at hcount ⊢
    cases phase with
    | dispatching request =>
      -- every request before the one in hand has been answered
      obtain ⟨⟩ := hfaithful.owes
      have hhandled : dispatched runs ++ course.phase.inHand = handled := by
        rw [List.prefix_iff_eq_take.1 ih, hfaithful.requests, hcount]
        exact List.take_left' hanswered.symm
      rw [hhandled, hfaithful.requests]
      exact ⟨_, List.append_cons .. |>.symm⟩
    | idle | reading | replying | closing =>
      show _ ++ [] <+: _
      rwa [List.append_nil]

/-- **The replies answer the first of the dispatched requests**, one by one. -/
theorem Came.answered (hsent : link.writer.sink.sent = [])
    (h : Came settings dispatcher now link runs course) :
    course.replied.map some =
      ((dispatched runs).take course.replied.length).map dispatcher.answer? := by
  obtain ⟨handled, ahead, part, hfaithful⟩ := exists_isFaithful_of_reachable hsent h.reachable
  have hanswered := congrArg List.length hfaithful.answered
  rw [List.length_map, List.length_map] at hanswered
  have hle : course.replied.length ≤ (dispatched runs).length := by
    rw [h.length_dispatched]
    exact Nat.le_add_right _ _
  have hfront := (List.prefix_append _ _).trans (h.dispatched_prefix hsent)
  have hhandled : (dispatched runs).take course.replied.length = handled := by
    rw [List.prefix_iff_eq_take.1 hfront, List.take_take, Nat.min_eq_left hle, hfaithful.requests]
    exact List.take_left' hanswered.symm
  rw [hhandled, hfaithful.answered]

/-- A phase whose writing does not fail keeps replies and flushes in step. -/
theorem flushed_run {horizon : Option Time} {following : Phase}
    (h : Sink.Flushed course.replied course.link.writer.sink.sent)
    (hleads : (course.run settings dispatcher horizon).ending.LeadsTo following)
    (hfollowing : ∀ error, following ≠ .closing (.write error)) :
    Sink.Flushed (course.goOn (course.run settings dispatcher horizon) following).replied
      (course.goOn (course.run settings dispatcher horizon) following).link.writer.sink.sent := by
  obtain ⟨phase, since, link, replied⟩ := course
  cases phase with
  | idle => exact h
  | reading => exact h
  | dispatching request =>
    show Sink.Flushed replied
      (Phase.runDispatching settings dispatcher request since link).link.writer.sink.sent
    rw [(Phase.runDispatching_spec settings dispatcher request since link).1]
    exact h
  | replying header reply deadline =>
    rcases Nat.lt_or_ge Frame.maxBody reply.body.length with hlong | hfits
    · obtain ⟨hlink, hend⟩ :=
        Phase.runReplying_of_lt dispatcher horizon header hlong deadline since link
      rw [run, Phase.run, goOn, hend, repliedAfter_next]
      show Sink.Flushed replied (Phase.runReplying dispatcher horizon header reply deadline since
        link).link.writer.sink.sent
      rw [hlink]
      exact h
    · obtain ⟨-, record, -, -, ⟨hend, -⟩ | ⟨error, hend⟩ | hend⟩ :=
        Phase.runReplying_of_le dispatcher horizon header hfits deadline since link
      · -- one more reply, and one more flush behind it
        obtain ⟨pieces, time, hsent, hpieces⟩ := Phase.exists_flushed_runReplying hend
        rw [run, Phase.run, goOn, hend]
        show Sink.Flushed (replied ++ [reply.frame header]) (Phase.runReplying dispatcher horizon
          header reply deadline since link).link.writer.sink.sent
        rw [hsent]
        exact .append pieces time h hpieces
      · rw [run, Phase.run, hend] at hleads
        cases hleads
        exact absurd rfl (hfollowing error)
      · rw [run, Phase.run, hend] at hleads
        cases hleads
  | closing reason =>
    obtain ⟨-, -, hend | hend⟩ := Phase.runClosing_spec settings horizon reason since link
    all_goals
      rw [run, Phase.run, hend] at hleads
      cases hleads

/-- **As long as no writing has failed**, what has been sent are replies with a flush behind
each. -/
theorem Came.flushed (hsent : link.writer.sink.sent = [])
    (h : Came settings dispatcher now link runs course)
    (hphase : ∀ error, course.phase ≠ .closing (.write error)) :
    Sink.Flushed course.replied course.link.writer.sink.sent := by
  induction h with
  | start =>
    show Sink.Flushed [] link.writer.sink.sent
    rw [hsent]
    exact .nil
  | @goOn runs course horizon server phase _ _ hnext ih =>
    have hleads := Connection.leadsTo_of_progressOf hnext
    refine flushed_run (ih fun error ↦ ?_) hleads hphase
    exact Phase.ne_closing_of_progressOf hnext (.write error)

/-- **Every course that serving can come to is sequenced.** -/
theorem Came.isSequenced (hsent : link.writer.sink.sent = []) {requests : List Frame} {rest : Bytes}
    (hcut : Frame.IsCut link.reader.unread requests rest)
    (h : Came settings dispatcher now link runs course) :
    IsSequenced settings dispatcher requests runs course where
  dispatched := by
    have hprefix := h.dispatched_prefix hsent
    rwa [hcut.split_eq] at hprefix
  received := h.received_eq
  answered := h.answered hsent
  pending := h.length_dispatched
  atMostOne := course.phase.unanswered_le
  flushed := h.flushed hsent
  consulted _ _ := Phase.run_congr

end Course

/-! ### Serving -/

/-- **Requests are dispatched strictly one after the other**, whatever the stream does and whatever
the settings and the handlers are. However serving has come to where it is, the handlers have been
given the first frames of the stream, each of them once and as reading has got it, and never bytes
that are no frame or that follow such bytes. When a request is given to its handler, the replies to
all earlier ones have been written and flushed. No reply that is too large, write that fails or
panic changes that. -/
theorem Connection.isSequenced_serve {server : Server} (hserver : server.Reachable) (name : String)
    (source : Source) (writes : List (Scheduled Acceptance))
    (flushes shutdowns : List (Scheduled Completion)) (now : Time) {requests : List Frame}
    {rest : Bytes} (hcut : Frame.IsCut source.remaining requests rest) :
    let opened := server.openConnection name source (Sink.ofScripts writes flushes shutdowns)
    (∀ course, Course.Reachable server.settings server.dispatcher now opened.1.link course →
      ∃ runs, Course.Came server.settings server.dispatcher now opened.1.link runs course) ∧
    (∀ runs course, Course.Came server.settings server.dispatcher now opened.1.link runs course →
      course.IsSequenced server.settings server.dispatcher requests runs) ∧
    ∀ horizon reason, (opened.1.serve horizon now opened.2).1.result? = some reason →
      ∃ runs course, Course.Came server.settings server.dispatcher now opened.1.link runs course ∧
        course.phase = .closing reason ∧
        (opened.1.serve horizon now opened.2).2.1.link =
          (course.run server.settings server.dispatcher horizon).link.clearSignals := by
  intro opened
  have hinput : opened.1.link.reader.unread = source.remaining :=
    Server.unread_openConnection hserver ..
  rw [← hinput] at hcut
  refine ⟨fun course ↦ Course.exists_came_of_reachable,
    fun runs course hcame ↦ hcame.isSequenced rfl hcut, fun horizon reason hresult ↦ ?_⟩
  rw [Connection.serve_openConnection] at hresult ⊢
  obtain ⟨last, hreach, hphase, hleft⟩ :=
    Connection.exists_course_of_runFrom (Course.start now opened.1.link) rfl hresult
  obtain ⟨runs, hcame⟩ := Course.exists_came_of_reachable hreach
  exact ⟨runs, last, hcame, hphase, hleft⟩

/-- Two requests and the beginning of a third one in one piece. The handler of the second one
panics, which the code convention has no answer for. -/
theorem Connection.isSequenced_serve_panicking :
    let server := Server.start .default (.byCode ⟨[(7, .echo), (8, .panicking .untyped)]⟩)
    let requests := [Frame.ofBody (.make 7 0) [1, 2], Frame.ofBody (.make 8 0) [3]]
    let rest : Bytes := [1, 1, 0]
    let source := Source.ofScript [⟨0, .data (requests.flatMap Frame.encode ++ rest)⟩]
    let opened := server.openConnection "conn-1" source (.ofScripts [⟨2, .take 1⟩] [] [])
    server.Reachable ∧ Frame.IsCut source.remaining requests rest ∧
      (opened.1.serve none 0 opened.2).1.result? = some .handlerPanic ∧
      ∃ runs course, Course.Came server.settings server.dispatcher 0 opened.1.link runs course ∧
        course.phase = .closing .handlerPanic ∧ Course.dispatched runs <+: requests ∧
        (Course.dispatched runs).length = course.replied.length + 1 := by
  intro server requests rest source opened
  have hserver : server.Reachable := .start _ _
  have hvalid : ∀ request ∈ requests, request.IsValid := by
    intro request hmem
    obtain rfl | hmem := List.mem_cons.1 hmem
    · exact Frame.isValid_ofBody (Header.isOurs_make 7 0) (by decide)
    · obtain rfl := List.mem_singleton.1 hmem
      exact Frame.isValid_ofBody (Header.isOurs_make 8 0) (by decide)
  have hcut : Frame.IsCut source.remaining requests rest :=
    ⟨by decide, hvalid, Frame.first?_eq_none_iff.1 (by decide)⟩
  have hresult : (opened.1.serve none 0 opened.2).1.result? = some .handlerPanic := by
    decide +kernel
  obtain ⟨-, hsequenced, hserved⟩ := Connection.isSequenced_serve hserver "conn-1" source
    [⟨2, .take 1⟩] [] [] 0 hcut
  obtain ⟨runs, course, hcame, hphase, -⟩ := hserved none .handlerPanic hresult
  obtain ⟨hdispatched, -, -, hpending, -⟩ := hsequenced runs course hcame
  rw [hphase] at hdispatched hpending
  exact ⟨hserver, hcut, hresult, runs, course, hcame, hphase,
    (List.prefix_append _ _).trans hdispatched, hpending⟩

end FramedExchange
