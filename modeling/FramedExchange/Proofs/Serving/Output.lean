import FramedExchange.Proofs.Serving.Course

/-!
# The output of a connection is never corrupted

However a stream behaves, and whatever the settings and the handlers are, a peer that reads what a
connection has sent finds whole replies to its requests in order, and then at most a part of the
next one. `IsOutput` says so about the bytes that have been sent at some moment and the replies that
have been written by then.

The invariant (`Course.IsFaithful`) splits the requests of the stream into those that are answered
and those that are ahead. What the phase is about is the first request ahead, and everything behind
it is still unread (`Owes`). A part of an answer is only ever sent while a reply is written, or it
is what a reply that failed has left; the connection closes then.
-/

namespace FramedExchange

/-- What a connection has sent that was given some input: the frames of the replies that have been
written, and then a part of another one. -/
structure IsOutput (dispatcher : Dispatcher) (input : Bytes) (replied : List Frame)
    (sent part : Bytes) : Prop where
  joined : sent = replied.flatMap Frame.encode ++ part
  valid : ∀ frame ∈ replied, frame.IsValid
  /-- The replies are the answers to the first requests of the input, one by one. -/
  answers : replied.map some = ((Frame.split input).1.take replied.length).map dispatcher.answer?
  /-- The part is one of the answer to the next request. -/
  cut : part = [] ∨ ∃ request answer, (Frame.split input).1[replied.length]? = some request ∧
    dispatcher.answer? request = some answer ∧ part <+: answer.encode

/-- What a connection owes in a phase, given the bytes that are unread: the requests ahead, the
first of which the phase is about. Of its answer a part has been sent. -/
inductive Owes (dispatcher : Dispatcher) (unread : Bytes) : Phase → List Frame → Bytes → Prop
  | idle : Owes dispatcher unread .idle (Frame.split unread).1 []
  | reading : Owes dispatcher unread .reading (Frame.split unread).1 []
  | dispatching (request : Frame) :
      Owes dispatcher unread (.dispatching request) (request :: (Frame.split unread).1) []
  | replying {request : Frame} {reply : Reply} (deadline : Option Time)
      (hanswer : dispatcher.answer? request =
        some ((dispatcher.fitting reply).frame request.header)) :
      Owes dispatcher unread (.replying request.header reply deadline)
        (request :: (Frame.split unread).1) []
  /-- A reply could not be written, or not to its end. -/
  | failed {request answer : Frame} {part : Bytes} (error : FrameError) (ahead : List Frame)
      (hanswer : dispatcher.answer? request = some answer) (hpart : part <+: answer.encode) :
      Owes dispatcher unread (.closing (.write error)) (request :: ahead) part
  | closing {reason : CloseReason} (ahead : List Frame) (hreason : ∀ error, reason ≠ .write error) :
      Owes dispatcher unread (.closing reason) ahead []

/-- A part of a reply has been sent in a phase only if that reply is being written, or if its
writing has failed. -/
def Phase.Explains (part : Bytes) : Phase → Prop
  | .replying header reply _ => part <+: (reply.frame header).encode
  | .closing (.write _) => True
  | _ => part = []

theorem Owes.explains {dispatcher : Dispatcher} {unread part : Bytes} {phase : Phase}
    {ahead : List Frame} (h : Owes dispatcher unread phase ahead part) : phase.Explains part := by
  cases h with
  | idle | reading | dispatching => rfl
  | replying => exact List.nil_prefix
  | failed => trivial
  | @closing reason ahead hreason =>
    cases reason with
    | write error => trivial
    | _ => rfl

theorem Owes.cut {dispatcher : Dispatcher} {unread part : Bytes} {phase : Phase}
    {ahead : List Frame} (h : Owes dispatcher unread phase ahead part) :
    part = [] ∨ ∃ request rest answer, ahead = request :: rest ∧
      dispatcher.answer? request = some answer ∧ part <+: answer.encode := by
  cases h with
  | failed error ahead hanswer hpart => exact .inr ⟨_, _, _, rfl, hanswer, hpart⟩
  | _ => exact .inl rfl

namespace Course

variable {settings : ServerSettings} {dispatcher : Dispatcher} {input part : Bytes}
variable {course next : Course} {handled ahead : List Frame}

/-- The requests of the input are those that have been answered and those ahead, and what has been
sent are the answers to the former and a part of the next one. -/
structure IsFaithful (dispatcher : Dispatcher) (input : Bytes) (course : Course)
    (handled ahead : List Frame) (part : Bytes) : Prop where
  requests : (Frame.split input).1 = handled ++ ahead
  answered : course.replied.map some = handled.map dispatcher.answer?
  sent : Sink.recorded course.link.writer.sink.sent = course.replied.flatMap Frame.encode ++ part
  owes : Owes dispatcher course.link.reader.unread course.phase ahead part

/-- Nothing has been answered in the beginning. -/
theorem isFaithful_start (dispatcher : Dispatcher) (now : Time) {link : Link}
    (hsent : link.writer.sink.sent = []) :
    IsFaithful dispatcher link.reader.unread (start now link) []
      (Frame.split link.reader.unread).1 [] where
  requests := rfl
  answered := rfl
  sent := by
    show Sink.recorded link.writer.sink.sent = []
    rw [hsent, Sink.recorded_nil]
  owes := .idle

@[simp]
theorem repliedAfter_next (phase : Phase) (course : Course) :
    course.repliedAfter (.next phase) = course.replied := by
  unfold repliedAfter
  split
  · rename_i hend
    cases hend
  · rfl

/-! ### One phase -/

/-- A phase that sends more of the answer to the first request ahead, or nothing, keeps the
invariant if what it leads to owes the rest. -/
theorem IsFaithful.goOn_append (h : course.IsFaithful dispatcher input handled ahead part)
    {run : PhaseRun} {phase : Phase} {more : Bytes} (hend : run.ending = .next phase)
    (hsent : Sink.recorded run.link.writer.sink.sent =
      Sink.recorded course.link.writer.sink.sent ++ more)
    (howes : Owes dispatcher run.link.reader.unread phase ahead (part ++ more)) :
    (course.goOn run phase).IsFaithful dispatcher input handled ahead (part ++ more) := by
  have hreplied : (course.goOn run phase).replied = course.replied := by
    rw [Course.goOn, hend, repliedAfter_next]
  refine ⟨h.requests, hreplied ▸ h.answered, ?_, howes⟩
  rw [hreplied, ← List.append_assoc, ← h.sent]
  exact hsent

theorem IsFaithful.goOn (h : course.IsFaithful dispatcher input handled ahead part) {run : PhaseRun}
    {phase : Phase} (hend : run.ending = .next phase)
    (hsent : Sink.recorded run.link.writer.sink.sent = Sink.recorded course.link.writer.sink.sent)
    (howes : Owes dispatcher run.link.reader.unread phase ahead part) :
    (course.goOn run phase).IsFaithful dispatcher input handled ahead part := by
  rw [← List.append_nil part] at howes ⊢
  exact h.goOn_append hend (by rw [hsent, List.append_nil]) howes

/-- A reply that has been written to its end answers the first request ahead. -/
theorem IsFaithful.goOn_replied {header : Header} {reply : Reply} {deadline : Option Time}
    {since : Time} {link : Link} {replied : List Frame} {request : Frame} {rest : List Frame}
    (h : IsFaithful dispatcher input ⟨.replying header reply deadline, since, link, replied⟩ handled
      (request :: rest) [])
    (hanswer : dispatcher.answer? request = some (reply.frame header)) {run : PhaseRun}
    {phase : Phase} (hend : run.ending = .replied)
    (hsent : Sink.recorded run.link.writer.sink.sent =
      Sink.recorded link.writer.sink.sent ++ (reply.frame header).encode)
    (howes : Owes dispatcher run.link.reader.unread phase rest []) :
    IsFaithful dispatcher input
      (Course.goOn run phase ⟨.replying header reply deadline, since, link, replied⟩)
      (handled ++ [request]) rest [] := by
  have hreplied :
      (Course.goOn run phase ⟨.replying header reply deadline, since, link, replied⟩).replied =
        replied ++ [reply.frame header] := by
    rw [Course.goOn, hend]
    rfl
  have hanswered : replied.map some = handled.map dispatcher.answer? := h.answered
  have hbefore : Sink.recorded link.writer.sink.sent = replied.flatMap Frame.encode ++ [] := h.sent
  refine ⟨?_, ?_, ?_, howes⟩
  · rw [h.requests, List.append_assoc, List.singleton_append]
  · rw [hreplied, List.map_append, List.map_append, hanswered, List.map_singleton,
      List.map_singleton, hanswer]
  · show Sink.recorded run.link.writer.sink.sent = _
    rw [hreplied, hsent, hbefore, List.flatMap_append, List.flatMap_singleton, List.append_nil,
      List.append_nil]

section Phases

variable {since : Time} {link : Link} {replied : List Frame} {following : Phase}

/-- Waiting leads to a reading of what is unread, or ends the connection. -/
theorem IsFaithful.runIdle
    (h : IsFaithful dispatcher input ⟨.idle, since, link, replied⟩ handled ahead part)
    (settings : ServerSettings) (horizon : Option Time)
    (hleads : (Phase.runIdle settings horizon since link).ending.LeadsTo following) :
    ∃ handled ahead part, (Course.goOn (Phase.runIdle settings horizon since link) following
      ⟨.idle, since, link, replied⟩).IsFaithful dispatcher input handled ahead part := by
  obtain ⟨hwriter, hkeep, hend⟩ := Phase.runIdle_spec settings horizon since link
  have hsent := congrArg (Sink.recorded ·.sink.sent) hwriter
  obtain ⟨⟩ := h.owes
  rcases hend with hend | ⟨reason, hend, hreason⟩ | hend
  all_goals
    rw [hend] at hleads
    cases hleads
  · refine ⟨_, _, _, h.goOn hend hsent ?_⟩
    rw [hkeep]
    exact .reading
  · exact ⟨_, _, _, h.goOn hend hsent (.closing _ hreason)⟩

/-- Reading takes the first request ahead off what is unread, or takes nothing, or ends the
connection. -/
theorem IsFaithful.runReading
    (h : IsFaithful dispatcher input ⟨.reading, since, link, replied⟩ handled ahead part)
    (settings : ServerSettings) (horizon : Option Time)
    (hleads : (Phase.runReading settings horizon since link).ending.LeadsTo following) :
    ∃ handled ahead part, (Course.goOn (Phase.runReading settings horizon since link) following
      ⟨.reading, since, link, replied⟩).IsFaithful dispatcher input handled ahead part := by
  obtain ⟨hwriter, hend⟩ := Phase.runReading_spec settings horizon since link
  have hsent := congrArg (Sink.recorded ·.sink.sent) hwriter
  obtain ⟨⟩ := h.owes
  rcases hend with ⟨request, hend, hfirst⟩ | ⟨hend, hkeep⟩ | ⟨error, hend⟩ | hend
  all_goals
    rw [hend] at hleads
    cases hleads
  · refine ⟨_, _, _, h.goOn hend hsent ?_⟩
    show Owes dispatcher _ _ (Frame.split link.reader.unread).1 _
    rw [Frame.split_of_first?_eq_some hfirst]
    exact .dispatching request
  · refine ⟨_, _, _, h.goOn hend hsent ?_⟩
    rw [hkeep]
    exact .idle
  · exact ⟨_, _, _, h.goOn hend hsent (.closing _ nofun)⟩

/-- The handler decides which answer is owed, if any is. -/
theorem IsFaithful.runDispatching {request : Frame}
    (h : IsFaithful dispatcher input ⟨.dispatching request, since, link, replied⟩ handled ahead
      part)
    (settings : ServerSettings)
    (hleads :
      (Phase.runDispatching settings dispatcher request since link).ending.LeadsTo following) :
    ∃ handled ahead part,
      (Course.goOn (Phase.runDispatching settings dispatcher request since link) following
        ⟨.dispatching request, since, link, replied⟩).IsFaithful dispatcher input handled ahead
          part := by
  obtain ⟨hlink, hend⟩ := Phase.runDispatching_spec settings dispatcher request since link
  have hsent := congrArg (Sink.recorded ·.writer.sink.sent) hlink
  obtain ⟨⟩ := h.owes
  rcases hend with ⟨reply, hreply, hend⟩ | ⟨hnone, hend⟩
  all_goals
    rw [hend] at hleads
    cases hleads
  · refine ⟨_, _, _, h.goOn hend hsent ?_⟩
    rw [hlink]
    exact .replying _ (Dispatcher.answer?_eq_some hreply)
  · exact ⟨_, _, _, h.goOn hend hsent (.closing _ nofun)⟩

/-- A reply is replaced if it does not fit. Otherwise it is written to its end, or a part of it
is. -/
theorem IsFaithful.runReplying {header : Header} {reply : Reply} {deadline : Option Time}
    (h : IsFaithful dispatcher input ⟨.replying header reply deadline, since, link, replied⟩ handled
      ahead part)
    (horizon : Option Time)
    (hleads : (Phase.runReplying dispatcher horizon header reply deadline since
      link).ending.LeadsTo following) :
    ∃ handled ahead part,
      (Course.goOn (Phase.runReplying dispatcher horizon header reply deadline since link) following
        ⟨.replying header reply deadline, since, link, replied⟩).IsFaithful dispatcher input
          handled ahead part := by
  have howes : Owes dispatcher link.reader.unread (.replying header reply deadline) ahead part :=
    h.owes
  cases howes with
  | @replying request _ _ hanswer =>
    rcases Nat.lt_or_ge Frame.maxBody reply.body.length with hlong | hfits
    · -- the status that takes the place of the reply is what was owed for it all along
      obtain ⟨hlink, hend⟩ :=
        Phase.runReplying_of_lt dispatcher horizon request.header hlong deadline since link
      have hsent := congrArg (Sink.recorded ·.writer.sink.sent) hlink
      rw [hend] at hleads
      cases hleads
      refine ⟨_, _, _, h.goOn hend hsent ?_⟩
      rw [hlink]
      refine .replying _ ?_
      rw [hanswer, Dispatcher.fitting_of_lt hlong,
        Dispatcher.fitting_of_le (dispatcher.length_status_le .responseTooLarge)]
    · obtain ⟨hreader, record, hsent, hprefix, hend⟩ :=
        Phase.runReplying_of_le dispatcher horizon request.header hfits deadline since link
      have hmore := congrArg Sink.recorded hsent
      have hunread := congrArg Reader.unread hreader
      rw [Sink.recorded_append] at hmore
      rw [Dispatcher.fitting_of_le hfits] at hanswer
      rcases hend with ⟨hend, hwhole⟩ | ⟨error, hend⟩ | hend
      · rw [hwhole] at hmore
        rw [hend] at hleads
        cases hleads with
        | idle =>
          refine ⟨_, _, _, h.goOn_replied hanswer hend hmore ?_⟩
          rw [← hunread]
          exact .idle
        | closing => exact ⟨_, _, _, h.goOn_replied hanswer hend hmore (.closing _ nofun)⟩
      · rw [hend] at hleads
        cases hleads
        exact ⟨_, _, _, h.goOn_append hend hmore (.failed error _ hanswer hprefix)⟩
      · rw [hend] at hleads
        cases hleads

/-- **Each phase keeps the invariant**, whichever phase follows it. -/
theorem IsFaithful.run (h : course.IsFaithful dispatcher input handled ahead part)
    (settings : ServerSettings) (horizon : Option Time)
    (hleads : (course.run settings dispatcher horizon).ending.LeadsTo following) :
    ∃ handled ahead part,
      (course.goOn (course.run settings dispatcher horizon) following).IsFaithful dispatcher input
        handled ahead part := by
  obtain ⟨phase, since, link, replied⟩ := course
  cases phase with
  | idle => exact h.runIdle settings horizon hleads
  | reading => exact h.runReading settings horizon hleads
  | dispatching request => exact h.runDispatching settings hleads
  | replying header reply deadline => exact h.runReplying horizon hleads
  | closing reason =>
    -- closing is the last phase
    obtain ⟨-, -, hend | hend⟩ := Phase.runClosing_spec settings horizon reason since link
    all_goals
      rw [Course.run, Phase.run, hend] at hleads
      cases hleads

end Phases

/-- **The invariant holds of every course** that serving can come to. -/
theorem exists_isFaithful_of_reachable {now : Time} {link : Link}
    (hsent : link.writer.sink.sent = []) (hreach : Reachable settings dispatcher now link course) :
    ∃ handled ahead part, course.IsFaithful dispatcher link.reader.unread handled ahead part := by
  induction hreach with
  | refl => exact ⟨_, _, _, isFaithful_start dispatcher now hsent⟩
  | tail _ hstep ih =>
    obtain ⟨handled, ahead, part, hfaithful⟩ := ih
    obtain ⟨-, hnext⟩ := hstep
    exact hfaithful.run settings _ (Connection.leadsTo_of_progressOf hnext)

/-! ### What has been sent -/

/-- What a faithful course has sent, and more of the answer to the first request ahead. -/
theorem IsFaithful.isOutput_append (h : course.IsFaithful dispatcher input handled ahead part)
    {more : Bytes}
    (hcut : part ++ more = [] ∨ ∃ request rest answer, ahead = request :: rest ∧
      dispatcher.answer? request = some answer ∧ part ++ more <+: answer.encode) :
    IsOutput dispatcher input course.replied (Sink.recorded course.link.writer.sink.sent ++ more)
      (part ++ more) := by
  -- a reply has been written for every request that is behind
  have hcount : course.replied.length = handled.length := by
    simpa using congrArg List.length h.answered
  refine ⟨?_, fun frame hmem ↦ ?_, ?_, ?_⟩
  · rw [h.sent, List.append_assoc]
  · have hsome : some frame ∈ handled.map dispatcher.answer? := by
      rw [← h.answered]
      exact List.mem_map_of_mem hmem
    obtain ⟨request, hrequest, hanswer⟩ := List.mem_map.1 hsome
    refine Dispatcher.isValid_of_answer? ((Frame.isCut_split input).valid request ?_) hanswer
    rw [h.requests]
    exact List.mem_append_left _ hrequest
  · rw [h.requests, hcount, List.take_left, h.answered]
  · rcases hcut with hnone | ⟨request, rest, answer, rfl, hanswer, hpart⟩
    · exact .inl hnone
    · refine .inr ⟨request, answer, ?_, hanswer, hpart⟩
      rw [h.requests, hcount, List.getElem?_append_right (Nat.le_refl _), Nat.sub_self]
      rfl

/-- **At any moment of a phase** the record of what has been sent tells of an output that the phase
explains. -/
theorem IsFaithful.exists_isOutput (h : course.IsFaithful dispatcher input handled ahead part)
    {horizon : Option Time} {record : List Sent} (hfrom : course.link.writer.sink.sent <+: record)
    (hto : record <+: (course.run settings dispatcher horizon).link.writer.sink.sent) :
    ∃ part, IsOutput dispatcher input course.replied (Sink.recorded record) part ∧
      course.phase.Explains part := by
  obtain ⟨whole, hwhole, hsent⟩ :=
    course.phase.exists_sent_run settings dispatcher horizon course.since course.link
  obtain ⟨more, rfl⟩ := hfrom
  have hmore : Sink.recorded more <+: Sink.recorded whole := by
    rw [Course.run, hwhole] at hto
    exact Sink.recorded_prefix ((List.prefix_append_right_inj _).1 hto)
  rw [Sink.recorded_append]
  refine ⟨part ++ Sink.recorded more, ?_⟩
  rcases hsent with hnone | ⟨header, reply, deadline, hphase, hfits, hprefix⟩
  · rw [hnone, List.prefix_nil] at hmore
    rw [hmore]
    refine ⟨h.isOutput_append ?_, ?_⟩
    · rw [List.append_nil]
      exact h.owes.cut
    · rw [List.append_nil]
      exact h.owes.explains
  · have howes := h.owes
    rw [hphase] at howes ⊢
    obtain - | - | - | ⟨-, hanswer⟩ := howes
    rw [Dispatcher.fitting_of_le hfits] at hanswer
    have hpart := hmore.trans hprefix
    exact ⟨h.isOutput_append (.inr ⟨_, _, _, rfl, hanswer, hpart⟩), hpart⟩

/-- So it does in every course that serving can come to. -/
theorem exists_isOutput_of_reachable {now : Time} {link : Link} (hnew : link.writer.sink.sent = [])
    (hreach : Reachable settings dispatcher now link course) {horizon : Option Time}
    {record : List Sent} (hfrom : course.link.writer.sink.sent <+: record)
    (hto : record <+: (course.run settings dispatcher horizon).link.writer.sink.sent) :
    ∃ part, IsOutput dispatcher link.reader.unread course.replied (Sink.recorded record) part ∧
      course.phase.Explains part := by
  obtain ⟨handled, ahead, part, hfaithful⟩ := exists_isFaithful_of_reachable hnew hreach
  exact hfaithful.exists_isOutput hfrom hto

end Course

/-! ### Serving -/

variable {server : Server}

/-- **A connection never corrupts its output**, whatever the stream does. At every moment of
serving, what it has sent are the replies that have been written, in order and each a valid frame
that answers the request of its place, and a part of the reply that is being written. When serving
has ended, a part is left only if that reply could not be written. -/
theorem Connection.isOutput_serve (hserver : server.Reachable) (name : String) (source : Source)
    (writes : List (Scheduled Acceptance)) (flushes shutdowns : List (Scheduled Completion))
    (now : Time) :
    let opened := server.openConnection name source (Sink.ofScripts writes flushes shutdowns)
    (∀ course horizon record,
      Course.Reachable server.settings server.dispatcher now opened.1.link course →
      course.link.writer.sink.sent <+: record →
      record <+: (course.run server.settings server.dispatcher horizon).link.writer.sink.sent →
      ∃ part,
        IsOutput server.dispatcher source.remaining course.replied (Sink.recorded record) part ∧
        course.phase.Explains part) ∧
    ∀ horizon reason, (opened.1.serve horizon now opened.2).1.result? = some reason →
      ∃ course part,
        Course.Reachable server.settings server.dispatcher now opened.1.link course ∧
        course.phase = .closing reason ∧
        IsOutput server.dispatcher source.remaining course.replied
          (opened.1.serve horizon now opened.2).2.1.link.writer.sink.taken part ∧
        ((∀ error, reason ≠ .write error) → part = []) := by
  intro opened
  have hinput : opened.1.link.reader.unread = source.remaining :=
    Server.unread_openConnection hserver ..
  rw [← hinput]
  refine ⟨fun course horizon record hreach hfrom hto ↦
    Course.exists_isOutput_of_reachable rfl hreach hfrom hto, fun horizon reason hresult ↦ ?_⟩
  rw [Connection.serve_openConnection] at hresult ⊢
  obtain ⟨last, hreach, hphase, hleft⟩ :=
    Connection.exists_course_of_runFrom (Course.start now opened.1.link) rfl hresult
  obtain ⟨record, hrecord, -⟩ := last.phase.exists_sent_run server.settings server.dispatcher
    horizon last.since last.link
  obtain ⟨part, houtput, hexplains⟩ := Course.exists_isOutput_of_reachable rfl hreach
    ⟨record, hrecord.symm⟩ (List.prefix_refl _)
  refine ⟨last, part, hreach, hphase, ?_, fun hreason ↦ ?_⟩
  · have hsent := congrArg (fun link : Link ↦ Sink.recorded link.writer.sink.sent) hleft
    rw [Sink.taken_eq_recorded]
    exact (congrArg (IsOutput server.dispatcher opened.1.link.reader.unread last.replied · part)
      hsent).mpr houtput
  · rw [hphase] at hexplains
    cases reason with
    | write error => exact absurd rfl (hreason error)
    | _ => exact hexplains

/-- A stream that takes one reply and three bytes of the next, and then fails. -/
theorem Connection.isOutput_serve_brokenPipe :
    let server := Server.start .default (.byCode (.registerCode 7 .echo .empty))
    let requests :=
      (Frame.ofBody (.make 7 0) [1, 2]).encode ++ (Frame.ofBody (.make 7 0) [3]).encode
    let opened := server.openConnection "conn-1" (.ofScript [⟨0, .data requests⟩])
      (.ofScripts [⟨0, .take 20⟩, ⟨0, .take 3⟩, ⟨0, .failure ⟨.brokenPipe, "broken pipe"⟩⟩] [] [])
    server.Reachable ∧
      (opened.1.serve none 0 opened.2).1.result? =
        some (.write (.io ⟨.brokenPipe, "broken pipe"⟩)) ∧
      ∃ course part, Course.Reachable server.settings server.dispatcher 0 opened.1.link course ∧
        course.phase = .closing (.write (.io ⟨.brokenPipe, "broken pipe"⟩)) ∧
        IsOutput server.dispatcher requests course.replied
          (opened.1.serve none 0 opened.2).2.1.link.writer.sink.taken part := by
  intro server requests opened
  have hserver : server.Reachable := .start _ _
  have hresult : (opened.1.serve none 0 opened.2).1.result? =
      some (.write (.io ⟨.brokenPipe, "broken pipe"⟩)) := by decide +kernel
  obtain ⟨course, part, hreach, hphase, houtput, -⟩ := (Connection.isOutput_serve hserver "conn-1"
    (.ofScript [⟨0, .data requests⟩])
    [⟨0, .take 20⟩, ⟨0, .take 3⟩, ⟨0, .failure ⟨.brokenPipe, "broken pipe"⟩⟩] [] [] 0).2 none _
      hresult
  exact ⟨hserver, hresult, course, part, hreach, hphase, houtput⟩

end FramedExchange
