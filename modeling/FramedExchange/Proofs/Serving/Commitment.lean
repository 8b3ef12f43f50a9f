import FramedExchange.Proofs.Serving.ExchangeTiming
import FramedExchange.Proofs.Serving.History
import FramedExchange.Proofs.Stream.Refilling

/-!
# A request that has begun is read or ends the connection

The peek that ends the waiting, the buffer that it fills and the two reads of a frame lie in
different phases. What joins them is that reading begins with a byte at hand
(`Course.buffered_of_reading`), and that this byte stays in the buffer until the whole header is
taken. So the reading of a request is never found not to have begun: it leads to the handler or to
the end of the connection (`Course.Step.follows_reading`), and never back to waiting. A peer that
falls silent behind its first byte does not get another window (`Course.IsCommitted`).
-/

namespace FramedExchange

open Relation

namespace Course

variable {settings : ServerSettings} {dispatcher : Dispatcher} {now : Time} {link : Link}
variable {course next : Course}

/-- **Reading begins with a byte at hand**, in every course that serving can come to. -/
theorem buffered_of_reading (h : Reachable settings dispatcher now link course)
    (hphase : course.phase = .reading) : course.link.reader.buffered ≠ 0 := by
  rcases ReflTransGen.cases_tail h with rfl | ⟨before, -, hstep⟩
  · cases hphase
  · obtain ⟨horizon, hleads, hnext⟩ := hstep.exists_run
    rw [hphase] at hleads
    rw [hnext]
    exact Phase.buffered_of_leadsTo_reading hleads

/-- **Reading leads to the handler, or to the end of the connection** for an error that leaves the
stream of no further use. -/
theorem Step.follows_reading (h : Step settings dispatcher course next)
    (hphase : course.phase = .reading) (hbuffered : course.link.reader.buffered ≠ 0) :
    (∃ request, next.phase = .dispatching request) ∨
      ∃ error, next.phase = .closing (.read error) ∧ error.isBroken = true := by
  obtain ⟨horizon, hleads, -⟩ := h.exists_run
  rw [run, hphase, Phase.run, Phase.ending_runReading] at hleads
  generalize next.phase = phase at hleads ⊢
  rcases hread : (course.link.reader.readFrame
    ⟨deadlineAfter course.since settings.readTimeout, horizon⟩ course.since).1.result? with
    - | error | request
  all_goals rw [hread] at hleads
  · cases hleads
  · have hbroken := Reader.isBroken_of_readFrame hbuffered hread
    rw [Phase.readEnd, if_pos hbroken] at hleads
    cases hleads
    exact .inr ⟨error, rfl, hbroken⟩
  · cases hleads
    exact .inl ⟨request, rfl⟩

/-- Whatever closes a connection while it is read from leaves the stream of no further use. -/
theorem isBroken_of_closing (h : Reachable settings dispatcher now link course) {error : FrameError}
    (hphase : course.phase = .closing (.read error)) : error.isBroken = true := by
  rcases ReflTransGen.cases_tail h with rfl | ⟨before, hreach, hstep⟩
  · cases hphase
  · by_cases hreading : before.phase = .reading
    · rcases hstep.follows_reading hreading (buffered_of_reading hreach hreading) with
        ⟨request, hnext⟩ | ⟨other, hnext, hbroken⟩
      · cases hphase.symm.trans hnext
      · cases hphase.symm.trans hnext
        exact hbroken
    · obtain ⟨ending, hends, hleads⟩ := hstep.exists_ends
      rw [hphase] at hleads
      generalize before.phase = phase at hends hreading
      -- apart from reading, only a wait ends so, when the stream fails
      cases hends with
      | failed failure =>
        cases hleads
        rfl
      | notRead => exact absurd rfl hreading
      | _ => cases hleads

/-- Reading does not depend on how much is fetched at a time. -/
theorem Reachable.agree (h : Reachable settings dispatcher now link course)
    (hlink : link.Agree link now) :
    course.link.Agree course.link course.since := by
  induction h with
  | refl => exact hlink
  | @tail course next _ hstep ih =>
    obtain ⟨horizon, -, hnext⟩ := hstep.exists_run
    have hrun : (course.run settings dispatcher horizon).Agree
        (course.run settings dispatcher horizon) :=
      Phase.run_agree ⟨rfl, rfl, rfl, rfl⟩ ih dispatcher horizon course.phase
    rw [hnext]
    exact ⟨hrun.link.reader.clearSignals, rfl⟩

/-- What it means for a course in which a request is read that the request has begun. -/
structure IsCommitted (settings : ServerSettings) (dispatcher : Dispatcher)
    (course : Course) : Prop where
  /-- A byte is in the buffer that has not been taken. -/
  begun : course.link.reader.buffered ≠ 0
  /-- It is there between any two reads that are made for the header, whatever they bring. -/
  held : ∀ limits point,
    ReflTransGen (Reader.Refill limits Header.size) (course.since, course.link.reader) point →
    point.2.buffered ≠ 0
  /-- It is there unless the whole header has been taken. -/
  kept : ∀ limits result reader,
    course.link.reader.take limits Header.size course.since = (result, reader) →
    (∃ raw, result.outcome = .done (.ok raw) ∧ raw.length = Header.size) ∨ reader.buffered ≠ 0
  /-- No failure to read the request is of the kind that leaves the stream in order. -/
  unrecoverable : ∀ limits error,
    (course.link.reader.readFrame limits course.since).1.result? = some (.error error) →
    error ≠ .idle ∧ (∀ size, error ≠ .tooLarge size) ∧ error.isBroken = true
  /-- The handler follows, or the end of the connection, and never another wait. -/
  follows : ∀ next, Step settings dispatcher course next →
    (∃ request, next.phase = .dispatching request) ∨
      ∃ error, next.phase = .closing (.read error) ∧ error.isBroken = true
  /-- If nothing has become of the request by the end of its window, the connection is
  closed then. -/
  stalled : 0 < settings.readTimeout →
    (∀ result,
      ¬(course.link.reader.receivedBy (course.since + settings.readTimeout)).Shows result) →
    (course.run settings dispatcher none).ending = .next (.closing (.read .timeout)) ∧
      (course.run settings dispatcher none).time = course.since + settings.readTimeout

/-- **A request with a byte at hand has begun.** -/
theorem isCommitted_of_buffered (hphase : course.phase = .reading)
    (hbuffered : course.link.reader.buffered ≠ 0) (hburst : 0 < course.link.reader.source.burst) :
    course.IsCommitted settings dispatcher where
  begun := hbuffered
  held limits point hrefills := by
    have hle := Reader.buffered_le_of_refills hrefills
    exact Nat.ne_of_gt (Nat.lt_of_lt_of_le (Nat.pos_of_ne_zero hbuffered) hle)
  kept limits result reader htake := by
    rcases hresult : result.outcome with (error | raw) | _ | _
    case done.ok =>
      obtain ⟨outcome, time⟩ := result
      obtain rfl : outcome = _ := hresult
      obtain ⟨hsize, hraw, -⟩ := Reader.take_eq_ok htake
      exact .inl ⟨raw, rfl, hraw ▸ List.length_take_of_le hsize⟩
    all_goals
      have hle := Reader.buffered_le_of_take_ne_ok htake (by simp [hresult])
      exact .inr (Nat.ne_of_gt (Nat.lt_of_lt_of_le (Nat.pos_of_ne_zero hbuffered) hle))
  unrecoverable limits error herror := by
    have hbroken := Reader.isBroken_of_readFrame hbuffered herror
    refine ⟨?_, fun size ↦ ?_, hbroken⟩
    · rintro rfl
      cases hbroken
    · rintro rfl
      cases hbroken
  follows next hstep := hstep.follows_reading hphase hbuffered
  stalled hpos hnothing := by
    have hread := Reader.isInTime_readFrame hburst hbuffered settings.readTimeout course.since
    have hnone : course.link.reader.frameBy? (course.since + settings.readTimeout) = none :=
      Option.eq_none_iff_forall_ne_some.2 fun result hframe ↦
        hnothing result (Received.frame?_eq_some_iff.1 hframe)
    rw [run, hphase]
    exact Phase.runReading_of_read (hread.undecided hpos hnone)

end Course

/-- **A connection that has begun to read a request is committed to it**, whatever the settings and
the handlers are and whatever the stream does, and however many requests it has had before. There is
a byte at hand until the whole header is taken; so the reading comes to the handler or to the end of
the connection, and never to another wait for a request. -/
theorem Connection.isCommitted_serve {server : Server} (hserver : server.Reachable) (name : String)
    {source : Source} (hburst : 0 < source.burst) (sink : Sink) (now : Time) :
    let opened := server.openConnection name source sink
    (∀ course, Course.Reachable server.settings server.dispatcher now opened.1.link course →
      course.phase = .reading → course.IsCommitted server.settings server.dispatcher) ∧
    ∀ horizon error, (opened.1.serve horizon now opened.2).1.result? = some (.read error) →
      error.isBroken = true := by
  intro opened
  have halike : server.Alike server :=
    ⟨⟨rfl, rfl, rfl, rfl⟩, rfl, rfl, hserver.isClean, hserver.isClean⟩
  have hagree := (halike.openConnection name hburst sink now).1.link
  refine ⟨fun course hreach hphase ↦ ?_, fun horizon error hresult ↦ ?_⟩
  · obtain ⟨supply, hbehind, -⟩ := (hreach.agree hagree).reader
    exact Course.isCommitted_of_buffered hphase (Course.buffered_of_reading hreach hphase)
      hbehind.burst_pos
  · rw [Connection.serve_openConnection] at hresult
    obtain ⟨last, hreach, hphase, -⟩ :=
      Connection.exists_course_of_runFrom (Course.start now opened.1.link) rfl hresult
    exact Course.isBroken_of_closing hreach hphase

/-- A peer that has been answered, and that falls silent behind the first bytes of another request:
they came in one piece with the request before. -/
theorem Connection.isCommitted_serve_stalling :
    let server := Server.start { ServerSettings.default with readTimeout := 5, writeTimeout := 7 }
      (.byCode ⟨[(7, .echo)]⟩)
    let request := Frame.ofBody (.make 7 0) [1, 2]
    let source := Source.ofScript [⟨2, .data (request.encode ++ request.encode.take 4)⟩,
      ⟨3, .stall⟩]
    let opened := server.openConnection "conn-1" source .eager
    server.Reachable ∧ 0 < source.burst ∧
      (∃ course, Course.Reachable server.settings server.dispatcher 0 opened.1.link course ∧
        course.phase = .reading ∧ course.link.reader.buffered = 4 ∧
        course.replied.length = 1 ∧
        (course.run server.settings server.dispatcher none).ending =
          .next (.closing (.read .timeout)) ∧
        (course.run server.settings server.dispatcher none).time = 7) ∧
      (opened.1.serve none 0 opened.2).1 = ⟨some (.read .timeout), 7⟩ ∧
      FrameError.timeout.isBroken = true := by
  intro server request source opened
  have hserver : server.Reachable := .start _ _
  have hburst : 0 < source.burst := by decide
  obtain ⟨hcommitted, hbroken⟩ := Connection.isCommitted_serve hserver "conn-1" hburst .eager 0
  let goOn (phase : Phase) (course : Course) : Course :=
    course.goOn (course.run server.settings server.dispatcher none) phase
  let first := goOn .reading (.start 0 opened.1.link)
  let replying := goOn (.replying request.header ⟨0, [1, 2]⟩ (some 9))
    (goOn (.dispatching request) first)
  let second := goOn .reading (goOn .idle replying)
  have hstep {course : Course} (phase : Phase)
      (hreach : Course.Reachable server.settings server.dispatcher 0 opened.1.link course)
      (hnext : Connection.progressOf server
        (course.run server.settings server.dispatcher none).ending = .next phase) :
      Course.Reachable server.settings server.dispatcher 0 opened.1.link (goOn phase course) :=
    hreach.tail (.goOn rfl hnext)
  have hfirst := hstep .reading .refl (by decide +kernel)
  have hreplying := hstep (.replying request.header ⟨0, [1, 2]⟩ (some 9))
    (hstep (.dispatching request) hfirst (by decide +kernel)) (by decide +kernel)
  have hsecond := hstep .reading (hstep .idle hreplying (by decide +kernel)) (by decide +kernel)
  have hsince : second.since = 2 := by decide +kernel
  have hresult : (opened.1.serve none 0 opened.2).1 = ⟨some (.read .timeout), 7⟩ := by
    decide +kernel
  have hsilent (result : Except FrameError Frame) :
      ¬(second.link.reader.receivedBy (second.since + 5)).Shows result := fun hshows ↦ by
    have hframe := Received.frame?_eq_some_iff.2 hshows
    have hnone : (second.link.reader.receivedBy (second.since + 5)).frame? = none := by
      decide +kernel
    cases hnone.symm.trans hframe
  obtain ⟨hend, htime⟩ := (hcommitted second hsecond rfl).stalled (by decide) hsilent
  exact ⟨hserver, hburst,
    ⟨second, hsecond, rfl, by decide +kernel, by decide +kernel, hend,
      htime.trans (congrArg (· + 5) hsince)⟩,
    hresult, hbroken none .timeout (congrArg Settled.result? hresult)⟩

end FramedExchange
