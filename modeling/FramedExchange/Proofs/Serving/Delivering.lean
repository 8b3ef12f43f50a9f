import FramedExchange.Proofs.Serving.Course
import FramedExchange.Proofs.Stream.WriteOutcome

/-!
# How a reply comes to the peer

A sink that takes whatever is written to it within a window (`Sink.TakesAll`) gets the whole of
every frame. So what a server owes for a request is delivered: in one phase, or in two where a
status takes the place of a reply that does not fit (`Course.delivers_of_answer?`). Nothing
else is sent on the way and nothing is read, and the connection goes on from the end of a reply
that was written.
-/

namespace FramedExchange

open Relation

/-! ### Sinks that take everything -/

namespace Sink

/-- Whatever is written to the sink is taken and flushed by a deadline, or some time if
there is none. -/
def TakesAll (deadline : Option Time) (sink : Sink) : Prop :=
  ∀ bytes, ∃ moment, Limits.allows deadline moment ∧ sink.Shows bytes moment (.ok ())

variable {moment : Time}

theorem writes_of_takes {script : List (Scheduled Acceptance)}
    (h : ∀ item ∈ script, item.due ≤ moment ∧ ∃ more, item.event = .take (more + 1))
    (bytes : Bytes) : Writes moment bytes script (.ok ()) := by
  induction script generalizing bytes with
  | nil => exact .rest bytes
  | cons item script ih =>
    obtain ⟨⟨hdue, more, hevent⟩, hscript⟩ := List.forall_mem_cons.1 h
    obtain ⟨due, event⟩ := item
    obtain rfl : event = .take (more + 1) := hevent
    rcases bytes with - | ⟨byte, bytes⟩
    · exact .whole _
    · exact .piece (List.cons_ne_nil byte bytes) hdue (Nat.succ_pos more) (ih hscript _)

/-- **A sink takes everything** if each write takes something and each flush succeeds, however
little a write takes. -/
theorem shows_of_takes {sink : Sink}
    (hwrites : ∀ item ∈ sink.writes, item.due ≤ moment ∧ ∃ more, item.event = .take (more + 1))
    (hflushes : ∀ item ∈ sink.flushes, item.due ≤ moment ∧ item.event = .success) (bytes : Bytes) :
    sink.Shows bytes moment (.ok ()) := by
  refine .sent (writes_of_takes hwrites bytes) ?_
  rcases hscript : sink.flushes with - | ⟨⟨due, event⟩, rest⟩
  · exact .rest
  · rw [hscript] at hflushes
    obtain ⟨hdue, hevent⟩ := hflushes _ List.mem_cons_self
    obtain rfl : event = .success := hevent
    exact .success hdue

end Sink

/-- **A frame that fits is written** to a sink that takes everything in time. -/
theorem Writer.writeFrame_of_takesAll {deadline : Option Time} {now : Time} {w : Writer}
    (hnow : Limits.allows deadline now) (h : w.sink.TakesAll deadline) (header : Header)
    {body : Bytes} (hfits : body.length ≤ Frame.maxBody) :
    (w.writeFrame ⟨deadline, none⟩ header body now).1.result? = some (.ok ()) := by
  obtain ⟨moment, hwithin, hshows⟩ := h (Frame.ofBody header body).encode
  obtain ⟨t, hfollows, hwritten⟩ := exists_follows_writeFrame hnow header hfits w
  have hdone := hfollows.outcome_eq_done (w.isLasting_frameBy? _) (frameBy?_eq_some_iff.2 hshows)
    hwithin
  rw [hwritten, Timed.settle, hdone]

/-! ### Courses that deliver a frame -/

namespace Course

variable {settings : ServerSettings} {dispatcher : Dispatcher} {now : Time} {link : Link}
variable {course : Course} {header : Header} {reply : Reply} {deadline : Option Time}
variable {request frame : Frame}

/-- A course brings a frame to the peer, as the next one, and ends with a reply that was written. -/
inductive Delivers (settings : ServerSettings) (dispatcher : Dispatcher) (frame : Frame) :
    Course → Prop
  /-- Its phase sends the frame and nothing else, and reads nothing. -/
  | now {course : Course} (hend : (course.run settings dispatcher none).ending = .replied)
      (hreader : (course.run settings dispatcher none).link.reader = course.link.reader)
      (htaken : (course.run settings dispatcher none).link.writer.sink.taken =
        course.link.writer.sink.taken ++ frame.encode) : Delivers settings dispatcher frame course
  /-- Its phase leaves the stream alone, and the next one brings the frame. -/
  | later {course : Course} {phase : Phase}
      (hend : (course.run settings dispatcher none).ending = .next phase)
      (hlink : (course.run settings dispatcher none).link = course.link)
      (h : Delivers settings dispatcher frame (course.goOn (course.run settings dispatcher none)
        phase)) :
      Delivers settings dispatcher frame course

/-- A reply that fits is delivered at once. -/
theorem delivers_of_replying (hphase : course.phase = .replying header reply deadline)
    (hfits : reply.body.length ≤ Frame.maxBody) (hsince : Limits.allows deadline course.since)
    (htakes : course.link.writer.sink.TakesAll deadline) :
    course.Delivers settings dispatcher (reply.frame header) := by
  have hwrite := Writer.writeFrame_of_takesAll hsince htakes (header.reply reply.code 0) hfits
  obtain ⟨record, hsent, -, hall⟩ := Writer.exists_recorded_writeFrame ⟨deadline, none⟩
    (header.reply reply.code 0) hfits course.since course.link.writer
  have hrun : course.run settings dispatcher none =
      Phase.runReplying dispatcher none header reply deadline course.since course.link := by
    rw [run, hphase, Phase.run]
  refine .now ?_ ?_ ?_
  · simp only [hrun, Phase.runReplying, hwrite]
  · rw [hrun, Phase.runReplying]
  · rw [hrun, Phase.runReplying, Sink.taken_eq_recorded, Sink.taken_eq_recorded, hsent,
      Sink.recorded_append, hall hwrite]
    rfl

/-- **A reply is delivered, or the status that takes its place.** -/
theorem delivers_fitting (hphase : course.phase = .replying header reply deadline)
    (hsince : Limits.allows deadline course.since)
    (htakes : course.link.writer.sink.TakesAll deadline) :
    course.Delivers settings dispatcher ((dispatcher.fitting reply).frame header) := by
  rcases Nat.lt_or_ge Frame.maxBody reply.body.length with hlong | hfits
  · have hrun : (course.run settings dispatcher none).ending =
          .next (.replying header (dispatcher.status .responseTooLarge) deadline) ∧
        (course.run settings dispatcher none).link = course.link ∧
        (course.run settings dispatcher none).time = course.since := by
      rw [run, hphase, Phase.run, Phase.runReplying, Writer.writeFrame_of_lt hlong]
      exact ⟨rfl, rfl, rfl⟩
    obtain ⟨hend, hlink, htime⟩ := hrun
    rw [Dispatcher.fitting_of_lt hlong]
    refine .later hend hlink (delivers_of_replying rfl (dispatcher.length_status_le _) ?_ ?_)
    · rw [goOn, htime]
      exact hsince
    · rw [goOn, hlink]
      exact htakes
  · rw [Dispatcher.fitting_of_le hfits]
    exact delivers_of_replying hphase hfits hsince htakes

/-- **What is owed for a request is delivered** on a stream that takes everything in the window that
opens when the handler is run. -/
theorem delivers_of_answer? (hphase : course.phase = .dispatching request)
    (hanswer : dispatcher.answer? request = some frame)
    (htakes : course.link.writer.sink.TakesAll (deadlineAfter course.since settings.writeTimeout)) :
    course.Delivers settings dispatcher frame := by
  obtain ⟨reply, hreply, rfl⟩ := Option.map_eq_some_iff.1 hanswer
  obtain ⟨hlink, hends⟩ :=
    Phase.runDispatching_spec settings dispatcher request course.since course.link
  have hrun : course.run settings dispatcher none =
      Phase.runDispatching settings dispatcher request course.since course.link := by
    rw [run, hphase, Phase.run]
  have htime : (Phase.runDispatching settings dispatcher request course.since course.link).time =
      course.since := by
    rw [Phase.runDispatching]
    split <;> rfl
  rcases hends with ⟨other, hother, hend⟩ | ⟨hnone, -⟩
  · obtain rfl := Option.some.inj (hreply.symm.trans hother)
    rw [← hrun] at hlink hend htime
    refine .later hend hlink (delivers_fitting rfl ?_ ?_)
    · rw [goOn, htime]
      exact allows_deadlineAfter_iff.2 (.inr (Nat.le_add_right ..))
    · rw [goOn, hlink]
      exact htakes
  · cases hnone.symm.trans hreply

/-- **Whatever reaches a handler is a valid frame.** -/
theorem isValid_of_dispatching (h : Reachable settings dispatcher now link course)
    (hphase : course.phase = .dispatching request) : request.IsValid := by
  rcases ReflTransGen.cases_tail h with rfl | ⟨before, -, hstep⟩
  · cases hphase
  · obtain ⟨-, hfirst⟩ := hstep.first?_of_dispatching hphase
    exact (Frame.eq_append_of_first? hfirst).1

end Course

end FramedExchange
