import FramedExchange.Proofs.Serving.Commitment

/-!
# How many phases can follow

Serving goes round for one request after another, and a reply that is too large leads to another
reply. Every phase either reads a request, which takes the bytes of a header at least, or comes
nearer to the closing (`Course.Step.nears`). So as many phases can follow as the phase allows
without another request (`Phase.remaining`), and five more for each request that the unread bytes
can still hold (`Course.bound`).

A phase of one kind comes round again only behind a request that has been read, or as the reply that
takes the place of one (`Course.taken_of_cycle`), and a reply is replaced once at most
(`Course.Came.countP_beginsReply_le`).
-/

namespace FramedExchange

open Relation

/-- Whether the writing of a reply follows a run. -/
def PhaseRun.beginsReply (run : PhaseRun) : Bool :=
  match run.ending with
  | .next (.replying ..) => true
  | _ => false

namespace Phase

variable {settings : ServerSettings} {dispatcher : Dispatcher} {horizon : Option Time}
variable {now : Time} {link : Link} {phase : Phase}

/-- How many phases can follow if no further request is read. -/
def remaining : Phase → ℕ
  | idle => 2
  | reading => 1
  | dispatching _ => 5
  | replying _ reply _ => if Frame.maxBody < reply.body.length then 4 else 3
  | closing _ => 0

theorem remaining_replying_of_lt {reply : Reply} (h : Frame.maxBody < reply.body.length)
    (header : Header) (deadline : Option Time) : (replying header reply deadline).remaining = 4 :=
  if_pos h

theorem remaining_replying_of_le {reply : Reply} (h : reply.body.length ≤ Frame.maxBody)
    (header : Header) (deadline : Option Time) : (replying header reply deadline).remaining = 3 :=
  if_neg (Nat.not_lt.2 h)

theorem remaining_replying_le (header : Header) (reply : Reply) (deadline : Option Time) :
    (replying header reply deadline).remaining ≤ 4 := by
  rw [remaining]
  split <;> decide

theorem le_remaining_replying (header : Header) (reply : Reply) (deadline : Option Time) :
    3 ≤ (replying header reply deadline).remaining := by
  rw [remaining]
  split <;> decide

/-- How many other replies can take the place of the one that is being written. -/
def replacements : Phase → ℕ
  | replying _ reply _ => if Frame.maxBody < reply.body.length then 1 else 0
  | _ => 0

theorem replacements_le (phase : Phase) : phase.replacements ≤ 1 := by
  unfold replacements
  split
  · split <;> decide
  · decide

/-- Behind the running of a handler the writing of a reply begins only where one is replaced. -/
theorem countP_beginsReply_run_le {next : Phase} (hnothing : phase.inHand = [])
    (h : (phase.run settings dispatcher horizon now link).ending.LeadsTo next) :
    [phase.run settings dispatcher horizon now link].countP PhaseRun.beginsReply +
      next.replacements ≤ phase.replacements := by
  rw [List.countP_singleton, PhaseRun.beginsReply]
  have hends := ends_run settings dispatcher horizon phase now link
  generalize (phase.run settings dispatcher horizon now link).ending = ending at h hends
  cases hends with
  | handled | notHandled => cases hnothing
  | replaced hlong =>
    cases h
    have hfits := Dispatcher.length_status_le dispatcher .responseTooLarge
    rw [replacements, replacements, if_pos hlong, if_neg (Nat.not_lt.2 hfits)]
    exact Nat.le_refl 1
  | closed | hanging => cases h
  | _ => cases h <;> exact Nat.zero_le _

/-- Phases in which the same is being done, each time perhaps for another request. -/
inductive SameKind : Phase → Phase → Prop
  | idle : SameKind .idle .idle
  | reading : SameKind .reading .reading
  | dispatching (request request' : Frame) : SameKind (.dispatching request) (.dispatching request')
  | replying (header : Header) (reply : Reply) (deadline : Option Time) (header' : Header)
      (reply' : Reply) (deadline' : Option Time) :
      SameKind (.replying header reply deadline) (.replying header' reply' deadline')
  | closing (reason reason' : CloseReason) : SameKind (.closing reason) (.closing reason')

/-- What is unread after a phase is the rest of what was unread before. -/
theorem unread_run_suffix (settings : ServerSettings) (dispatcher : Dispatcher)
    (horizon : Option Time) (phase : Phase) (now : Time) (link : Link) :
    (phase.run settings dispatcher horizon now link).link.reader.unread <:+ link.reader.unread := by
  cases phase with
  | idle =>
    obtain ⟨-, hkeep, -⟩ := runIdle_spec settings horizon now link
    exact hkeep ▸ List.suffix_refl _
  | reading => exact Reader.unread_readFrame_suffix ..
  | dispatching request =>
    obtain ⟨hlink, -⟩ := runDispatching_spec settings dispatcher request now link
    have hkeep := congrArg (·.reader.unread) hlink
    exact hkeep ▸ List.suffix_refl _
  | replying header reply deadline => exact List.suffix_refl _
  | closing reason => exact List.suffix_refl _

/-- A phase other than reading that another phase follows comes nearer to the closing. -/
theorem remaining_lt_of_leadsTo {next : Phase} (hreading : phase ≠ .reading)
    (h : (phase.run settings dispatcher horizon now link).ending.LeadsTo next) :
    next.remaining < phase.remaining := by
  have hends := ends_run settings dispatcher horizon phase now link
  generalize (phase.run settings dispatcher horizon now link).ending = ending at h hends
  cases hends with
  | woken =>
    cases h
    exact Nat.lt_succ_self 1
  | gone | expired | failed | notHandled =>
    cases h
    exact Nat.succ_pos _
  | read | notBegun | notRead => exact absurd rfl hreading
  | handled =>
    cases h
    exact Nat.lt_succ_of_le (remaining_replying_le ..)
  | replaced hlong =>
    cases h
    rw [remaining_replying_of_lt hlong,
      remaining_replying_of_le (Dispatcher.length_status_le dispatcher .responseTooLarge)]
    exact Nat.lt_succ_self 3
  | replied hfits =>
    rw [remaining_replying_of_le hfits]
    cases h <;> decide
  | notReplied hfits =>
    cases h
    rw [remaining_replying_of_le hfits]
    exact Nat.succ_pos _
  | closed | hanging => cases h

end Phase

namespace Course

variable {settings : ServerSettings} {dispatcher : Dispatcher} {now : Time} {link : Link}
variable {runs : List PhaseRun} {course next : Course}

/-! ### A bound -/

/-- How many bytes are still to be read. -/
def ahead (course : Course) : ℕ := course.link.reader.unread.length

/-- How many phases can follow a course at most. -/
def bound (course : Course) : ℕ := 5 * (course.ahead / Header.size) + course.phase.remaining

/-- **Each step comes nearer to the closing, or a request has been read**: at least the bytes of its
header. -/
theorem Step.nears (h : Step settings dispatcher course next)
    (hbegun : course.phase = .reading → course.link.reader.buffered ≠ 0) :
    next.ahead ≤ course.ahead ∧
      (next.phase.remaining < course.phase.remaining ∨
        course.phase = .reading ∧ (∃ request, next.phase = .dispatching request) ∧
          next.ahead + Header.size ≤ course.ahead) := by
  obtain ⟨horizon, hleads, hnext⟩ := h.exists_run
  have hahead : next.ahead =
      (course.run settings dispatcher horizon).link.reader.unread.length := by
    rw [hnext]
    rfl
  refine ⟨?_, ?_⟩
  · rw [hahead]
    exact (Phase.unread_run_suffix ..).length_le
  · by_cases hreading : course.phase = .reading
    · rcases h.follows_reading hreading (hbegun hreading) with ⟨request, hphase⟩ |
        ⟨error, hphase, -⟩
      · refine .inr ⟨hreading, ⟨request, hphase⟩, ?_⟩
        obtain ⟨-, hfirst⟩ := h.first?_of_dispatching hphase
        obtain ⟨-, hunread⟩ := Frame.eq_append_of_first? hfirst
        rw [ahead, ahead, hunread, List.length_append, Frame.length_encode]
        omega
      · rw [hphase, hreading]
        exact .inl (Nat.succ_pos _)
    · exact .inl (Phase.remaining_lt_of_leadsTo hreading hleads)

theorem Step.bound_lt (h : Step settings dispatcher course next)
    (hbegun : course.phase = .reading → course.link.reader.buffered ≠ 0) :
    next.bound < course.bound := by
  obtain ⟨hahead, hremaining | ⟨hphase, ⟨request, hnext⟩, htaken⟩⟩ := h.nears hbegun
  · have hdiv : next.ahead / Header.size ≤ course.ahead / Header.size := Nat.div_le_div_right hahead
    rw [bound, bound]
    omega
  · have hdiv : next.ahead / Header.size + 1 ≤ course.ahead / Header.size := by
      rw [← Nat.add_div_right next.ahead (by decide : 0 < Header.size)]
      exact Nat.div_le_div_right htaken
    rw [bound, bound, hphase, hnext, Phase.remaining, Phase.remaining]
    omega

/-- **The runs so far and those that can follow** are as many as the unread bytes allow. -/
theorem Came.length_add_bound_le (h : Came settings dispatcher now link runs course) :
    runs.length + course.bound ≤ 5 * (link.reader.unread.length / Header.size) + 2 := by
  induction h with
  | start => exact (Nat.zero_add _).le
  | @goOn runs course horizon server phase hcame hsettings hnext ih =>
    have hlt := (Step.goOn hsettings hnext).bound_lt (buffered_of_reading hcame.reachable)
    rw [List.length_append, List.length_singleton]
    omega

/-- **Between two courses a request has been read, or the later one is nearer to the closing.** -/
theorem ahead_of_steps (hreach : Reachable settings dispatcher now link course)
    (h : TransGen (Step settings dispatcher) course next) :
    next.ahead ≤ course.ahead ∧
      (next.phase.remaining < course.phase.remaining ∨
        next.ahead + Header.size ≤ course.ahead) := by
  induction h with
  | single hstep =>
    obtain ⟨hahead, hremaining | ⟨-, -, htaken⟩⟩ := hstep.nears (buffered_of_reading hreach)
    · exact ⟨hahead, .inl hremaining⟩
    · exact ⟨hahead, .inr htaken⟩
  | tail hsteps hstep ih =>
    obtain ⟨hahead, hremaining | ⟨-, -, htaken⟩⟩ :=
      hstep.nears (buffered_of_reading (hreach.trans hsteps.to_reflTransGen))
    · exact ⟨by omega, by omega⟩
    · exact ⟨by omega, by omega⟩

/-- The status that takes the place of a reply that is too large is the only thing that can
follow it. -/
theorem Step.replaced (h : Step settings dispatcher course next) {header : Header} {reply : Reply}
    {deadline : Option Time} (hphase : course.phase = .replying header reply deadline)
    (hlong : Frame.maxBody < reply.body.length) :
    next.phase = .replying header (dispatcher.status .responseTooLarge) deadline := by
  obtain ⟨horizon, hleads, -⟩ := h.exists_run
  have hend := (Phase.runReplying_of_lt dispatcher horizon header hlong deadline course.since
    course.link).2
  rw [run, hphase, Phase.run, hend] at hleads
  generalize next.phase = phase at hleads ⊢
  cases hleads
  rfl

/-- **Whenever a phase of one kind comes round again, a request has been read**, except that the
reply that follows one that is too large is its replacement. -/
theorem taken_of_cycle (hreach : Reachable settings dispatcher now link course)
    (h : TransGen (Step settings dispatcher) course next)
    (hkind : course.phase.SameKind next.phase) :
    next.ahead + Header.size ≤ course.ahead ∨
      ∃ header reply deadline, course.phase = .replying header reply deadline ∧
        Frame.maxBody < reply.body.length ∧
        next.phase = .replying header (dispatcher.status .responseTooLarge) deadline := by
  obtain ⟨-, hnearer | htaken⟩ := ahead_of_steps hreach h
  · generalize hphase : course.phase = phase at hkind hnearer
    generalize hnext : next.phase = following at hkind hnearer
    cases hkind with
    | replying header reply deadline header' reply' deadline' =>
      have hlong : Frame.maxBody < reply.body.length := by
        by_contra hfits
        rw [Phase.remaining_replying_of_le (Nat.not_lt.1 hfits)] at hnearer
        exact absurd (Phase.le_remaining_replying header' reply' deadline') (Nat.not_le.2 hnearer)
      obtain ⟨mid, hstep, hsteps⟩ := TransGen.head'_iff.1 h
      have hmid := hstep.replaced hphase hlong
      rcases reflTransGen_iff_eq_or_transGen.1 hsteps with rfl | hmore
      · exact .inr ⟨header, reply, deadline, rfl, hlong, hnext.symm.trans hmid⟩
      · -- nothing that follows the replacement is a reply again before a request has been read
        obtain ⟨hkept, -⟩ := hstep.nears (buffered_of_reading hreach)
        obtain ⟨-, hcloser | htaken⟩ := ahead_of_steps (hreach.tail hstep) hmore
        · rw [hmid, hnext, Phase.remaining_replying_of_le
            (Dispatcher.length_status_le dispatcher .responseTooLarge)] at hcloser
          exact absurd (Phase.le_remaining_replying header' reply' deadline') (Nat.not_le.2 hcloser)
        · exact .inl (htaken.trans hkept)
    | _ => exact absurd hnearer (Nat.lt_irrefl _)
  · exact .inl htaken

/-! ### How often a reply is begun -/

/-- **Between the running of one handler and the next, the writing of a reply begins twice
at most.** -/
theorem Came.countP_beginsReply_le (h : Came settings dispatcher now link runs course)
    {before after : List PhaseRun} {first : PhaseRun} (hruns : runs = before ++ first :: after)
    (hlater : dispatched after = []) :
    (first :: after).countP PhaseRun.beginsReply + course.phase.replacements ≤ 2 := by
  induction h generalizing after with
  | start => exact absurd hruns (List.append_ne_nil_of_right_ne_nil _ (List.cons_ne_nil _ _)).symm
  | @goOn runs course horizon server phase hcame hsettings hnext ih =>
    have hleads := Connection.leadsTo_of_progressOf hnext
    show (first :: after).countP PhaseRun.beginsReply + phase.replacements ≤ 2
    rcases after.eq_nil_or_concat with rfl | ⟨init, last, rfl⟩
    · have hone : [first].countP PhaseRun.beginsReply ≤ 1 := List.countP_le_length
      have hleft := phase.replacements_le
      omega
    · rw [List.concat_eq_append] at hruns hlater ⊢
      rw [← List.cons_append, ← List.append_assoc] at hruns
      obtain ⟨hinit, hlast⟩ := List.append_inj' hruns rfl
      obtain rfl : course.run settings dispatcher horizon = last := List.singleton_inj.1 hlast
      rw [dispatched_append_run, List.append_eq_nil_iff] at hlater
      have hsofar := ih hinit hlater.1
      have hmore : [course.run settings dispatcher horizon].countP PhaseRun.beginsReply +
          phase.replacements ≤ course.phase.replacements :=
        Phase.countP_beginsReply_run_le hlater.2 hleads
      rw [← List.cons_append, List.countP_append]
      omega

end Course

end FramedExchange
