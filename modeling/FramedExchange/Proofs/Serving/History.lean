import FramedExchange.Proofs.Serving.Course

/-!
# The history of a course

A connection comes to a course by the runs of its earlier phases (`Course.Came`). Their happenings
say which requests have been given to the handlers so far, and their endings which requests have
been received. What a phase adds to the former is what is in hand while it runs (`Phase.inHand`),
and what it adds to the latter is what is in hand in the phase that follows.

A dispatched request is unanswered while its reply is written, and for ever if there is none or its
writing fails (`Phase.unanswered`). So one phase after another, the requests that have been
dispatched are counted by the replies that have been written and those unanswered
(`Course.count_run`).

A phase consults the handlers about the request in hand and about nothing else
(`Phase.run_congr`).
-/

namespace FramedExchange

/-- The request that something happened to, if it was given to its handler. -/
def Happening.dispatched? : Happening → Option Frame
  | .dispatched request => some request
  | _ => none

namespace PhaseRun

/-- The requests that were given to their handlers in a run, in their order. -/
def dispatched (run : PhaseRun) : List Frame := run.happenings.filterMap Happening.dispatched?

/-- The request with which a run ended, if reading has got one. -/
def received (run : PhaseRun) : List Frame :=
  match run.ending with
  | .next (.dispatching request) => [request]
  | _ => []

end PhaseRun

namespace Phase

/-- The request that has been received and not yet given to its handler. -/
def inHand : Phase → List Frame
  | dispatching request => [request]
  | _ => []

/-- How many requests have been given to their handlers whose replies have not been written to
their end. -/
def unanswered : Phase → ℕ
  | replying .. => 1
  | closing .handlerPanic => 1
  | closing (.write _) => 1
  | _ => 0

theorem unanswered_le (phase : Phase) : phase.unanswered ≤ 1 := by
  unfold unanswered
  split <;> omega

variable {settings : ServerSettings} {dispatcher : Dispatcher} {horizon : Option Time}
variable {now : Time} {link : Link} {phase : Phase}

/-- **Each run gives the request in hand to its handler**, once, and no other. -/
theorem dispatched_run (settings : ServerSettings) (dispatcher : Dispatcher)
    (horizon : Option Time) (phase : Phase) (now : Time) (link : Link) :
    (phase.run settings dispatcher horizon now link).dispatched = phase.inHand := by
  cases phase with
  | idle | closing => rfl
  | reading =>
    simp only [run, runReading, PhaseRun.dispatched]
    split <;> rfl
  | dispatching request =>
    simp only [run, runDispatching, PhaseRun.dispatched]
    cases (dispatcher.dispatch request).beginsShutdown <;> split <;> rfl
  | replying header reply deadline =>
    simp only [run, runReplying, PhaseRun.dispatched]
    split <;> rfl

/-- What a run has received is in hand in the phase that follows. -/
theorem received_of_leadsTo {run : PhaseRun} (h : run.ending.LeadsTo phase) :
    run.received = phase.inHand := by
  rcases hend : run.ending with next | - | reason | -
  all_goals
    rw [hend] at h
    rw [PhaseRun.received, hend]
    cases h
  · cases phase <;> rfl
  · rfl
  · rfl

/-- **A run consults the handlers about the request in hand and about nothing else.** -/
theorem run_congr {other : Dispatcher} (hconvention : other.convention = dispatcher.convention)
    (hsame : ∀ request ∈ phase.inHand, other.dispatch request = dispatcher.dispatch request) :
    phase.run settings other horizon now link =
      phase.run settings dispatcher horizon now link := by
  have hstatus : other.status = dispatcher.status := by
    cases other <;> cases dispatcher <;> first | rfl | cases hconvention
  cases phase with
  | idle | reading | closing => rfl
  | dispatching request =>
    have hrecover : other.recover? = dispatcher.recover? := by
      cases other <;> cases dispatcher <;> first | rfl | cases hconvention
    simp only [run, runDispatching, hrecover, hsame request List.mem_cons_self]
  | replying header reply deadline => simp only [run, runReplying, hstatus]

end Phase

namespace Course

variable (settings : ServerSettings) (dispatcher : Dispatcher)

/-- A connection that has been served from a moment on has come to a course by the runs of its
phases before. -/
inductive Came (now : Time) (link : Link) : List PhaseRun → Course → Prop
  | start : Came now link [] (start now link)
  | goOn {runs : List PhaseRun} {course : Course} {horizon : Option Time} {server : Server}
      {phase : Phase} (hcame : Came now link runs course) (hsettings : server.settings = settings)
      (hnext : Connection.progressOf server (course.run settings dispatcher horizon).ending =
        .next phase) :
      Came now link (runs ++ [course.run settings dispatcher horizon])
        (course.goOn (course.run settings dispatcher horizon) phase)

variable {settings dispatcher} {now : Time} {link : Link} {runs : List PhaseRun} {course : Course}

theorem Came.reachable (h : Came settings dispatcher now link runs course) :
    Reachable settings dispatcher now link course := by
  induction h with
  | start => exact .refl
  | goOn _ hsettings hnext ih => exact ih.tail (.goOn hsettings hnext)

/-- Whatever course serving can come to, it has come to by some runs. -/
theorem exists_came_of_reachable (h : Reachable settings dispatcher now link course) :
    ∃ runs, Came settings dispatcher now link runs course := by
  induction h with
  | refl => exact ⟨[], .start⟩
  | tail _ hstep ih =>
    obtain ⟨runs, hcame⟩ := ih
    obtain ⟨hsettings, hnext⟩ := hstep
    exact ⟨_, hcame.goOn hsettings hnext⟩

/-- The requests that were given to their handlers in runs, in their order. -/
def dispatched (runs : List PhaseRun) : List Frame := runs.flatMap PhaseRun.dispatched

/-- The requests that were received in runs, in their order. -/
def received (runs : List PhaseRun) : List Frame := runs.flatMap PhaseRun.received

theorem dispatched_append_run (runs : List PhaseRun) (course : Course) (horizon : Option Time) :
    dispatched (runs ++ [course.run settings dispatcher horizon]) =
      dispatched runs ++ course.phase.inHand := by
  have hdone : (course.run settings dispatcher horizon).dispatched = course.phase.inHand :=
    Phase.dispatched_run ..
  rw [dispatched, List.flatMap_append, List.flatMap_singleton, hdone, dispatched]

/-- **What is received is dispatched next.** -/
theorem Came.received_eq (h : Came settings dispatcher now link runs course) :
    received runs = dispatched runs ++ course.phase.inHand := by
  induction h with
  | start => rfl
  | goOn _ _ hnext ih =>
    have hmore := Phase.received_of_leadsTo (Connection.leadsTo_of_progressOf hnext)
    rw [received, List.flatMap_append, List.flatMap_singleton, hmore, dispatched_append_run, ← ih]
    rfl

/-! ### Counting -/

section Counting

variable {horizon : Option Time} {following : Phase}

/-- **Each phase keeps the count**: the request in hand is given to its handler and is unanswered
until its reply has been written. -/
theorem count_run (hleads : (course.run settings dispatcher horizon).ending.LeadsTo following) :
    (course.repliedAfter (course.run settings dispatcher horizon).ending).length +
        following.unanswered =
      course.replied.length + course.phase.unanswered + course.phase.inHand.length := by
  obtain ⟨phase, since, link, replied⟩ := course
  have hends := Phase.ends_run settings dispatcher horizon phase since link
  rw [run] at hleads ⊢
  generalize (phase.run settings dispatcher horizon since link).ending = ending at hleads hends ⊢
  cases hends with
  | @replied header reply =>
    show (replied ++ [reply.frame header]).length + following.unanswered = replied.length + 1
    rw [List.length_append, List.length_singleton]
    cases hleads <;> rfl
  | closed | hanging => cases hleads
  | _ =>
    cases hleads
    rfl

end Counting

/-- **The requests that have been dispatched** are as many as the replies that have been written
and the one that is unanswered, if any is. -/
theorem Came.length_dispatched (h : Came settings dispatcher now link runs course) :
    (dispatched runs).length = course.replied.length + course.phase.unanswered := by
  induction h with
  | start => rfl
  | goOn _ _ hnext ih =>
    rw [dispatched_append_run, List.length_append, ih,
      ← count_run (Connection.leadsTo_of_progressOf hnext)]
    rfl

end Course

end FramedExchange
