import FramedExchange.Proofs.Serving.Alike
import FramedExchange.Proofs.Session.Interleaving

/-!
# Connections are isolated from each other

What a connection does on its stream depends on its plan and on nothing that the others do, as long
as nobody else makes the server shut down. Neither does it depend on the sizes of buffers or on the
pool from which it gets them.

Strands agree if they are at the same point of the same plan, with connections that agree
(`Strand.Agree`). On servers that are alike they go on alike (`Strand.Agree.advance`), and an event
of another strand leaves a server alike (`AgreeAt.happen_of_ne`). So after any interleaving a strand
is where it would be after as many events of its own and none of the others (`AgreeAt.play`). Two
interleavings with as many events of the strand are compared by way of that, and the end of its
serving is the one that the connection has when it is served directly (`exists_served_of_serve`).
-/

namespace FramedExchange

/-- A server on which others have done something is alike as before, if they have not made it shut
down. -/
theorem Server.Alike.of_persists {server₁ after server₂ : Server} (h : server₁.Alike server₂)
    (hpersists : server₁.Persists after)
    (hflag : after.isShuttingDown = server₁.isShuttingDown) : after.Alike server₂ where
  settings := hpersists.settings ▸ h.settings
  dispatcher := hpersists.dispatcher.trans h.dispatcher
  isShuttingDown := hflag.trans h.isShuttingDown
  isClean₁ := hpersists.isClean h.isClean₁
  isClean₂ := h.isClean₂

theorem Server.Alike.right {server₁ server₂ : Server} (h : server₁.Alike server₂) :
    server₂.Alike server₂ :=
  ⟨⟨rfl, rfl, rfl, rfl⟩, rfl, rfl, h.isClean₂, h.isClean₂⟩

/-! ### One strand -/

namespace Strand

/-- The milestones of a strand, without what they say about the server. -/
def milestones (strand : Strand) : List (Milestone × Time × Bool) :=
  strand.steps.map fun step ↦ (step.milestone, step.time, step.isClosed)

/-- How the serving of the connection has ended, if it has: with a reason unless it was
abandoned. -/
def served? (strand : Strand) : Option (Option CloseReason) :=
  strand.milestones.findSome? fun (milestone, _) ↦
    match milestone with
    | .performed .serve reason? => some reason?
    | _ => none

/-- Milestones are never taken back. -/
theorem milestones_prefix_advance (horizon : Option Time) (strand : Strand) (server : Server) :
    strand.milestones <+: (strand.advance horizon server).1.milestones := by
  have hmore (milestone : Milestone) (connection : Connection) (server : Server) (stage : Stage)
      (time : Time) : strand.milestones <+:
        (noteDown milestone connection server
          { strand with stage := stage, time := time }).milestones := by
    simp only [milestones, noteDown, List.map_append]
    exact List.prefix_append _ _
  have hfollow (action : Connection.Action) (actions : List Connection.Action) (now : Time)
      (went : Progress × Connection × Server) :
      strand.milestones <+: (strand.follow horizon action actions now went).1.milestones := by
    obtain ⟨progress, connection, server⟩ := went
    cases progress with
    | next phase => exact List.prefix_refl _
    | closed reason => exact hmore ..
    | abandoned => exact hmore ..
  rcases hstage : strand.stage with - | ⟨connection, - | ⟨action, actions⟩⟩ |
    ⟨connection, action, run, actions⟩ | connection
  all_goals simp only [advance, hstage]
  · exact hmore ..
  · exact hmore ..
  · exact hfollow ..
  · exact hfollow ..
  · exact List.prefix_refl _

/-- A connection that has been served stays so. -/
theorem served?_advance {result : Option CloseReason} {strand : Strand}
    (h : strand.served? = some result) (horizon : Option Time) (server : Server) :
    (strand.advance horizon server).1.served? = some result := by
  obtain ⟨more, hmore⟩ := strand.milestones_prefix_advance horizon server
  rw [served?] at h ⊢
  rw [← hmore, List.findSome?_append, h, Option.some_or]

end Strand

/-- Stages that differ at most in the buffers of the connections. -/
inductive Stage.Agree (now : Time) : Stage → Stage → Prop
  | unopened : Agree now .unopened .unopened
  | between {connection₁ connection₂ : Connection} (actions : List Connection.Action) :
      connection₁.Agree connection₂ now →
      Agree now (.between connection₁ actions) (.between connection₂ actions)
  | inPhase {connection₁ connection₂ : Connection} {run₁ run₂ : PhaseRun}
      (action : Connection.Action) (actions : List Connection.Action) :
      connection₁.Agree connection₂ now → run₁.Agree run₂ →
      Agree now (.inPhase connection₁ action run₁ actions)
        (.inPhase connection₂ action run₂ actions)
  | dropped {connection₁ connection₂ : Connection} :
      connection₁.Agree connection₂ now → Agree now (.dropped connection₁) (.dropped connection₂)

namespace Strand

/-- Strands that are at the same point of the same plan, whatever their buffers are. -/
structure Agree (strand₁ strand₂ : Strand) : Prop where
  plan : strand₁.plan = strand₂.plan
  burst_pos : 0 < strand₁.plan.source.burst
  time : strand₁.time = strand₂.time
  milestones : strand₁.milestones = strand₂.milestones
  stage : Stage.Agree strand₁.time strand₁.stage strand₂.stage

variable {strand₁ strand₂ : Strand} {server₁ server₂ : Server}

theorem Agree.start (now : Time) {plan : Plan} (hburst : 0 < plan.source.burst) :
    (start now plan).Agree (start now plan) :=
  ⟨rfl, hburst, rfl, rfl, .unopened⟩

/-- Strands that agree have sent the same. -/
theorem Agree.sent (h : strand₁.Agree strand₂) : strand₁.sent = strand₂.sent := by
  obtain ⟨plan₁, stage₁, time₁, steps₁⟩ := strand₁
  obtain ⟨plan₂, stage₂, time₂, steps₂⟩ := strand₂
  obtain ⟨-, -, -, -, hstage⟩ := h
  cases hstage with
  | unopened => rfl
  | between actions hconnection => exact congrArg Sink.sent hconnection.link.sink
  | inPhase action actions hconnection hrun => exact congrArg Sink.sent hconnection.link.sink
  | dropped hconnection => exact congrArg Sink.sent hconnection.link.sink

/-- The same is going to happen in their next events. -/
theorem Agree.happenings (h : strand₁.Agree strand₂) :
    strand₁.happenings = strand₂.happenings := by
  obtain ⟨plan₁, stage₁, time₁, steps₁⟩ := strand₁
  obtain ⟨plan₂, stage₂, time₂, steps₂⟩ := strand₂
  obtain ⟨-, -, -, -, hstage⟩ := h
  cases hstage with
  | inPhase action actions hconnection hrun => exact hrun.happenings
  | unopened | between | dropped => rfl

theorem Agree.served? (h : strand₁.Agree strand₂) : strand₁.served? = strand₂.served? := by
  rw [Strand.served?, Strand.served?, h.milestones]

/-- Strands stay in agreement where they come to stages that agree at some moment. -/
theorem Agree.moveTo (h : strand₁.Agree strand₂) {now : Time} {stage₁ stage₂ : Stage}
    (hstage : stage₁.Agree now stage₂) :
    Agree { strand₁ with time := now, stage := stage₁ }
      { strand₂ with time := now, stage := stage₂ } :=
  ⟨h.plan, h.burst_pos, rfl, h.milestones, hstage⟩

/-- A milestone says the same about connections that agree. -/
theorem Agree.noteDown (h : strand₁.Agree strand₂) (milestone : Milestone)
    {connection₁ connection₂ : Connection} (hclosed : connection₁.isClosed = connection₂.isClosed)
    (server₁ server₂ : Server) :
    (strand₁.noteDown milestone connection₁ server₁).Agree
      (strand₂.noteDown milestone connection₂ server₂) := by
  refine ⟨h.plan, h.burst_pos, h.time, ?_, h.stage⟩
  have hbefore : strand₁.steps.map (fun step ↦ (step.milestone, step.time, step.isClosed)) =
      strand₂.steps.map (fun step ↦ (step.milestone, step.time, step.isClosed)) := h.milestones
  simp only [Strand.milestones, Strand.noteDown, List.map_append, List.map_singleton, hbefore,
    h.time, hclosed]

/-- **Strands that agree follow an action alike.** -/
theorem Agree.follow (h : strand₁.Agree strand₂) {now₁ now₂ : Time} (hnow : now₁ = now₂)
    {went₁ went₂ : Progress × Connection × Server}
    (hwent : Connection.GoesOnAlike went₁ went₂ now₁) (horizon : Option Time)
    (action : Connection.Action) (actions : List Connection.Action) :
    (strand₁.follow horizon action actions now₁ went₁).1.Agree
        (strand₂.follow horizon action actions now₂ went₂).1 ∧
      (strand₁.follow horizon action actions now₁ went₁).2.Alike
        (strand₂.follow horizon action actions now₂ went₂).2 := by
  subst hnow
  rw [server_follow, server_follow]
  refine ⟨?_, hwent.server⟩
  obtain ⟨progress, connection₁, server₁⟩ := went₁
  obtain ⟨progress₂, connection₂, server₂⟩ := went₂
  obtain ⟨hprogress, hconnection, hserver⟩ := hwent
  obtain rfl : progress = progress₂ := hprogress
  cases progress with
  | next phase =>
    -- a phase that follows is run at once, and the runs agree because the links do
    have hrun := Phase.run_agree hserver.settings hconnection.link server₁.dispatcher horizon phase
    rw [Strand.follow, Strand.follow, ← hserver.dispatcher]
    exact h.moveTo (.inPhase action actions hconnection hrun)
  | closed reason =>
    exact (h.moveTo (.between actions hconnection)).noteDown _ hconnection.isClosed _ _
  | abandoned =>
    exact (h.moveTo (.between actions hconnection)).noteDown _ hconnection.isClosed _ _

/-- **Strands that agree go on alike** on servers that are alike. -/
theorem Agree.advance (h : strand₁.Agree strand₂) (hservers : server₁.Alike server₂)
    (horizon : Option Time) :
    (strand₁.advance horizon server₁).1.Agree (strand₂.advance horizon server₂).1 ∧
      (strand₁.advance horizon server₁).2.Alike (strand₂.advance horizon server₂).2 := by
  obtain ⟨plan, stage₁, time, steps₁⟩ := strand₁
  obtain ⟨plan₂, stage₂, time₂, steps₂⟩ := strand₂
  obtain rfl : plan = plan₂ := h.plan
  obtain rfl : time = time₂ := h.time
  have hstage : stage₁.Agree time stage₂ := h.stage
  -- stages that agree are of one kind, so the two strands do the same
  cases hstage with
  | unopened =>
    have hbegun : Server.Alike (if plan.shutsDownFirst then server₁.beginShutdown else server₁)
        (if plan.shutsDownFirst then server₂.beginShutdown else server₂) := by
      split
      · exact hservers.beginShutdown
      · exact hservers
    obtain ⟨hconnection, halike⟩ :=
      hbegun.openConnection plan.name h.burst_pos plan.sink time
    exact ⟨(h.moveTo (.between plan.actions hconnection)).noteDown _ rfl _ _, halike⟩
  | @between connection₁ connection₂ actions hconnection =>
    cases actions with
    | nil =>
      obtain ⟨hfinished, halike⟩ := Connection.finish_agree hconnection hservers
      exact ⟨(h.moveTo (.dropped hfinished)).noteDown _ rfl _ _, halike⟩
    | cons action actions =>
      have hwent := Connection.begin_agree hconnection hservers action
      exact h.follow rfl hwent horizon action actions
  | @inPhase connection₁ connection₂ run₁ run₂ action actions hconnection hrun =>
    have hwent := Connection.commit_agree hconnection hservers hrun
    exact h.follow hrun.time hwent horizon action actions
  | dropped hconnection => exact ⟨h, hservers⟩

end Strand

/-! ### Sessions -/

namespace Session

/-- What the connection at a place has sent, and its milestones. -/
def viewAt (place : ℕ) (session : Session) : Option (List Sent × List (Milestone × Time × Bool)) :=
  session.strands[place]?.map fun strand ↦ (strand.sent, strand.milestones)

/-- How the serving of the connection at a place has ended, if it has. -/
def servedAt? (place : ℕ) (session : Session) : Option (Option CloseReason) :=
  session.strands[place]?.bind Strand.served?

/-- What happens to the server in an event of the strand at a place. -/
def happeningsAt (place : ℕ) (session : Session) : List Happening :=
  match session.strands[place]? with
  | some strand => strand.happenings
  | none => []

/-- What happens to the server in the events of the strand at a place: the samples of its reads and
writes, and its requests and panics. -/
def recordAt (horizon : Option Time) (place : ℕ) : List Event → Session → List Happening
  | [], _ => []
  | event :: events, session =>
    (if event = .advance place then session.happeningsAt place else []) ++
      recordAt horizon place events (session.happen horizon event)

/-- In none of the events that are not of the strand at a place, the server begins to shut down. -/
def IsUndisturbed (horizon : Option Time) (place : ℕ) : List Event → Session → Prop
  | [], _ => True
  | event :: events, session =>
    (event ≠ .advance place →
      (session.happen horizon event).server.isShuttingDown = session.server.isShuttingDown) ∧
    IsUndisturbed horizon place events (session.happen horizon event)

instance decidableIsUndisturbed (horizon : Option Time) (place : ℕ) :
    ∀ (events : List Event) (session : Session),
      Decidable (session.IsUndisturbed horizon place events)
  | [], _ => isTrue trivial
  | event :: events, session =>
    have := decidableIsUndisturbed horizon place events (session.happen horizon event)
    inferInstanceAs (Decidable (_ ∧ _))

/-- The strands at places of two sessions agree, and their servers are alike. -/
def AgreeAt (session₁ session₂ : Session) (place₁ place₂ : ℕ) : Prop :=
  ∃ strand₁ strand₂, session₁.strands[place₁]? = some strand₁ ∧
    session₂.strands[place₂]? = some strand₂ ∧ strand₁.Agree strand₂ ∧
    session₁.server.Alike session₂.server

section AgreeAt

variable {session₁ session₂ : Session} {place₁ place₂ : ℕ} {horizon : Option Time}

theorem AgreeAt.viewAt (h : session₁.AgreeAt session₂ place₁ place₂) :
    session₁.viewAt place₁ = session₂.viewAt place₂ := by
  obtain ⟨strand₁, strand₂, hstrand₁, hstrand₂, hagree, -⟩ := h
  rw [Session.viewAt, Session.viewAt, hstrand₁, hstrand₂, Option.map_some, Option.map_some,
    hagree.sent, hagree.milestones]

theorem AgreeAt.servedAt? (h : session₁.AgreeAt session₂ place₁ place₂) :
    session₁.servedAt? place₁ = session₂.servedAt? place₂ := by
  obtain ⟨strand₁, strand₂, hstrand₁, hstrand₂, hagree, -⟩ := h
  rw [Session.servedAt?, Session.servedAt?, hstrand₁, hstrand₂, Option.bind_some, Option.bind_some,
    hagree.served?]

theorem AgreeAt.happeningsAt (h : session₁.AgreeAt session₂ place₁ place₂) :
    session₁.happeningsAt place₁ = session₂.happeningsAt place₂ := by
  obtain ⟨strand₁, strand₂, hstrand₁, hstrand₂, hagree, -⟩ := h
  simp only [Session.happeningsAt, hstrand₁, hstrand₂, hagree.happenings]

/-- **Strands that agree go on alike** where it is their turn in both sessions. -/
theorem AgreeAt.happen_advance (h : session₁.AgreeAt session₂ place₁ place₂) :
    (session₁.happen horizon (.advance place₁)).AgreeAt (session₂.happen horizon (.advance place₂))
      place₁ place₂ := by
  obtain ⟨strand₁, strand₂, hstrand₁, hstrand₂, hagree, halike⟩ := h
  obtain ⟨hserver₁, hnext₁⟩ := Session.happen_advance horizon hstrand₁
  obtain ⟨hserver₂, hnext₂⟩ := Session.happen_advance horizon hstrand₂
  obtain ⟨hagree', halike'⟩ := hagree.advance halike horizon
  refine ⟨_, _, hnext₁, hnext₂, hagree', ?_⟩
  rw [hserver₁, hserver₂]
  exact halike'

/-- **Events of other strands do not show**, unless they make the server shut down. -/
theorem AgreeAt.happen_of_ne (h : session₁.AgreeAt session₂ place₁ place₂) {event : Event}
    (hother : event ≠ .advance place₁)
    (hflag : (session₁.happen horizon event).server.isShuttingDown =
      session₁.server.isShuttingDown) :
    (session₁.happen horizon event).AgreeAt session₂ place₁ place₂ := by
  obtain ⟨strand₁, strand₂, hstrand₁, hstrand₂, hagree, halike⟩ := h
  obtain ⟨hkeep, hpersists⟩ := Session.happen_of_ne horizon hother session₁
  exact ⟨strand₁, strand₂, hkeep.trans hstrand₁, hstrand₂, hagree,
    halike.of_persists hpersists hflag⟩

/-- **Wherever an interleaving leads**, the strand is where as many events of its own lead. -/
theorem AgreeAt.play (h : session₁.AgreeAt session₂ place₁ place₂) {events : List Event}
    (hundisturbed : session₁.IsUndisturbed horizon place₁ events) :
    let own := List.replicate (events.count (.advance place₁)) (.advance place₂)
    (session₁.play horizon events).AgreeAt (session₂.play horizon own) place₁ place₂ ∧
      session₁.recordAt horizon place₁ events = session₂.recordAt horizon place₂ own := by
  induction events generalizing session₁ session₂ with
  | nil => exact ⟨h, rfl⟩
  | cons event events ih =>
    obtain ⟨hflag, hundisturbed⟩ := hundisturbed
    -- the second session has the events of the strand and no others
    by_cases hown : event = .advance place₁
    · subst hown
      obtain ⟨hagree, hrecord⟩ := ih h.happen_advance hundisturbed
      rw [List.count_cons_self, List.replicate_succ]
      refine ⟨hagree, ?_⟩
      rw [recordAt, if_pos rfl, recordAt, if_pos rfl, hrecord, h.happeningsAt]
    · obtain ⟨hagree, hrecord⟩ := ih (h.happen_of_ne hown (hflag hown)) hundisturbed
      rw [List.count_cons_of_ne hown]
      refine ⟨hagree, ?_⟩
      rw [recordAt, if_neg hown, List.nil_append, hrecord]

end AgreeAt

/-! ### Serving -/

/-- An interleaving up to the event with which the serving of the connection at a place ends. -/
def Serves (horizon : Option Time) (place : ℕ) (events : List Event) (session : Session)
    (result : Option CloseReason) : Prop :=
  ∃ before, events = before ++ [.advance place] ∧
    (session.play horizon before).servedAt? place = none ∧
    (session.play horizon events).servedAt? place = some result

section Serving

variable {session session₁ session₂ : Session} {place place₁ place₂ : ℕ} {horizon : Option Time}
variable {events events₁ events₂ : List Event}

theorem isUndisturbed_append {more : List Event} :
    session.IsUndisturbed horizon place (events ++ more) ↔
      session.IsUndisturbed horizon place events ∧
        (session.play horizon events).IsUndisturbed horizon place more := by
  induction events generalizing session with
  | nil => exact ⟨fun h ↦ ⟨trivial, h⟩, And.right⟩
  | cons event events ih => rw [List.cons_append, IsUndisturbed, IsUndisturbed, ih, and_assoc, play]

/-- A connection that has been served is still so after more events. -/
theorem servedAt?_playAlone {result : Option CloseReason} {count more : ℕ} (hle : count ≤ more)
    (h : (session.playAlone horizon place count).servedAt? place = some result) :
    (session.playAlone horizon place more).servedAt? place = some result := by
  induction more, hle using Nat.le_induction with
  | base => exact h
  | succ more hle ih =>
    obtain ⟨strand, hstrand, hserved⟩ := Option.bind_eq_some_iff.1 ih
    rw [playAlone_succ, Session.servedAt?, (Session.happen_advance horizon hstrand).2]
    exact Strand.served?_advance hserved horizon _

/-- The serving of a connection ends with the same of its own events as it would if no other strand
went on. -/
theorem AgreeAt.exists_of_serves (h : session₁.AgreeAt session₂ place₁ place₂)
    (hundisturbed : session₁.IsUndisturbed horizon place₁ events) {result : Option CloseReason}
    (hserves : session₁.Serves horizon place₁ events result) :
    ∃ count, events.count (.advance place₁) = count + 1 ∧
      (session₂.playAlone horizon place₂ count).servedAt? place₂ = none ∧
      (session₂.playAlone horizon place₂ (count + 1)).servedAt? place₂ = some result := by
  obtain ⟨before, rfl, hbefore, hserved⟩ := hserves
  have hcount : (before ++ [Event.advance place₁]).count (.advance place₁) =
      before.count (.advance place₁) + 1 := by
    rw [List.count_append, List.count_singleton_self]
  have hat := (h.play (isUndisturbed_append.1 hundisturbed).1).1.servedAt?
  have hafter := (h.play hundisturbed).1.servedAt?
  rw [hcount] at hafter
  exact ⟨_, hcount, hat.symm.trans hbefore, hafter.symm.trans hserved⟩

/-- **In a session a connection is served as it is by itself.** If serving a new connection ends for
a reason, it ends for this reason in any session on a server that is alike, by a certain number of
events of its strand. -/
theorem exists_served_of_serve {now time : Time} {plan : Plan} {actions : List Connection.Action}
    {server server₁ server' : Server} {connection connection' : Connection} {reason : CloseReason}
    (hburst : 0 < plan.source.burst) (hfirst : plan.shutsDownFirst = false)
    (hactions : plan.actions = .serve :: actions)
    (hstrand : session.strands[place]? = some (.start now plan))
    (halike : session.server.Alike server)
    (hopened : server.openConnection plan.name plan.source plan.sink = (connection, server₁))
    (hserve : connection.serve horizon now server₁ = (⟨some reason, time⟩, connection', server')) :
    ∃ count, ∀ events, session.IsUndisturbed horizon place events →
      events.count (.advance place) = count →
      (session.play horizon events).servedAt? place = some (some reason) := by
  -- the strand alone on the other server: it is opened, and then it serves
  let alone : Session := ⟨server, [.start now plan]⟩
  have hfresh : alone.strands[0]? = some (.start now plan) := rfl
  have hagree : session.AgreeAt alone place 0 :=
    ⟨_, _, hstrand, hfresh, .start now hburst, halike⟩
  let opened : Strand := ⟨plan, .between connection (.serve :: actions), now,
    [⟨.opened, now, connection.isClosed, server₁.metrics.live, server₁.pool.available⟩]⟩
  have hfirstEvent : (Strand.start now plan).advance horizon server = (opened, server₁) := by
    simp only [Strand.start, Strand.advance, hfirst, Bool.false_eq_true, if_false, hopened,
      hactions, Strand.noteDown, List.nil_append, opened]
  obtain ⟨count, hcount⟩ := opened.exists_finishStrand_of_perform .serve actions hserve
  refine ⟨count + 1, fun events hundisturbed hevents ↦ ?_⟩
  have hplay := (hagree.play hundisturbed).1.servedAt?
  rw [hevents] at hplay
  have halone := (playAlone_eq_finishStrand hfresh horizon (count + 1)).2
  rw [finishStrand, hfirstEvent] at halone
  have hserved := halone.trans (congrArg (some ·.1) hcount)
  rw [hplay]
  exact Option.bind_eq_some_iff.2 ⟨_, hserved, rfl⟩

/-- **A connection is isolated** from the other connections of its server and from the sizes of
buffers and the state of the pool. Let a planned connection go on in two sessions whose servers are
alike, with any events of other strands in between that do not make the server shut down. After as
many events of its own it has sent the same at the same moments and has come to the same milestones,
and the samples of its reads and writes are the same. So where its serving has come to its end in
both, it has ended for the same reason. -/
theorem isolated_of_alike {now : Time} {plan : Plan} (hburst : 0 < plan.source.burst)
    (hstrand₁ : session₁.strands[place₁]? = some (.start now plan))
    (hstrand₂ : session₂.strands[place₂]? = some (.start now plan))
    (halike : session₁.server.Alike session₂.server)
    (hundisturbed₁ : session₁.IsUndisturbed horizon place₁ events₁)
    (hundisturbed₂ : session₂.IsUndisturbed horizon place₂ events₂) :
    (events₁.count (.advance place₁) = events₂.count (.advance place₂) →
      (session₁.play horizon events₁).viewAt place₁ =
          (session₂.play horizon events₂).viewAt place₂ ∧
        session₁.recordAt horizon place₁ events₁ = session₂.recordAt horizon place₂ events₂) ∧
    ∀ result₁ result₂, session₁.Serves horizon place₁ events₁ result₁ →
      session₂.Serves horizon place₂ events₂ result₂ →
      result₁ = result₂ ∧
        (session₁.play horizon events₁).viewAt place₁ =
          (session₂.play horizon events₂).viewAt place₂ ∧
        session₁.recordAt horizon place₁ events₁ = session₂.recordAt horizon place₂ events₂ := by
  have hstart := Strand.Agree.start now hburst
  have hagree₁ : session₁.AgreeAt session₂ place₁ place₂ :=
    ⟨_, _, hstrand₁, hstrand₂, hstart, halike⟩
  have hagree₂ : session₂.AgreeAt session₂ place₂ place₂ :=
    ⟨_, _, hstrand₂, hstrand₂, hstart, halike.right⟩
  have hsame (hcount : events₁.count (.advance place₁) = events₂.count (.advance place₂)) :
      (session₁.play horizon events₁).viewAt place₁ =
          (session₂.play horizon events₂).viewAt place₂ ∧
        session₁.recordAt horizon place₁ events₁ = session₂.recordAt horizon place₂ events₂ := by
    obtain ⟨hplay₁, hrecord₁⟩ := hagree₁.play hundisturbed₁
    obtain ⟨hplay₂, hrecord₂⟩ := hagree₂.play hundisturbed₂
    rw [hcount] at hplay₁ hrecord₁
    exact ⟨hplay₁.viewAt.trans hplay₂.viewAt.symm, hrecord₁.trans hrecord₂.symm⟩
  refine ⟨hsame, fun result₁ result₂ hserves₁ hserves₂ ↦ ?_⟩
  obtain ⟨count₁, hcount₁, hnone₁, hserved₁⟩ := hagree₁.exists_of_serves hundisturbed₁ hserves₁
  obtain ⟨count₂, hcount₂, hnone₂, hserved₂⟩ := hagree₂.exists_of_serves hundisturbed₂ hserves₂
  have hcount : count₁ = count₂ := by
    -- the serving has not ended before its last event, in either session
    rcases Nat.lt_trichotomy count₁ count₂ with hlt | heq | hgt
    · rw [servedAt?_playAlone hlt hserved₁] at hnone₂
      cases hnone₂
    · exact heq
    · rw [servedAt?_playAlone hgt hserved₂] at hnone₁
      cases hnone₁
  subst hcount
  refine ⟨?_, hsame (hcount₁.trans hcount₂.symm)⟩
  exact Option.some.inj (hserved₁.symm.trans hserved₂)

/-- A connection with the standard buffers and the server for itself, and the same connection with
buffers of three bytes, the first of them from the pool, and a neighbour whose handler panics. -/
theorem isolated_of_alike_crowded :
    let dispatcher := Dispatcher.byCode ⟨[(7, .echo), (8, .panicking .untyped)]⟩
    let request := (Frame.ofBody (.make 7 0) [1, 2, 3, 4, 5]).encode
    let plan : Plan := ⟨"conn-1",
      .ofScript [⟨0, .data (request.take 12)⟩, ⟨4, .data (request.drop 12)⟩, ⟨9, .eof⟩],
      .ofScripts [⟨5, .take 1⟩] [] [], false, [.serve]⟩
    let neighbour : Plan := ⟨"conn-2",
      .ofScript [⟨0, .data (Frame.ofBody (.make 8 0) [6]).encode⟩], .eager, false, [.serve]⟩
    let roomy := Server.start .default dispatcher
    let narrow := Server.start { ServerSettings.default with bufferSize := 3, poolCapacity := 2 }
      dispatcher
    let session₁ : Session := ⟨roomy, [.start 0 plan]⟩
    let session₂ : Session :=
      ⟨{ narrow with pool := ⟨2, 3, [.withCapacity 7]⟩ }, [.start 0 neighbour, .start 0 plan]⟩
    let events₁ : List Event := List.replicate 8 (.advance 0)
    let events₂ : List Event := [1, 0, 1, 0, 0, 1, 1, 0, 0, 1, 1, 0, 1, 1].map .advance
    session₁.Serves none 0 events₁ (some .peerClosed) ∧
      session₂.Serves none 1 events₂ (some .peerClosed) ∧
      (session₂.play none events₂).servedAt? 0 = some (some .handlerPanic) ∧
      (session₁.play none events₁).viewAt 0 = (session₂.play none events₂).viewAt 1 ∧
      session₁.recordAt none 0 events₁ = session₂.recordAt none 1 events₂ := by
  intro dispatcher request plan neighbour roomy narrow session₁ session₂ events₁ events₂
  have halike : session₁.server.Alike session₂.server := by
    refine ⟨⟨rfl, rfl, rfl, rfl⟩, rfl, rfl, nofun, fun buffer hmem ↦ ?_⟩
    rw [List.mem_singleton.1 hmem]
    rfl
  have hundisturbed₁ : session₁.IsUndisturbed none 0 events₁ := by decide +kernel
  have hundisturbed₂ : session₂.IsUndisturbed none 1 events₂ := by decide +kernel
  have hserves₁ : session₁.Serves none 0 events₁ (some .peerClosed) :=
    ⟨List.replicate 7 (.advance 0), rfl, by decide +kernel, by decide +kernel⟩
  have hserves₂ : session₂.Serves none 1 events₂ (some .peerClosed) :=
    ⟨[1, 0, 1, 0, 0, 1, 1, 0, 0, 1, 1, 0, 1].map .advance, rfl, by decide +kernel,
      by decide +kernel⟩
  have hpanic : (session₂.play none events₂).servedAt? 0 = some (some .handlerPanic) := by
    decide +kernel
  obtain ⟨-, hview, hrecord⟩ := (isolated_of_alike (by decide) rfl rfl halike hundisturbed₁
    hundisturbed₂).2 _ _ hserves₁ hserves₂
  exact ⟨hserves₁, hserves₂, hpanic, hview, hrecord⟩

end Serving

end Session

end FramedExchange
