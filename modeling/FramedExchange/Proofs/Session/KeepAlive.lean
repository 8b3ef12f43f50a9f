import FramedExchange.Proofs.Session.LastReply

/-!
# Shutting down

When a server begins to shut down, no exchange is cut off by that. A strand goes on as it would have
gone on (`Strand.advance_beginShutdown`) until it has completed a reply. Only then it notices
(`Session.MatchAt.play`), and from then on it leaves as on any server that keeps no connection
alive (`Strand.LeavesAfterReply`).
-/

namespace FramedExchange

namespace Server

variable {server : Server}

theorem note_beginShutdown (name : String) (happening : Happening) (server : Server) :
    server.beginShutdown.note name happening = (server.note name happening).beginShutdown := by
  cases happening <;> rfl

/-- What happens in a phase is the same on a server that is shutting down. -/
theorem after_beginShutdown (name : String) (run : PhaseRun) (server : Server) :
    server.beginShutdown.after name run = (server.after name run).beginShutdown := by
  have hnote (server : Server) :
      run.happenings.foldl (note name) server.beginShutdown =
        (run.happenings.foldl (note name) server).beginShutdown :=
    List.foldl_hom beginShutdown fun server happening ↦ note_beginShutdown name happening server
  rw [after, after, ← hnote]
  split <;> rfl

/-- Servers that are alike but for shutting down stay so where others do something to them. -/
theorem Alike.of_persists_both {server₁ server₂ after₁ after₂ : Server}
    (h : server₁.beginShutdown.Alike server₂.beginShutdown) (hpersists₁ : server₁.Persists after₁)
    (hpersists₂ : server₂.Persists after₂) : after₁.beginShutdown.Alike after₂.beginShutdown where
  settings := by
    show after₁.settings.Alike after₂.settings
    rw [hpersists₁.settings, hpersists₂.settings]
    exact h.settings
  dispatcher := hpersists₁.dispatcher.trans (h.dispatcher.trans hpersists₂.dispatcher.symm)
  isShuttingDown := rfl
  isClean₁ := hpersists₁.isClean h.isClean₁
  isClean₂ := hpersists₂.isClean h.isClean₂

end Server

/-! ### One turn -/

namespace Strand

variable {horizon : Option Time} {strand : Strand} {server : Server}

/-- **A strand does not notice in a turn that the server is shutting down**, unless it completes a
reply in it. -/
theorem advance_beginShutdown (horizon : Option Time) (server : Server)
    (hreply : strand.stage.completesReply = false) :
    strand.advance horizon server.beginShutdown =
      ((strand.advance horizon server).1, (strand.advance horizon server).2.beginShutdown) := by
  obtain ⟨plan, stage, time, steps⟩ := strand
  -- but for a phase that is run, a turn does not look at the mark of the server at all
  cases stage with
  | unopened =>
    rcases hfirst : plan.shutsDownFirst with - | -
    · simp only [advance, hfirst]
      rfl
    · simp only [advance, hfirst]
      rfl
  | between connection actions =>
    rcases actions with - | ⟨action, actions⟩
    · rfl
    · rcases hattached : connection.isAttached with - | -
      · cases action with
        | serve => simp only [advance, Connection.begin, hattached]; rfl
        | close => simp only [advance, Connection.begin, hattached]; rfl
      · simp only [advance, Connection.begin, hattached]
        rfl
  | inPhase connection action run actions =>
    have hafter := Server.after_beginShutdown connection.name run server
    have hadvance (server : Server) :
        advance horizon ⟨plan, .inPhase connection action run actions, time, steps⟩ server =
          follow horizon action actions run.time
            ⟨plan, .inPhase connection action run actions, time, steps⟩
            (connection.commit run server) := rfl
    have hprogress : Connection.progressOf (server.beginShutdown.after connection.name run)
        run.ending = Connection.progressOf (server.after connection.name run) run.ending := by
      -- only after a reply it is for the server to say what follows
      rcases hend : run.ending with phase | - | reason | -
      · rfl
      · exact absurd (decide_eq_true hend) (Bool.eq_false_iff.1 hreply)
      · rfl
      · rfl
    rw [hadvance, hadvance]
    rcases hnext : Connection.progressOf (server.after connection.name run) run.ending with
      phase | reason | -
    all_goals rw [hnext] at hprogress
    · rw [Connection.commit_of_next hnext, Connection.commit_of_next hprogress, hafter]
      rfl
    · have hclosed := Connection.progressOf_eq_closed_iff.1 hnext
      rw [Connection.commit_of_closed hclosed, Connection.commit_of_closed hclosed, hafter]
      rfl
    · have hhanging := Connection.progressOf_eq_abandoned_iff.1 hnext
      rw [Connection.commit_of_hanging hhanging, Connection.commit_of_hanging hhanging, hafter]
      rfl
  | dropped connection => rfl

/-- What completing a reply adds to what has been sent does not depend on the server. -/
theorem view_advance_of_completesReply (horizon : Option Time) (server : Server)
    (hreply : strand.stage.completesReply = true) :
    (strand.advance horizon server).1.sent =
        strand.stage.run?.elim [] (fun run ↦ run.link.writer.sink.sent) ∧
      (strand.advance horizon server).1.milestones = strand.milestones := by
  obtain ⟨plan, stage, time, steps⟩ := strand
  cases stage with
  | inPhase connection action run actions =>
    have hreplied : run.ending = .replied := of_decide_eq_true hreply
    have hnext : Connection.progressOf (server.after connection.name run) run.ending =
        .next (if (server.after connection.name run).keepsAlive then .idle
          else .closing .keepAliveDisabled) := by
      rw [hreplied]
      rfl
    have hadvance : advance horizon ⟨plan, .inPhase connection action run actions, time, steps⟩
        server = _ := congrArg (follow horizon action actions run.time _)
          (Connection.commit_of_next hnext)
    rw [hadvance]
    exact ⟨rfl, rfl⟩
  | unopened | between | dropped => cases hreply

/-- Strands that agree complete a reply together. -/
theorem Agree.completesReply {strand₁ strand₂ : Strand} (h : strand₁.Agree strand₂) :
    strand₁.stage.completesReply = strand₂.stage.completesReply := by
  obtain ⟨-, -, -, -, hstage⟩ := h
  rcases hstage₁ : strand₁.stage with - | _ | ⟨connection₁, action₁, run₁, actions₁⟩ | _
  all_goals
    rw [hstage₁] at hstage
    generalize strand₂.stage = stage₂ at hstage
    cases hstage
  · rfl
  · rfl
  · rename_i hrun
    show decide (run₁.ending = .replied) = _
    rw [hrun.ending]
    rfl
  · rfl

/-- **What strands that agree have sent and come to after a turn is the same**, even if only one of
the servers is shutting down. -/
theorem Agree.view_advance {strand₁ strand₂ : Strand} {server₁ server₂ : Server}
    (h : strand₁.Agree strand₂) (hservers : server₁.beginShutdown.Alike server₂.beginShutdown)
    (horizon : Option Time) :
    (strand₁.advance horizon server₁).1.sent = (strand₂.advance horizon server₂).1.sent ∧
      (strand₁.advance horizon server₁).1.milestones =
        (strand₂.advance horizon server₂).1.milestones := by
  have hunaware (strand : Strand) (server : Server) :
      (strand.advance horizon server.beginShutdown).1.sent =
        (strand.advance horizon server).1.sent ∧
        (strand.advance horizon server.beginShutdown).1.milestones =
          (strand.advance horizon server).1.milestones := by
    -- without a reply the turns are the same; with one they differ only in what follows it
    rcases hreply : strand.stage.completesReply with - | -
    · rw [advance_beginShutdown horizon server hreply]
      exact ⟨rfl, rfl⟩
    · obtain ⟨hsent, hmilestones⟩ := view_advance_of_completesReply horizon server hreply
      obtain ⟨hsent', hmilestones'⟩ :=
        view_advance_of_completesReply horizon server.beginShutdown hreply
      exact ⟨hsent'.trans hsent.symm, hmilestones'.trans hmilestones.symm⟩
  have hagree := (h.advance hservers horizon).1
  rw [← (hunaware strand₁ server₁).1, ← (hunaware strand₂ server₂).1,
    ← (hunaware strand₁ server₁).2, ← (hunaware strand₂ server₂).2]
  exact ⟨hagree.sent, hagree.milestones⟩

end Strand

/-! ### Sessions -/

namespace Session

/-- A session whose server is shutting down, or is not. -/
def marked (isShuttingDown : Bool) (session : Session) : Session :=
  { session with server := { session.server with isShuttingDown } }

/-- The strands at a place of two sessions agree, and their servers are alike but for shutting
down. -/
def MatchAt (place : ℕ) (session₁ session₂ : Session) : Prop :=
  ∃ strand₁ strand₂, session₁.strands[place]? = some strand₁ ∧
    session₂.strands[place]? = some strand₂ ∧ strand₁.Agree strand₂ ∧
    session₁.server.beginShutdown.Alike session₂.server.beginShutdown

/-- The strand at a place looks the same in two sessions in which the same events happen. -/
structure LooksAlike (horizon : Option Time) (place : ℕ) (events : List Event)
    (session₁ session₂ : Session) : Prop where
  /-- It has sent the same, and come to the same milestones. -/
  view : (session₁.play horizon events).viewAt place = (session₂.play horizon events).viewAt place
  /-- The same has happened in its phases: its requests, its panics, its reads and its writes. -/
  record : session₁.recordAt horizon place events = session₂.recordAt horizon place events
  /-- It has completed replies in the same turns. -/
  replies : (session₁.turnsAt horizon place events).map Turn.completesReply =
    (session₂.turnsAt horizon place events).map Turn.completesReply

variable {horizon : Option Time} {place : ℕ} {session session₁ session₂ : Session}
variable {event : Event} {events : List Event}

theorem MatchAt.viewAt (h : session₁.MatchAt place session₂) :
    session₁.viewAt place = session₂.viewAt place := by
  obtain ⟨strand₁, strand₂, hstrand₁, hstrand₂, hagree, -⟩ := h
  rw [Session.viewAt, Session.viewAt, hstrand₁, hstrand₂, Option.map_some, Option.map_some,
    hagree.sent, hagree.milestones]

/-- An event of others leaves a match. -/
theorem MatchAt.happen_of_ne (h : session₁.MatchAt place session₂) (horizon : Option Time)
    (hother : event ≠ .advance place) :
    (session₁.happen horizon event).MatchAt place (session₂.happen horizon event) := by
  obtain ⟨strand₁, strand₂, hstrand₁, hstrand₂, hagree, halike⟩ := h
  obtain ⟨hkeep₁, hpersists₁⟩ := Session.happen_of_ne horizon hother session₁
  obtain ⟨hkeep₂, hpersists₂⟩ := Session.happen_of_ne horizon hother session₂
  exact ⟨strand₁, strand₂, hkeep₁.trans hstrand₁, hkeep₂.trans hstrand₂, hagree,
    Server.Alike.of_persists_both halike hpersists₁ hpersists₂⟩

/-- So does a turn in which no reply is completed. -/
theorem MatchAt.happen_advance (h : session₁.MatchAt place session₂) (horizon : Option Time)
    {strand₁ : Strand} (hstrand₁ : session₁.strands[place]? = some strand₁)
    (hreply : strand₁.stage.completesReply = false) :
    (session₁.happen horizon (.advance place)).MatchAt place
      (session₂.happen horizon (.advance place)) := by
  obtain ⟨strand, strand₂, hstrand, hstrand₂, hagree, halike⟩ := h
  obtain rfl : strand₁ = strand := Option.some.inj (hstrand₁.symm.trans hstrand)
  obtain ⟨hserver₁, hnext₁⟩ := Session.happen_advance horizon hstrand₁
  obtain ⟨hserver₂, hnext₂⟩ := Session.happen_advance horizon hstrand₂
  obtain ⟨hagree', halike'⟩ := hagree.advance halike horizon
  rw [Strand.advance_beginShutdown horizon _ hreply,
    Strand.advance_beginShutdown horizon _ (hagree.completesReply.symm.trans hreply)]
    at hagree' halike'
  refine ⟨_, _, hnext₁, hnext₂, hagree', ?_⟩
  rw [hserver₁, hserver₂]
  exact halike'

/-- Where a strand has no turn, nothing is seen of it. -/
theorem viewAt_play_of_notMem (horizon : Option Time) (hother : .advance place ∉ events)
    (session : Session) :
    (session.play horizon events).viewAt place = session.viewAt place ∧
      session.recordAt horizon place events = [] ∧ session.turnsAt horizon place events = [] := by
  induction events generalizing session with
  | nil => exact ⟨rfl, rfl, rfl⟩
  | cons event events ih =>
    rw [List.mem_cons, not_or] at hother
    have hne : event ≠ .advance place := fun heq ↦ hother.1 heq.symm
    obtain ⟨hview, hrecord, hturns⟩ := ih hother.2 (session.happen horizon event)
    refine ⟨?_, ?_, ?_⟩
    · rw [play, hview, viewAt, viewAt, (Session.happen_of_ne horizon hne session).1]
    · rw [recordAt, if_neg hne, hrecord]
      rfl
    · rw [turnsAt, if_neg hne, hturns]
      rfl

theorem notMem_of_turnsAt_eq_nil {strand : Strand} (hstrand : session.strands[place]? = some strand)
    (h : session.turnsAt horizon place events = []) : .advance place ∉ events := by
  induction events generalizing session with
  | nil => exact List.not_mem_nil
  | cons event events ih =>
    rw [turnsAt, List.append_eq_nil_iff] at h
    by_cases hown : event = .advance place
    · rw [if_pos hown, hstrand] at h
      cases h.1
    · have hkeep := (Session.happen_of_ne horizon hown session).1.trans hstrand
      exact fun hmem ↦ (List.mem_cons.1 hmem).elim (fun heq ↦ hown heq.symm) (ih hkeep h.2)

/-- **A strand goes on the same up to the end of its first reply**, whether or not one of the
servers is shutting down. -/
theorem MatchAt.play (h : session₁.MatchAt place session₂)
    (hreply : ∀ turn ∈ (session₁.turnsAt horizon place events).dropLast,
      turn.completesReply = false) :
    session₁.LooksAlike horizon place events session₂ := by
  induction events generalizing session₁ session₂ with
  | nil => exact ⟨h.viewAt, rfl, rfl⟩
  | cons event events ih =>
    by_cases hown : event = .advance place
    · subst hown
      obtain ⟨strand₁, strand₂, hstrand₁, hstrand₂, hagree, halike⟩ := id h
      obtain ⟨-, hnext₁⟩ := Session.happen_advance horizon hstrand₁
      obtain ⟨-, hnext₂⟩ := Session.happen_advance horizon hstrand₂
      have hhappenings : session₁.happeningsAt place = session₂.happeningsAt place := by
        rw [happeningsAt, happeningsAt, hstrand₁, hstrand₂]
        exact hagree.happenings
      have hturns (session : Session) {strand : Strand}
          (hstrand : session.strands[place]? = some strand) :
          session.turnsAt horizon place (.advance place :: events) = ⟨strand, session.server⟩ ::
            (session.happen horizon (.advance place)).turnsAt horizon place events := by
        rw [turnsAt, if_pos rfl, hstrand]
        rfl
      have hrecord (session : Session) :
          session.recordAt horizon place (.advance place :: events) = session.happeningsAt place ++
            (session.happen horizon (.advance place)).recordAt horizon place events := by
        rw [recordAt, if_pos rfl]
      rw [hturns session₁ hstrand₁] at hreply
      rcases hrest : (session₁.happen horizon (.advance place)).turnsAt horizon place events with
        - | ⟨turn, turns⟩
      · -- this is the last turn, and a reply may be completed in it
        have hnone := notMem_of_turnsAt_eq_nil hnext₁ hrest
        obtain ⟨hview₁, hrecord₁, -⟩ := viewAt_play_of_notMem horizon hnone
          (session₁.happen horizon (.advance place))
        obtain ⟨hview₂, hrecord₂, hrest₂⟩ := viewAt_play_of_notMem horizon hnone
          (session₂.happen horizon (.advance place))
        obtain ⟨hsent, hmilestones⟩ := hagree.view_advance halike horizon
        refine ⟨?_, ?_, ?_⟩
        · rw [Session.play, Session.play, hview₁, hview₂, Session.viewAt, Session.viewAt, hnext₁,
            hnext₂, Option.map_some, Option.map_some, hsent, hmilestones]
        · rw [hrecord, hrecord, hrecord₁, hrecord₂, hhappenings]
        · rw [hturns session₁ hstrand₁, hturns session₂ hstrand₂, hrest, hrest₂]
          exact congrArg (fun completes ↦ [completes]) hagree.completesReply
      · -- other turns follow, so no reply is completed in this one
        rw [hrest] at hreply
        obtain ⟨hfirst, hothers⟩ := List.forall_mem_cons.1 hreply
        obtain ⟨hview, hrecords, hreplies⟩ := ih (h.happen_advance horizon hstrand₁ hfirst)
          (by rwa [hrest])
        refine ⟨hview, ?_, ?_⟩
        · rw [hrecord, hrecord, hrecords, hhappenings]
        · rw [hturns session₁ hstrand₁, hturns session₂ hstrand₂]
          exact congrArg₂ List.cons hagree.completesReply hreplies
    · rw [turnsAt, if_neg hown, List.nil_append] at hreply
      obtain ⟨hview, hrecord, hreplies⟩ := ih (h.happen_of_ne horizon hown) hreply
      refine ⟨hview, ?_, ?_⟩
      · rw [recordAt, recordAt, if_neg hown, if_neg hown, hrecord]
      · rw [turnsAt, turnsAt, if_neg hown, if_neg hown]
        exact hreplies

/-- A strand that agrees with itself does so wherever it comes to. -/
theorem exists_agree_play {strand : Strand} (hclean : session.server.pool.IsClean)
    (hstrand : session.strands[place]? = some strand) (hagree : strand.Agree strand)
    (horizon : Option Time) (events : List Event) :
    ∃ last, (session.play horizon events).strands[place]? = some last ∧ last.Agree last ∧
      (session.play horizon events).server.pool.IsClean := by
  induction events generalizing session strand with
  | nil => exact ⟨strand, hstrand, hagree, hclean⟩
  | cons event events ih =>
    by_cases hown : event = .advance place
    · subst hown
      obtain ⟨hserver, hnext⟩ := Session.happen_advance horizon hstrand
      have hself : session.server.Alike session.server :=
        ⟨⟨rfl, rfl, rfl, rfl⟩, rfl, rfl, hclean, hclean⟩
      obtain ⟨hagree', halike⟩ := hagree.advance hself horizon
      refine ih ?_ hnext hagree'
      rw [hserver]
      exact halike.isClean₁
    · obtain ⟨hkeep, hpersists⟩ := Session.happen_of_ne horizon hown session
      exact ih (hpersists.isClean hclean) (hkeep.trans hstrand) hagree

/-- **Shutting down and keep-alive**, for any number of connections and every interleaving of what
they do. Once the server is shutting down, whoever has begun that and when, a connection completes
at most one more reply and leaves after it. Up to the end of that reply it goes on as it would on a
server that is not shutting down. If keep-alive is off from the start, a connection handles at most
one request and completes at most one reply in its whole life, and it is closed for that reason
exactly if it has completed one. -/
theorem leavesAfterReply_play (settings : ServerSettings) (dispatcher : Dispatcher)
    {strands : List Strand} (hstart : ∀ strand ∈ strands, ∃ now plan, strand = .start now plan)
    (horizon : Option Time) (events : List Event) (place : ℕ) :
    let session : Session := ⟨.start settings dispatcher, strands⟩
    let reached := session.play horizon events
    ∀ last, reached.strands[place]? = some last →
      (reached.server.isShuttingDown = true →
        ∀ more later, (reached.play horizon more).strands[place]? = some later →
          Strand.LeavesAfterReply horizon (reached.turnsAt horizon place more) later) ∧
      (0 < last.plan.source.burst → ∀ more,
        (∀ turn ∈ ((reached.marked true).turnsAt horizon place more).dropLast,
          turn.completesReply = false) →
        (reached.marked true).LooksAlike horizon place more (reached.marked false)) ∧
      (settings.keepAlive = false →
        Strand.LeavesAfterReply horizon (session.turnsAt horizon place events) last ∧
          ∀ reason, last.end? = some (some reason) → (reason = .keepAliveDisabled ↔
            (session.turnsAt horizon place events).countP Turn.completesReply = 1)) := by
  intro session reached last hlast
  obtain ⟨strand, hstrand, htakes⟩ := exists_takes_of_play hlast
  obtain ⟨now, plan, rfl⟩ := hstart strand (List.mem_of_getElem? hstrand)
  have hsound := Strand.isSound_start horizon now plan
  have hservers {session : Session} (hserver : session.server.keepsAlive = false)
      (events : List Event) :
      ∀ turn ∈ session.turnsAt horizon place events, turn.server.keepsAlive = false := by
    intro turn hmem
    obtain ⟨before, -, hturn⟩ := exists_play_of_mem_turnsAt hmem
    exact hturn ▸ keepsAlive_play before hserver
  refine ⟨fun hflag more later hlater ↦ ?_, fun hburst more hreply ↦ ?_, fun hoff ↦ ?_⟩
  · -- the server does not keep connections alive, from here on and whoever has a turn
    obtain ⟨last', hlast', htakes'⟩ := exists_takes_of_play hlater
    obtain rfl := Option.some.inj (hlast.symm.trans hlast')
    exact (hsound.takes htakes).leavesAfterReply htakes'
      (hservers (Server.keepsAlive_eq_false.2 (.inr hflag)) more)
  · have hclean : session.server.pool.IsClean := Pool.isClean_empty _ _
    have hplan : 0 < plan.source.burst := by rwa [Strand.plan_takes htakes] at hburst
    obtain ⟨last', hlast', hagree, hclean'⟩ :=
      exists_agree_play hclean hstrand (.start now hplan) horizon events
    obtain rfl := Option.some.inj (hlast.symm.trans hlast')
    refine MatchAt.play ⟨last, last, hlast, hlast, hagree, ?_⟩ hreply
    exact ⟨⟨rfl, rfl, rfl, rfl⟩, rfl, rfl, hclean', hclean'⟩
  · have hoff' : ∀ turn ∈ session.turnsAt horizon place events, turn.server.keepsAlive = false :=
      hservers (Server.keepsAlive_eq_false.2 (.inl hoff)) events
    have hleaves := hsound.leavesAfterReply htakes hoff'
    refine ⟨hleaves, fun reason hreason ↦ ?_⟩
    have hat : (Strand.start now plan).IsAt horizon (some .idle) := .unopened rfl
    rw [(hat.spends htakes hoff').2.2 rfl reason hreason]
    have hatMost := hleaves.replies
    constructor
    · rintro (hclosing | hpos)
      · cases hclosing
      · omega
    · intro hone
      exact .inr (by omega)

/-- A connection with two requests that arrive together, and a neighbour. The server begins to shut
down while the first reply is being written; and then the same without keep-alive. -/
theorem leavesAfterReply_play_pipelined :
    let request := (Frame.ofBody (.make 7 0) [1, 2]).encode
    let pipelined : Plan := ⟨"conn-1", .ofScript [⟨0, .data (request ++ request)⟩, ⟨9, .eof⟩],
      .ofScripts [⟨3, .take 5⟩] [] [], false, [.serve]⟩
    let neighbour : Plan := ⟨"conn-2", .ofScript [⟨2, .data request⟩, ⟨4, .eof⟩], .eager, false,
      [.serve]⟩
    let strands : List Strand := [.start 0 pipelined, .start 0 neighbour]
    let dispatcher := Dispatcher.byCode ⟨[(7, .echo)]⟩
    let session : Session := ⟨.start .default dispatcher, strands⟩
    let events : List Event := [0, 1, 1, 0, 0, 0, 0].map .advance ++ [.beginShutdown]
    let more : List Event := [0, 1, 0, 0, 1, 1, 1, 1, 1, 1].map .advance
    let reached := session.play none events
    let single : Session := ⟨.start { ServerSettings.default with keepAlive := false } dispatcher,
      strands⟩
    let life : List Event := [0, 1, 1, 0, 0, 0, 0, 0, 0].map .advance
    (∀ strand ∈ strands, ∃ now plan, strand = .start now plan) ∧
      reached.server.isShuttingDown = true ∧
      (∃ last, (reached.play none more).strands[0]? = some last ∧
        last.end? = some (some .keepAliveDisabled) ∧
        Strand.LeavesAfterReply none (reached.turnsAt none 0 more) last) ∧
      ((reached.turnsAt none 0 more).map Turn.completesReply = [true, false, false]) ∧
      (reached.marked true).LooksAlike none 0 [.advance 0, .advance 1] (reached.marked false) ∧
      ∃ last, (single.play none life).strands[0]? = some last ∧
        Strand.LeavesAfterReply none (single.turnsAt none 0 life) last ∧
        last.end? = some (some .keepAliveDisabled) ∧
        (single.turnsAt none 0 life).countP Turn.completesReply = 1 := by
  intro request pipelined neighbour strands dispatcher session events more reached single life
  have hstart : ∀ strand ∈ strands, ∃ now plan, strand = .start now plan := by
    intro strand hmem
    obtain rfl | hmem := List.mem_cons.1 hmem
    · exact ⟨0, pipelined, rfl⟩
    · obtain rfl := List.mem_singleton.1 hmem
      exact ⟨0, neighbour, rfl⟩
  have hflag : reached.server.isShuttingDown = true := by decide +kernel
  obtain ⟨between, hbetween, hburst⟩ := Option.map_eq_some_iff.1
    (show reached.strands[0]?.map (fun strand ↦ strand.plan.source.burst) = some 4096 by
      decide +kernel)
  obtain ⟨last, hlast, hend⟩ := Option.bind_eq_some_iff.1
    (show (reached.play none more).strands[0]?.bind Strand.end? = some (some .keepAliveDisabled) by
      decide +kernel)
  obtain ⟨only, honly, hend'⟩ := Option.bind_eq_some_iff.1
    (show (single.play none life).strands[0]?.bind Strand.end? = some (some .keepAliveDisabled) by
      decide +kernel)
  have hreply : ∀ turn ∈ ((reached.marked true).turnsAt none 0 [.advance 0, .advance 1]).dropLast,
      turn.completesReply = false := by
    decide +kernel
  obtain ⟨hshutdown, halike, -⟩ :=
    leavesAfterReply_play .default dispatcher hstart none events 0 between hbetween
  obtain ⟨-, -, hoff⟩ := leavesAfterReply_play { ServerSettings.default with keepAlive := false }
    dispatcher hstart none life 0 only honly
  obtain ⟨hleaves, hreason⟩ := hoff rfl
  exact ⟨hstart, hflag, ⟨last, hlast, hend, hshutdown hflag more last hlast⟩, by decide +kernel,
    halike (hburst ▸ Nat.succ_pos _) _ hreply, only, honly, hleaves, hend',
    (hreason _ hend').1 rfl⟩

end Session

end FramedExchange
