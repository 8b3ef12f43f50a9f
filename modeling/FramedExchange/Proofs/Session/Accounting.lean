import FramedExchange.Proofs.Session.Turns

/-!
# What connections cost their server

A server counts the connections that are open and those that were ever opened, and it lends each of
them two buffers of its pool. The accounts of the server (`Server.accounts`) change in two turns of
a connection and in no others: when it is opened (`Turn.IsOpening`) and when it is closed
(`Turn.IsClosing`), be it by serving, by closing or by being dropped, whichever comes first.

* `Session.IsBalanced.play`: at every moment the counts are those of the strands themselves;
* `Strand.isAccounted_of_takes`: the turns of a connection are its opening, turns that keep the
  accounts, its closing, and turns that keep the accounts and the stream as well;
* `Session.isAccounted_play`: both for every interleaving of any number of connections.
-/

namespace FramedExchange

/-! ### Accounts -/

/-- What a server keeps account of. -/
structure Accounts where
  /-- Connections that are open. -/
  live : Int
  /-- Connections that were ever opened. -/
  total : Nat
  pool : Pool

namespace Accounts

/-- Lend two buffers to a connection, one for reading and one for writing, and count it. -/
def lend (accounts : Accounts) : (Buffer × Buffer) × Accounts :=
  let (reader, pool) := accounts.pool.next
  let (writer, pool) := pool.next
  ((reader, writer), ⟨accounts.live + 1, accounts.total + 1, pool⟩)

/-- Take two buffers back and count one connection less. -/
def takeBack (buffers : Buffer × Buffer) (accounts : Accounts) : Accounts :=
  ⟨accounts.live - 1, accounts.total, (accounts.pool.release buffers.1).release buffers.2⟩

end Accounts

namespace Server

variable {server : Server}

def accounts (server : Server) : Accounts :=
  ⟨server.metrics.live, server.metrics.total, server.pool⟩

theorem accounts_note (connection : String) (happening : Happening) (server : Server) :
    (server.note connection happening).accounts = server.accounts := by
  cases happening <;> rfl

/-- What happens in a phase does not show in the accounts. -/
@[simp]
theorem accounts_after (connection : String) (run : PhaseRun) (server : Server) :
    (server.after connection run).accounts = server.accounts :=
  after_induction (p := (·.accounts = server.accounts)) rfl id fun _ _ _ h ↦
    (accounts_note ..).trans h

end Server

namespace Connection

/-- The buffers of a connection. -/
def buffers (connection : Connection) : Buffer × Buffer :=
  (connection.link.reader.buffer, connection.link.writer.buffer)

variable {connection : Connection} {server : Server}

/-- A new connection gets its buffers from the pool, and it is counted. -/
theorem accounts_openPlanned (plan : Plan) (server : Server) :
    ((server.openPlanned plan).1.buffers, (server.openPlanned plan).2.accounts) =
      server.accounts.lend := by
  rw [Server.openPlanned]
  split <;> rfl

/-- A connection that holds its buffers and is open gives them back and is counted no more. -/
theorem accounts_finish_of_open (hattached : connection.isAttached = true)
    (hopen : connection.isClosed = false) :
    (connection.finish server).2.accounts = server.accounts.takeBack connection.buffers := by
  simp only [finish, hattached, hopen, if_true]
  rfl

/-- A connection that holds no buffers and is closed has nothing to give back. -/
theorem accounts_finish_of_closed (hdetached : connection.isAttached = false)
    (hclosed : connection.isClosed = true) :
    (connection.finish server).2.accounts = server.accounts := by
  simp only [finish, hdetached, hclosed, if_true]
  rfl

theorem live_finish (connection : Connection) (server : Server) :
    (connection.finish server).2.metrics.live + (!connection.isClosed).toNat =
      server.metrics.live := by
  cases hclosed : connection.isClosed <;> simp [finish, hclosed, Metrics.closed]

theorem total_finish (connection : Connection) (server : Server) :
    (connection.finish server).2.metrics.total = server.metrics.total := by
  unfold finish
  split <;> split <;> rfl

end Connection

/-! ### One turn -/

namespace Stage

/-- The connection of a stage, once it has been opened. -/
def connection? : Stage → Option Connection
  | unopened => none
  | between connection _ => some connection
  | inPhase connection _ _ _ => some connection
  | dropped connection => some connection

/-- Whether the connection has been opened. -/
def isCreated (stage : Stage) : Bool := stage.connection?.isSome

/-- Whether the connection has been opened and not closed. -/
def isOpen (stage : Stage) : Bool := stage.connection?.any fun connection ↦ !connection.isClosed

/-- The connection holds its stream and its buffers, and it is open. -/
def IsHeld (stage : Stage) : Prop :=
  ∃ connection, stage.connection? = some connection ∧ connection.isAttached = true ∧
    connection.isClosed = false

/-- The connection has given its buffers back, and it is closed. -/
def IsOver (stage : Stage) : Prop :=
  ∃ connection, stage.connection? = some connection ∧ connection.isAttached = false ∧
    connection.isClosed = true

variable {horizon : Option Time} {plan : Plan} {stage later : Stage} {server left : Server}
variable {deeds more : List Milestone}

/-- The first turn opens the connection, with two buffers from the pool. -/
theorem GoesOn.of_unopened (h : GoesOn horizon plan .unopened server later left more) :
    ∃ connection, later.connection? = some connection ∧ later.IsHeld ∧
      (connection.buffers, left.accounts) = server.accounts.lend := by
  obtain ⟨server⟩ := h
  exact ⟨_, rfl, ⟨_, rfl, rfl, rfl⟩, Connection.accounts_openPlanned plan server⟩

/-- **A turn of an open connection that holds its buffers** keeps the accounts, or closes the
connection, or ends with its action abandoned. -/
theorem GoesOn.of_isHeld (h : GoesOn horizon plan stage server later left more)
    (hheld : stage.IsHeld) :
    later.IsHeld ∧ left.accounts = server.accounts ∨
      (∃ connection, later.connection? = some connection ∧ later.IsOver ∧
        left.accounts = server.accounts.takeBack connection.buffers ∧
        ∃ milestone, more = [milestone]) ∨
      ∃ action, .performed action none ∈ more := by
  obtain ⟨connection, hconnection, hattached, hopen⟩ := hheld
  cases h with
  | opening server => cases hconnection
  | beginning action actions now server =>
    -- an action that begins and one that goes on leave the buffers with the connection
    cases hconnection
    exact .inl ⟨⟨_, rfl, hattached, hopen⟩, rfl⟩
  | next action actions hnext =>
    cases hconnection
    exact .inl ⟨⟨_, rfl, hattached, hopen⟩, Server.accounts_after ..⟩
  | @closing _ run _ action actions server hclosed =>
    cases hconnection
    -- what is given back are the buffers as the last phase has left them
    refine .inr (.inl ⟨_, rfl, ⟨_, rfl, rfl, rfl⟩, ?_, _, rfl⟩)
    have hleft : (connection.leftBy run).isAttached = true := hattached
    rw [Connection.accounts_finish_of_open hleft hopen, Server.accounts_after]
    rfl
  | abandoning action actions server hhanging => exact .inr (.inr ⟨action, List.mem_cons_self⟩)
  | refusing actions server hdetached | closingAgain actions server hdetached =>
    -- these are answers of a connection without a stream
    cases hconnection
    rw [hattached] at hdetached
    cases hdetached
  | dropping connection server =>
    cases hconnection
    exact .inr (.inl ⟨_, rfl, ⟨_, rfl, rfl, rfl⟩,
      Connection.accounts_finish_of_open hattached hopen, _, rfl⟩)
  | resting connection server =>
    cases hconnection
    exact .inl ⟨⟨_, rfl, hattached, hopen⟩, rfl⟩

/-- Nothing but its opening has been noted down about a connection that holds its buffers. -/
theorem IsSound.deeds_of_isHeld (h : stage.IsSound horizon plan deeds) (hheld : stage.IsHeld) :
    deeds = [.opened] := by
  obtain ⟨connection, hconnection, hattached, hopen⟩ := hheld
  cases h with
  | unopened => cases hconnection
  | opened _ _ hdeeds | inPhase _ _ _ _ _ _ hdeeds => exact hdeeds
  | detached _ _ _ hdetached | dropped _ hdetached =>
    cases hconnection
    rw [hattached] at hdetached
    cases hdetached

/-- **A turn of a connection that is over** keeps the accounts, and the stream as well. -/
theorem GoesOn.of_isOver (h : GoesOn horizon plan stage server later left more)
    (hsound : stage.IsSound horizon plan deeds) (hover : stage.IsOver) :
    later.IsOver ∧ left.accounts = server.accounts ∧
      later.connection?.map Connection.link = stage.connection?.map Connection.link := by
  obtain ⟨connection, hconnection, hdetached, hclosed⟩ := hover
  cases h with
  | opening server => cases hconnection
  | beginning action actions now server hattached =>
    cases hconnection
    rw [hattached] at hdetached
    cases hdetached
  | next | closing | abandoning =>
    -- a connection has its stream in every phase
    cases hconnection
    cases hsound with
    | inPhase _ _ _ _ hattached =>
      rw [hattached] at hdetached
      cases hdetached
  | refusing actions server =>
    cases hconnection
    exact ⟨⟨_, rfl, hdetached, hclosed⟩, rfl, rfl⟩
  | closingAgain actions server =>
    -- to close it and to drop it finish it once more, with nothing to give back
    cases hconnection
    exact ⟨⟨_, rfl, rfl, rfl⟩, Connection.accounts_finish_of_closed hdetached hclosed, rfl⟩
  | dropping connection server =>
    cases hconnection
    exact ⟨⟨_, rfl, rfl, rfl⟩, Connection.accounts_finish_of_closed hdetached hclosed, rfl⟩
  | resting connection server =>
    cases hconnection
    exact ⟨⟨_, rfl, hdetached, hclosed⟩, rfl, rfl⟩

/-- **The gauge goes with the connection**: up when it is opened, down when it is closed. -/
theorem GoesOn.live (h : GoesOn horizon plan stage server later left more) :
    left.metrics.live + stage.isOpen.toNat = server.metrics.live + later.isOpen.toNat := by
  have hafter (name : String) (run : PhaseRun) (server : Server) :
      (server.after name run).metrics.live = server.metrics.live :=
    congrArg Accounts.live (Server.accounts_after name run server)
  -- only three turns finish the connection, and for an open one each of them counts down
  cases h with
  | opening server =>
    have hlend := congrArg (·.2.live) (Connection.accounts_openPlanned plan server)
    show (server.openPlanned plan).2.accounts.live + 0 = server.accounts.live + 1
    rw [add_zero]
    exact hlend
  | beginning => rfl
  | next => rw [hafter]; rfl
  | @closing connection run _ action actions server =>
    have hfinish := (connection.leftBy run).live_finish (server.after connection.name run)
    rw [hafter] at hfinish
    exact hfinish.trans (add_zero _).symm
  | abandoning => rw [hafter]; rfl
  | refusing => rfl
  | @closingAgain connection => exact (connection.live_finish server).trans (add_zero _).symm
  | dropping connection => exact (connection.live_finish server).trans (add_zero _).symm
  | resting => rfl

/-- The counter goes up when the connection is opened, and never down. -/
theorem GoesOn.total (h : GoesOn horizon plan stage server later left more) :
    left.metrics.total + stage.isCreated.toNat = server.metrics.total + later.isCreated.toNat := by
  have hafter (name : String) (run : PhaseRun) (server : Server) :
      (server.after name run).metrics.total = server.metrics.total :=
    congrArg Accounts.total (Server.accounts_after name run server)
  cases h with
  | opening server =>
    exact congrArg (·.2.total) (Connection.accounts_openPlanned plan server)
  | beginning => rfl
  | next => rw [hafter]; rfl
  | closing => rw [Connection.total_finish, hafter]; rfl
  | abandoning => rw [hafter]; rfl
  | refusing => rfl
  | closingAgain => rw [Connection.total_finish]; rfl
  | dropping => rw [Connection.total_finish]; rfl
  | resting => rfl

end Stage

/-! ### The turns of a strand -/

namespace Turn

variable (horizon : Option Time) (turn : Turn)

/-- The connection is opened: two buffers are lent to it, and it is counted. -/
def IsOpening : Prop :=
  ∃ connection, (turn.next horizon).stage.connection? = some connection ∧
    (connection.buffers, (turn.left horizon).accounts) = turn.server.accounts.lend

/-- The connection is closed: its two buffers are taken back, and it is counted no more. This is the
first thing that is noted down about it since its opening. -/
def IsClosing : Prop :=
  ∃ connection, (turn.next horizon).stage.connection? = some connection ∧
    (turn.left horizon).accounts = turn.server.accounts.takeBack connection.buffers ∧
    turn.strand.deeds = [.opened] ∧ ∃ milestone, (turn.next horizon).deeds = [.opened, milestone]

/-- The accounts of the server stay as they are. -/
def KeepsAccounts : Prop := (turn.left horizon).accounts = turn.server.accounts

/-- The stream of the connection stays as it is, with its buffers. -/
def KeepsLink : Prop :=
  (turn.next horizon).stage.connection?.map Connection.link =
    turn.strand.stage.connection?.map Connection.link

end Turn

namespace Strand

/-- An action has not been run to its end. -/
def IsAbandoned (strand : Strand) : Prop := ∃ action, .performed action none ∈ strand.deeds

/-- **What the turns of a connection do to the accounts**, in their order, up to a moment. -/
inductive IsAccounted (horizon : Option Time) : List Turn → Strand → Prop
  /-- There has been no turn. -/
  | unopened {last : Strand} (hlast : last.stage = .unopened) : IsAccounted horizon [] last
  /-- The connection is open. -/
  | held {opening : Turn} {used : List Turn} {last : Strand} (hopening : opening.IsOpening horizon)
      (hused : ∀ turn ∈ used, turn.KeepsAccounts horizon) (hlast : last.stage.IsHeld) :
      IsAccounted horizon (opening :: used) last
  /-- The connection is closed. -/
  | over {opening closing : Turn} {used rest : List Turn} {last : Strand}
      (hopening : opening.IsOpening horizon) (hused : ∀ turn ∈ used, turn.KeepsAccounts horizon)
      (hclosing : closing.IsClosing horizon)
      (hrest : ∀ turn ∈ rest, turn.KeepsAccounts horizon ∧ turn.KeepsLink horizon)
      (hlast : last.stage.IsOver) :
      IsAccounted horizon (opening :: used ++ closing :: rest) last

variable {horizon : Option Time} {strand last : Strand} {turns : List Turn}

/-- What has been noted down is never taken back. -/
theorem deeds_prefix_takes (h : strand.Takes horizon turns last) : strand.deeds <+: last.deeds := by
  induction h with
  | rest strand => exact List.prefix_refl _
  | @turn strand last turns server _ ih =>
    obtain ⟨more, -, -, hdeeds⟩ := strand.exists_goesOn horizon server
    exact (hdeeds ▸ List.prefix_append _ more).trans ih

/-- A connection that is over stays so, and does nothing more. -/
theorem IsSound.of_isOver (h : strand.IsSound horizon) (hover : strand.stage.IsOver)
    (htakes : strand.Takes horizon turns last) :
    last.stage.IsOver ∧ ∀ turn ∈ turns, turn.KeepsAccounts horizon ∧ turn.KeepsLink horizon := by
  induction htakes with
  | rest strand => exact ⟨hover, List.forall_mem_nil _⟩
  | @turn strand last turns server _ ih =>
    obtain ⟨more, hgoes, -, -⟩ := strand.exists_goesOn horizon server
    obtain ⟨hnext, haccounts, hlink⟩ := hgoes.of_isOver h hover
    obtain ⟨hlast, hrest⟩ := ih (h.advance server) hnext
    exact ⟨hlast, List.forall_mem_cons.2 ⟨⟨haccounts, hlink⟩, hrest⟩⟩

/-- An open connection keeps the accounts as they are until it is closed, if it is not abandoned. -/
theorem IsSound.of_isHeld (h : strand.IsSound horizon) (hheld : strand.stage.IsHeld)
    (htakes : strand.Takes horizon turns last) (hlast : ¬last.IsAbandoned) :
    (last.stage.IsHeld ∧ ∀ turn ∈ turns, turn.KeepsAccounts horizon) ∨
      last.stage.IsOver ∧ ∃ used closing rest, turns = used ++ closing :: rest ∧
        (∀ turn ∈ used, turn.KeepsAccounts horizon) ∧ closing.IsClosing horizon ∧
        ∀ turn ∈ rest, turn.KeepsAccounts horizon ∧ turn.KeepsLink horizon := by
  induction htakes with
  | rest strand => exact .inl ⟨hheld, List.forall_mem_nil _⟩
  | @turn strand last turns server htakes ih =>
    -- the first turn tells which it is; after the closing nothing more can happen
    obtain ⟨more, hgoes, -, hdeeds⟩ := strand.exists_goesOn horizon server
    rcases hgoes.of_isHeld hheld with
      ⟨hnext, haccounts⟩ | ⟨connection, hconnection, hover, haccounts, milestone, rfl⟩ |
      ⟨action, habandoned⟩
    · -- the connection stays open in this turn
      have hfirst : Turn.KeepsAccounts horizon ⟨strand, server⟩ := haccounts
      rcases ih (h.advance server) hnext hlast with
        ⟨hheld', hall⟩ | ⟨hover, used, closing, rest, rfl, hused, hclosing, hrest⟩
      · exact .inl ⟨hheld', List.forall_mem_cons.2 ⟨hfirst, hall⟩⟩
      · exact .inr ⟨hover, ⟨strand, server⟩ :: used, closing, rest, rfl,
          List.forall_mem_cons.2 ⟨hfirst, hused⟩, hclosing, hrest⟩
    · -- it is closed in this turn
      obtain ⟨hover', hrest⟩ := (h.advance server).of_isOver hover htakes
      have hopened : strand.deeds = [.opened] := Stage.IsSound.deeds_of_isHeld h hheld
      rw [hopened] at hdeeds
      exact .inr ⟨hover', [], ⟨strand, server⟩, _, rfl, List.forall_mem_nil _,
        ⟨connection, hconnection, haccounts, hopened, milestone, hdeeds⟩, hrest⟩
    · -- it is abandoned in this turn, and that is not forgotten
      have hmem : .performed action none ∈ last.deeds :=
        (deeds_prefix_takes htakes).subset (hdeeds ▸ List.mem_append_right _ habandoned)
      exact absurd ⟨action, hmem⟩ hlast

/-- **A connection costs its server two buffers and a place in the count**, from its opening to its
closing and once only. -/
theorem isAccounted_of_takes {now : Time} {plan : Plan}
    (htakes : (start now plan).Takes horizon turns last) (hlast : ¬last.IsAbandoned) :
    IsAccounted horizon turns last := by
  cases htakes with
  | rest => exact .unopened rfl
  | turn server htakes =>
    obtain ⟨more, hgoes, -, -⟩ := (start now plan).exists_goesOn horizon server
    obtain ⟨connection, hconnection, hheld, hlend⟩ := Stage.GoesOn.of_unopened hgoes
    have hopening : Turn.IsOpening horizon ⟨start now plan, server⟩ :=
      ⟨connection, hconnection, hlend⟩
    have hsound := (isSound_start horizon now plan).advance server
    rcases hsound.of_isHeld hheld htakes hlast with
      ⟨hheld', hused⟩ | ⟨hover, used, closing, rest, rfl, hused, hclosing, hrest⟩
    · exact .held hopening hused hheld'
    · exact .over hopening hused hclosing hrest hover

end Strand

/-! ### All strands together -/

/-- Replacing an element of a list changes a count by what the two elements count for. -/
theorem countP_set_add {α : Type} (p : α → Bool) {l : List α} {i : ℕ} {a : α} (h : l[i]? = some a)
    (b : α) : (l.set i b).countP p + (p a).toNat = l.countP p + (p b).toNat := by
  obtain ⟨hlt, rfl⟩ := List.getElem?_eq_some_iff.1 h
  rw [List.countP_set hlt]
  have hcount : (p l[i]).toNat ≤ l.countP p := by
    cases hp : p l[i] with
    | false => exact Nat.zero_le _
    | true => exact List.countP_pos_iff.2 ⟨l[i], List.getElem_mem hlt, hp⟩
  cases hold : p l[i] <;> cases p b
  all_goals
    simp only [hold, Bool.toNat_false, Bool.toNat_true, Bool.false_eq_true, if_false, if_true]
      at hcount ⊢
    omega

namespace Session

/-- The counts of the server are those of the strands. -/
structure IsBalanced (session : Session) : Prop where
  live : session.server.metrics.live = session.strands.countP fun strand ↦ strand.stage.isOpen
  total : session.server.metrics.total = session.strands.countP fun strand ↦ strand.stage.isCreated

variable {horizon : Option Time} {session : Session}

/-- **Each event keeps the balance.** -/
theorem IsBalanced.happen (h : session.IsBalanced) (horizon : Option Time) (event : Event) :
    (session.happen horizon event).IsBalanced := by
  cases event with
  | beginShutdown => exact ⟨h.live, h.total⟩
  | advance place =>
    rw [Session.happen, advanceAt]
    rcases hstrand : session.strands[place]? with - | strand
    · exact h
    · obtain ⟨more, hgoes, -, -⟩ := strand.exists_goesOn horizon session.server
      have hlive := hgoes.live
      have htotal := hgoes.total
      -- the count of the strands changes by what this one counts for before and after
      have hopen := countP_set_add (fun strand ↦ strand.stage.isOpen) hstrand
        (strand.advance horizon session.server).1
      have hcreated := countP_set_add (fun strand ↦ strand.stage.isCreated) hstrand
        (strand.advance horizon session.server).1
      rw [h.live] at hlive
      rw [h.total] at htotal
      constructor
      · show (strand.advance horizon session.server).2.metrics.live =
          (session.strands.set place (strand.advance horizon session.server).1).countP _
        omega
      · show (strand.advance horizon session.server).2.metrics.total =
          (session.strands.set place (strand.advance horizon session.server).1).countP _
        omega

theorem IsBalanced.play (h : session.IsBalanced) (horizon : Option Time) (events : List Event) :
    (session.play horizon events).IsBalanced := by
  induction events generalizing session with
  | nil => exact h
  | cons event events ih => exact ih (h.happen horizon event)

/-- A session in which nothing has happened is balanced. -/
theorem isBalanced_start (settings : ServerSettings) (dispatcher : Dispatcher)
    {strands : List Strand} (hstart : ∀ strand ∈ strands, ∃ now plan, strand = .start now plan) :
    IsBalanced ⟨.start settings dispatcher, strands⟩ := by
  have hnone (p : Stage → Bool) (hp : p .unopened = false) :
      strands.countP (fun strand ↦ p strand.stage) = 0 := by
    refine List.countP_eq_zero.2 fun strand hmem ↦ ?_
    obtain ⟨now, plan, rfl⟩ := hstart strand hmem
    exact Bool.not_eq_true _ ▸ hp
  refine ⟨?_, ?_⟩
  · rw [hnone Stage.isOpen rfl]
    rfl
  · rw [hnone Stage.isCreated rfl]
    rfl

/-- **The lifecycle of connections is accounted for**, for any number of connections that are
opened, asked to serve and to close in any order and as often as one likes, and dropped, and in
every interleaving of what they do. At every moment the gauge is the number of connections that
have been opened and not closed, and the counter the number of those that have been opened. The
first action of a connection is the only one that does anything; to serve it again is refused. A
connection whose action has been run to its end is counted down once and gives its two buffers
back once, at the end of its first action or when it is dropped without one, and changes nothing
from then on. -/
theorem isAccounted_play (settings : ServerSettings) (dispatcher : Dispatcher)
    {strands : List Strand} (hstart : ∀ strand ∈ strands, ∃ now plan, strand = .start now plan)
    (horizon : Option Time) (events : List Event) :
    let session : Session := ⟨.start settings dispatcher, strands⟩
    let later := session.play horizon events
    later.server.metrics.live = later.strands.countP (fun strand ↦ strand.stage.isOpen) ∧
      0 ≤ later.server.metrics.live ∧
      later.server.metrics.total = later.strands.countP (fun strand ↦ strand.stage.isCreated) ∧
      ∀ place last, later.strands[place]? = some last →
        (∃ reason?, last.deeds <+: last.plan.milestones reason?) ∧
        ((∃ connection, last.stage = .dropped connection) → last.stage.IsOver) ∧
        (¬last.IsAbandoned →
          Strand.IsAccounted horizon (session.turnsAt horizon place events) last) := by
  intro session later
  obtain ⟨hlive, htotal⟩ := (isBalanced_start settings dispatcher hstart).play horizon events
  refine ⟨hlive, ?_, htotal, fun place last hlast ↦ ?_⟩
  · rw [hlive]
    exact Int.natCast_nonneg _
  · obtain ⟨strand, hstrand, htakes⟩ := exists_takes_of_play hlast
    obtain ⟨now, plan, rfl⟩ := hstart strand (List.mem_of_getElem? hstrand)
    have hsound := (Strand.isSound_start horizon now plan).takes htakes
    refine ⟨hsound.exists_prefix, ?_, Strand.isAccounted_of_takes htakes⟩
    -- of the stages that can be come to, only one has a connection that was dropped
    rintro ⟨connection, hdropped⟩
    rw [Strand.IsSound, hdropped] at hsound
    obtain - | - | - | - | ⟨-, hdetached, hclosed⟩ := hsound
    exact ⟨connection, hdropped ▸ rfl, hdetached, hclosed⟩

/-- Three connections: one is served, is asked to serve again and is closed, one is dropped as soon
as it is opened, and one is closed and then asked to serve. -/
theorem isAccounted_play_three :
    let request := (Frame.ofBody (.make 7 0) [1, 2]).encode
    let served : Plan := ⟨"conn-1", .ofScript [⟨0, .data request⟩, ⟨4, .eof⟩], .eager, false,
      [.serve, .serve, .close]⟩
    let unused : Plan := ⟨"conn-2", .silent, .eager, false, []⟩
    let refused : Plan := ⟨"conn-3", .silent, .eager, false, [.close, .serve]⟩
    let strands : List Strand := [.start 0 served, .start 0 unused, .start 3 refused]
    let dispatcher := Dispatcher.byCode ⟨[(7, .echo)]⟩
    let session : Session := ⟨.start .default dispatcher, strands⟩
    let events : List Event :=
      [0, 2, 1, 0, 0, 2, 0, 2, 1, 0, 2, 0, 0, 0, 0, 0, 2, 0].map .advance
    let later := session.play none events
    (∀ strand ∈ strands, ∃ now plan, strand = .start now plan) ∧
      later.strands.map Strand.deeds =
        [[.opened, .performed .serve (some .peerClosed), .performed .serve (some .alreadyClosed),
          .performed .close (some .requested), .dropped], [.opened, .dropped],
        [.opened, .performed .close (some .requested), .performed .serve (some .alreadyClosed),
          .dropped]] ∧
      (session.play none (events.take 10)).server.metrics.live = 1 ∧
      later.server.metrics.live = 0 ∧ later.server.metrics.total = 3 ∧
      ∀ place last, later.strands[place]? = some last →
        Strand.IsAccounted none (session.turnsAt none place events) last := by
  intro request served unused refused strands dispatcher session events later
  have hstart : ∀ strand ∈ strands, ∃ now plan, strand = .start now plan := by
    intro strand hmem
    obtain rfl | rfl | rfl := List.mem_cons.1 hmem |>.imp_right fun hmem ↦
      (List.mem_cons.1 hmem).imp_right List.mem_singleton.1
    exacts [⟨0, served, rfl⟩, ⟨0, unused, rfl⟩, ⟨3, refused, rfl⟩]
  have hfinished : ∀ action ∈ [Connection.Action.serve, .close],
      ∀ deeds ∈ later.strands.map Strand.deeds, .performed action none ∉ deeds := by
    decide +kernel
  refine ⟨hstart, by decide +kernel, by decide +kernel, by decide +kernel, by decide +kernel,
    fun place last hlast ↦ ?_⟩
  obtain ⟨-, -, -, hstrands⟩ := isAccounted_play .default dispatcher hstart none events
  refine (hstrands place last hlast).2.2 ?_
  rintro ⟨action, hmem⟩
  refine hfinished action ?_ last.deeds (List.mem_map_of_mem (List.mem_of_getElem? hlast)) hmem
  cases action with
  | serve => exact List.mem_cons_self
  | close => exact List.mem_cons_of_mem _ List.mem_cons_self

end Session

end FramedExchange
