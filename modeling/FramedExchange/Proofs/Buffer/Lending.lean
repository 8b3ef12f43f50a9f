import FramedExchange.Proofs.Serving.Shared
import Mathlib.Data.List.Perm.Basic

/-!
# Who has the buffers of a pool

A pool does not know who has the buffers that it has handed out, and two buffers with the same bytes
and the same room are the same to it. A lending knows both: each buffer has a name of its own, under
which it is either idle or with one holder. What a lending does to its pool is to take and to hand
back (`Lending.pool_perform`), so whatever is true of all lendings is true of the pool.

A pool is tidy if it has no more buffers than it may and if they are empty and not too large
(`Pool.IsTidy`). In what order ever buffers are lent, used, taken back and lost, the pool is tidy,
no name occurs twice, and the buffer handed out is the one that came back last
(`Lending.isInOrder_performAll`). Nothing is handed out only if no buffer is idle and new ones are
too large to be made. The pool of a server is that of such a lending
(`Server.Reachable.exists_actions`).

How large a buffer may be is said of its capacity, the room for its bytes and for what may follow
them. The room before them, which the bytes taken from the front have left, is not counted.
-/

namespace FramedExchange

namespace Pool

/-- What a pool can keep: a buffer that is not too large, while it is not full. -/
def Keeps (buffer : Buffer) (pool : Pool) : Prop :=
  buffer.capacity ≤ pool.keepLimit ∧ pool.available < pool.capacity

instance (buffer : Buffer) (pool : Pool) : Decidable (pool.Keeps buffer) :=
  inferInstanceAs (Decidable (_ ∧ _))

/-- What a pool was made with. -/
def settings (pool : Pool) : ℕ × ℕ := (pool.capacity, pool.bufferSize)

/-- What is idle in a pool: few enough buffers, which are empty and not too large. -/
structure IsTidy (pool : Pool) : Prop where
  isClean : pool.IsClean
  available_le : pool.available ≤ pool.capacity
  capacity_le : ∀ buffer ∈ pool.idle, buffer.capacity ≤ pool.keepLimit

variable {pool : Pool} {buffer : Buffer}

theorem release_of_keeps (h : pool.Keeps buffer) :
    pool.release buffer = { pool with idle := buffer.clear :: pool.idle } := if_pos h

theorem release_of_not_keeps (h : ¬pool.Keeps buffer) : pool.release buffer = pool := if_neg h

/-- To take a buffer is to take the next one, if one can be had. -/
theorem eq_next_of_acquire {rest : Pool} (h : pool.acquire = .ok (buffer, rest)) :
    buffer = pool.next.1 ∧ rest = pool.next.2 := by
  by_cases hhad : pool.idle ≠ [] ∨ pool.bufferSize ≤ Allocation.limit
  · rw [acquire_eq_next hhad] at h
    exact Prod.mk.inj (Except.ok.inj h).symm
  · obtain ⟨hidle, hlarge⟩ := not_or.1 hhad
    rw [acquire_eq_error (not_not.1 hidle) (Nat.lt_of_not_le hlarge)] at h
    cases h

theorem settings_acquire {rest : Pool} (h : pool.acquire = .ok (buffer, rest)) :
    rest.settings = pool.settings := by
  obtain ⟨-, rfl⟩ := eq_next_of_acquire h
  unfold next
  split <;> rfl

theorem settings_release (buffer : Buffer) : (pool.release buffer).settings = pool.settings := by
  unfold release
  split <;> rfl

theorem isTidy_empty (capacity bufferSize : ℕ) : (empty capacity bufferSize).IsTidy :=
  ⟨isClean_empty _ _, Nat.zero_le _, nofun⟩

/-- What is left when a buffer has been taken is tidy. -/
theorem IsTidy.next (htidy : pool.IsTidy) : pool.next.2.IsTidy := by
  have hclean := htidy.isClean.next.2
  rcases hidle : pool.idle with - | ⟨first, rest⟩
  · rw [Pool.next, hidle]
    exact htidy
  · have havailable := htidy.available_le
    have hcapacity := htidy.capacity_le
    rw [Pool.next, hidle] at hclean ⊢
    rw [Pool.available, hidle] at havailable
    rw [hidle] at hcapacity
    exact ⟨hclean, Nat.le_trans (Nat.le_succ _) havailable,
      fun buffer hmem ↦ hcapacity buffer (List.mem_cons_of_mem _ hmem)⟩

theorem IsTidy.acquire (htidy : pool.IsTidy) {rest : Pool}
    (h : pool.acquire = .ok (buffer, rest)) : rest.IsTidy := by
  obtain ⟨-, rfl⟩ := eq_next_of_acquire h
  exact htidy.next

theorem IsTidy.release (htidy : pool.IsTidy) (buffer : Buffer) : (pool.release buffer).IsTidy := by
  have hclean := htidy.isClean.release buffer
  by_cases hkeeps : pool.Keeps buffer
  · rw [release_of_keeps hkeeps] at hclean ⊢
    refine ⟨hclean, hkeeps.2, fun other hmem ↦ ?_⟩
    rcases List.mem_cons.1 hmem with rfl | hmem
    · exact hkeeps.1
    · exact htidy.capacity_le other hmem
  · rwa [release_of_not_keeps hkeeps]

end Pool

/-! ### Lendings -/

/-- Who has a buffer: somebody who asked for nothing else, or a reader or a writer that works with
it. -/
inductive Holder
  | plain (buffer : Buffer)
  | reader (reader : Reader)
  | writer (writer : Writer)
deriving DecidableEq, Repr

/-- The buffer that a holder has. -/
def Holder.buffer : Holder → Buffer
  | .plain buffer => buffer
  | .reader r => r.buffer
  | .writer w => w.buffer

/-- What a buffer is lent for. -/
inductive Purpose
  | plain
  | reader (source : Source)
  | writer (sink : Sink)
deriving DecidableEq, Repr

/-- The holder of a buffer that has just been lent. -/
def Purpose.holder (buffer : Buffer) : Purpose → Holder
  | plain => .plain buffer
  | reader source => .reader ⟨buffer, source⟩
  | writer sink => .writer ⟨buffer, sink⟩

/-- A buffer that is idle, by its name, and since when. -/
structure Deposit where
  name : ℕ
  since : ℕ
  buffer : Buffer
deriving DecidableEq, Repr

/-- A buffer that is with a holder, by its name. -/
structure Loan where
  name : ℕ
  holder : Holder
deriving DecidableEq, Repr

/-- A pool together with all buffers that it has handed out. -/
structure Lending where
  capacity : ℕ
  bufferSize : ℕ
  /-- The idle buffers, the one that goes out next first. -/
  idle : List Deposit
  /-- The buffers that are out. -/
  lent : List Loan
  /-- How many actions there have been. A buffer gets the number of an action for its name. -/
  clock : ℕ
deriving DecidableEq, Repr

namespace Lending

/-- What may be done with the buffers of a pool. -/
inductive Action
  /-- A buffer is lent. -/
  | lend (purpose : Purpose)
  /-- What a holder has done with the buffer leaves it with any bytes and any room. -/
  | use (place : ℕ) (holder : Holder)
  /-- A buffer is taken back from its holder. -/
  | reclaim (place : ℕ)
  /-- A buffer is lost with its holder. -/
  | drop (place : ℕ)
  /-- A buffer is handed in that is not from the pool. -/
  | release (buffer : Buffer)
deriving DecidableEq, Repr

/-- Nothing is idle and nothing is lent. -/
def start (capacity bufferSize : ℕ) : Lending := ⟨capacity, bufferSize, [], [], 0⟩

/-- The pool of a lending does not know the names. -/
def pool (lending : Lending) : Pool :=
  ⟨lending.capacity, lending.bufferSize, lending.idle.map Deposit.buffer⟩

/-- The names of all buffers, those that are idle and those that are out. -/
def names (lending : Lending) : List ℕ :=
  lending.idle.map Deposit.name ++ lending.lent.map Loan.name

/-- Lend the buffer that is to go out next, or else a new one. Nothing is lent by somebody who
panics because a new one cannot be made. -/
def lend (purpose : Purpose) (lending : Lending) : Lending :=
  match lending.idle with
  | [] =>
    match Buffer.allocate lending.bufferSize with
    | .ok buffer =>
      { lending with lent := ⟨lending.clock, purpose.holder buffer⟩ :: lending.lent }
    | .error _ => lending
  | deposit :: rest =>
    { lending with
      idle := rest, lent := ⟨deposit.name, purpose.holder deposit.buffer⟩ :: lending.lent }

/-- Take in a buffer, if the pool keeps it. -/
def takeIn (name : ℕ) (buffer : Buffer) (lending : Lending) : Lending :=
  if lending.pool.Keeps buffer then
    { lending with idle := ⟨name, lending.clock, buffer.clear⟩ :: lending.idle }
  else lending

/-- End a loan. -/
def endLoan (place : ℕ) (lending : Lending) : Lending :=
  { lending with lent := lending.lent.eraseIdx place }

/-- Let a holder be another one, with the same loan. -/
def setHolder (place : ℕ) (holder : Holder) (lending : Lending) : Lending :=
  { lending with lent := lending.lent.modify place fun loan ↦ { loan with holder } }

/-- Take a buffer back from its holder. -/
def reclaim (place : ℕ) (lending : Lending) : Lending :=
  match lending.lent[place]? with
  | some loan => (lending.endLoan place).takeIn loan.name loan.holder.buffer
  | none => lending

/-- What an action does. An action on a loan that there is not does nothing. -/
def act (lending : Lending) : Action → Lending
  | .lend purpose => lending.lend purpose
  | .use place holder => lending.setHolder place holder
  | .reclaim place => lending.reclaim place
  | .drop place => lending.endLoan place
  | .release buffer => lending.takeIn lending.clock buffer

/-- Perform an action, and let the time go on. -/
def perform (lending : Lending) (action : Action) : Lending :=
  { lending.act action with clock := lending.clock + 1 }

/-- What actions do, one after the other. -/
def performAll (actions : List Action) (lending : Lending) : Lending :=
  actions.foldl perform lending

/-- What an action on a lending does to its pool. -/
def Action.onPool (lending : Lending) : Action → Pool
  | lend _ =>
    match lending.pool.acquire with
    | .ok (_, pool) => pool
    | .error _ => lending.pool
  | use _ _ => lending.pool
  | reclaim place =>
    match lending.lent[place]? with
    | some loan => lending.pool.release loan.holder.buffer
    | none => lending.pool
  | drop _ => lending.pool
  | release buffer => lending.pool.release buffer

variable {lending : Lending}

theorem pool_takeIn (name : ℕ) (buffer : Buffer) :
    (lending.takeIn name buffer).pool = lending.pool.release buffer := by
  by_cases hkeeps : lending.pool.Keeps buffer
  · rw [takeIn, if_pos hkeeps, Pool.release_of_keeps hkeeps]
    rfl
  · rw [takeIn, if_neg hkeeps, Pool.release_of_not_keeps hkeeps]

/-- If nothing is idle, a new buffer is lent. -/
theorem lend_of_nil (hidle : lending.idle = []) (hsize : lending.bufferSize ≤ Allocation.limit)
    (purpose : Purpose) : lending.lend purpose =
      { lending with lent :=
        ⟨lending.clock, purpose.holder (Buffer.withCapacity lending.bufferSize)⟩ ::
          lending.lent } := by
  rw [lend, hidle, Buffer.allocate_of_le hsize]

/-- Nothing is lent if none can be made. -/
theorem lend_of_lt (hidle : lending.idle = []) (hlarge : Allocation.limit < lending.bufferSize)
    (purpose : Purpose) : lending.lend purpose = lending := by
  rw [lend, hidle, Buffer.allocate_of_lt hlarge]

/-- Otherwise the first idle buffer is. -/
theorem lend_of_cons {deposit : Deposit} {rest : List Deposit}
    (hidle : lending.idle = deposit :: rest) (purpose : Purpose) :
    lending.lend purpose = { lending with
      idle := rest, lent := ⟨deposit.name, purpose.holder deposit.buffer⟩ :: lending.lent } := by
  rw [lend, hidle]

/-- A buffer is idle, or a new one can be made, or there is none to be had. -/
theorem supply_cases (lending : Lending) :
    (∃ deposit rest, lending.idle = deposit :: rest) ∨
      (lending.idle = [] ∧ lending.bufferSize ≤ Allocation.limit) ∨
        (lending.idle = [] ∧ Allocation.limit < lending.bufferSize) := by
  rcases hidle : lending.idle with - | ⟨deposit, rest⟩
  · exact .inr ((Nat.lt_or_ge Allocation.limit lending.bufferSize).symm.imp (⟨rfl, ·⟩) (⟨rfl, ·⟩))
  · exact .inl ⟨deposit, rest, rfl⟩

theorem acquire_of_cons {deposit : Deposit} {rest : List Deposit}
    (hidle : lending.idle = deposit :: rest) (purpose : Purpose) :
    lending.pool.acquire = .ok (deposit.buffer, (lending.lend purpose).pool) := by
  rw [lend_of_cons hidle, Pool.acquire, pool, hidle]
  rfl

theorem acquire_of_nil (hidle : lending.idle = []) (hsize : lending.bufferSize ≤ Allocation.limit)
    (purpose : Purpose) : lending.pool.acquire =
      .ok (Buffer.withCapacity lending.bufferSize, (lending.lend purpose).pool) := by
  rw [lend_of_nil hidle hsize, Pool.acquire_eq_next (.inr hsize), Pool.next, pool, hidle]
  rfl

theorem acquire_of_lt (hidle : lending.idle = []) (hlarge : Allocation.limit < lending.bufferSize) :
    lending.pool.acquire = .error (.text "capacity overflow") :=
  Pool.acquire_eq_error (List.map_eq_nil_iff.2 hidle) hlarge

theorem pool_lend (purpose : Purpose) :
    (lending.lend purpose).pool = (Action.lend purpose).onPool lending := by
  rw [Action.onPool]
  rcases lending.supply_cases with ⟨deposit, rest, hidle⟩ | ⟨hidle, hsize⟩ | ⟨hidle, hlarge⟩
  · rw [acquire_of_cons hidle purpose]
  · rw [acquire_of_nil hidle hsize purpose]
  · rw [acquire_of_lt hidle hlarge, lend_of_lt hidle hlarge]

/-- **To its pool an action is nothing but to take a buffer, to hand one back, or neither.** -/
theorem pool_perform (action : Action) : (lending.perform action).pool = action.onPool lending := by
  cases action with
  | lend purpose => exact pool_lend purpose
  | use place holder => rfl
  | reclaim place =>
    show (lending.reclaim place).pool = _
    rw [reclaim, Action.onPool]
    rcases lending.lent[place]? with - | loan
    · rfl
    · exact pool_takeIn loan.name loan.holder.buffer
  | drop place => rfl
  | release buffer => exact pool_takeIn lending.clock buffer

theorem isTidy_lend (htidy : lending.pool.IsTidy) (purpose : Purpose) :
    (lending.lend purpose).pool.IsTidy := by
  rw [pool_lend, Action.onPool]
  split
  · exact htidy.acquire ‹_›
  · exact htidy

/-- What a pool was made with never changes. -/
theorem settings_perform (action : Action) :
    (lending.perform action).pool.settings = lending.pool.settings := by
  rw [pool_perform]
  cases action with
  | lend purpose =>
    rw [Action.onPool]
    split
    · exact Pool.settings_acquire ‹_›
    · rfl
  | use place holder => rfl
  | reclaim place =>
    rw [Action.onPool]
    split
    · exact Pool.settings_release _
    · rfl
  | drop place => rfl
  | release buffer => exact Pool.settings_release buffer

/-! ### Names -/

theorem names_lend_of_nil (hidle : lending.idle = [])
    (hsize : lending.bufferSize ≤ Allocation.limit) (purpose : Purpose) :
    (lending.lend purpose).names.Perm (lending.clock :: lending.names) := by
  rw [lend_of_nil hidle hsize]
  exact List.perm_middle

theorem names_lend_of_cons {deposit : Deposit} {rest : List Deposit}
    (hidle : lending.idle = deposit :: rest) (purpose : Purpose) :
    (lending.lend purpose).names.Perm lending.names := by
  rw [lend_of_cons hidle, names, names, hidle]
  exact List.perm_middle

/-- The names that are left when a loan has ended. -/
theorem names_perm_endLoan {place : ℕ} {loan : Loan} (hloan : lending.lent[place]? = some loan) :
    lending.names.Perm (loan.name :: (lending.endLoan place).names) := by
  obtain ⟨hlt, rfl⟩ := List.getElem?_eq_some_iff.1 hloan
  have hlent : (lending.lent.map Loan.name).Perm
      (lending.lent[place].name :: (lending.lent.eraseIdx place).map Loan.name) :=
    ((List.getElem_cons_eraseIdx_perm hlt).map Loan.name).symm
  exact (hlent.append_left _).trans List.perm_middle

theorem names_setHolder (place : ℕ) (holder : Holder) :
    (lending.setHolder place holder).names = lending.names := by
  have hlent : (lending.lent.modify place fun loan ↦ { loan with holder }).map Loan.name =
      lending.lent.map Loan.name := by
    refine List.ext_getElem? fun n ↦ ?_
    rw [List.getElem?_map, List.getElem?_map, List.getElem?_modify]
    split <;> cases lending.lent[n]? <;> rfl
  rw [names, names, setHolder, hlent]

/-! ### What every action keeps -/

/-- What is true of a lending whose clock has not come to `bound`. -/
structure IsSound (bound : ℕ) (lending : Lending) : Prop where
  isTidy : lending.pool.IsTidy
  nodup : lending.names.Nodup
  name_lt : ∀ name ∈ lending.names, name < bound
  since_lt : ∀ deposit ∈ lending.idle, deposit.since < bound
  /-- The buffer that goes out next came back last. -/
  sorted : lending.idle.Pairwise fun next other ↦ other.since < next.since

variable {bound : ℕ}

theorem isSound_start (capacity bufferSize : ℕ) : (start capacity bufferSize).IsSound 0 :=
  ⟨Pool.isTidy_empty capacity bufferSize, List.nodup_nil, nofun, nofun, List.Pairwise.nil⟩

theorem IsSound.mono (h : lending.IsSound bound) : lending.IsSound (bound + 1) :=
  { h with
    name_lt := fun name hmem ↦ Nat.lt_succ_of_lt (h.name_lt name hmem)
    since_lt := fun deposit hmem ↦ Nat.lt_succ_of_lt (h.since_lt deposit hmem) }

theorem IsSound.clock_notMem (h : lending.IsSound lending.clock) : lending.clock ∉ lending.names :=
  fun hmem ↦ Nat.lt_irrefl _ (h.name_lt _ hmem)

/-- A buffer that is lent is one that was idle, or it has a new name. -/
theorem IsSound.lend (h : lending.IsSound lending.clock) (purpose : Purpose) :
    (lending.lend purpose).IsSound (lending.clock + 1) := by
  have htidy : (lending.lend purpose).pool.IsTidy := isTidy_lend h.isTidy purpose
  rcases lending.supply_cases with ⟨deposit, rest, hidle⟩ | ⟨hidle, hsize⟩ | ⟨hidle, hlarge⟩
  · -- the name goes over from the idle buffers to those that are out
    have hperm := names_lend_of_cons hidle purpose
    have hsorted := h.sorted
    rw [hidle] at hsorted
    refine ⟨htidy, hperm.nodup_iff.2 h.nodup,
      fun name hmem ↦ h.mono.name_lt name (hperm.mem_iff.1 hmem), ?_, ?_⟩
    · rw [lend_of_cons hidle]
      exact fun other hmem ↦ h.mono.since_lt other (hidle ▸ List.mem_cons_of_mem _ hmem)
    · rw [lend_of_cons hidle]
      exact (List.pairwise_cons.1 hsorted).2
  · -- a new buffer, whose name is the number of this action
    have hperm := names_lend_of_nil hidle hsize purpose
    refine ⟨htidy, hperm.nodup_iff.2 (List.nodup_cons.2 ⟨h.clock_notMem, h.nodup⟩), ?_, ?_, ?_⟩
    · intro name hmem
      rcases List.mem_cons.1 (hperm.mem_iff.1 hmem) with rfl | hmem
      · exact Nat.lt_succ_self _
      · exact h.mono.name_lt name hmem
    · rw [lend_of_nil hidle hsize]
      exact h.mono.since_lt
    · rw [lend_of_nil hidle hsize]
      exact h.sorted
  · rw [lend_of_lt hidle hlarge]
    exact h.mono

/-- A buffer may be taken in under a name that no other one has. -/
theorem IsSound.takeIn (h : lending.IsSound lending.clock) {name : ℕ} (hname : name ∉ lending.names)
    (hle : name ≤ lending.clock) (buffer : Buffer) :
    (lending.takeIn name buffer).IsSound (lending.clock + 1) := by
  have htidy : (lending.takeIn name buffer).pool.IsTidy :=
    pool_takeIn name buffer ▸ h.isTidy.release buffer
  by_cases hkeeps : lending.pool.Keeps buffer
  · rw [Lending.takeIn, if_pos hkeeps] at htidy ⊢
    refine ⟨htidy, List.nodup_cons.2 ⟨hname, h.nodup⟩, ?_, ?_,
      List.pairwise_cons.2 ⟨h.since_lt, h.sorted⟩⟩
    · intro other hmem
      rcases List.mem_cons.1 hmem with rfl | hmem
      · exact Nat.lt_succ_of_le hle
      · exact h.mono.name_lt other hmem
    · intro other hmem
      rcases List.mem_cons.1 hmem with rfl | hmem
      · exact Nat.lt_succ_self _
      · exact h.mono.since_lt other hmem
  · rw [Lending.takeIn, if_neg hkeeps]
    exact h.mono

theorem IsSound.endLoan (h : lending.IsSound bound) (place : ℕ) :
    (lending.endLoan place).IsSound bound := by
  have hsublist : (lending.endLoan place).names.Sublist lending.names :=
    ((List.eraseIdx_sublist ..).map Loan.name).append_left _
  exact ⟨h.isTidy, h.nodup.sublist hsublist, fun name hmem ↦ h.name_lt name (hsublist.subset hmem),
    h.since_lt, h.sorted⟩

theorem IsSound.setHolder (h : lending.IsSound bound) (place : ℕ) (holder : Holder) :
    (lending.setHolder place holder).IsSound bound := by
  have hnames : (lending.setHolder place holder).names = lending.names :=
    names_setHolder place holder
  exact ⟨h.isTidy, hnames ▸ h.nodup, hnames ▸ h.name_lt, h.since_lt, h.sorted⟩

theorem IsSound.reclaim (h : lending.IsSound lending.clock) (place : ℕ) :
    (lending.reclaim place).IsSound (lending.clock + 1) := by
  rw [Lending.reclaim]
  rcases hloan : lending.lent[place]? with - | loan
  · exact h.mono
  · -- the loan has ended, so its name is free to be idle
    have hperm := names_perm_endLoan hloan
    have hname := (List.nodup_cons.1 (hperm.nodup_iff.1 h.nodup)).1
    have hlt := h.name_lt _ (hperm.mem_iff.2 List.mem_cons_self)
    exact (h.endLoan place).takeIn hname (Nat.le_of_lt hlt) _

/-- **Every action keeps the buffers in order.** -/
theorem IsSound.perform (h : lending.IsSound lending.clock) (action : Action) :
    (lending.perform action).IsSound (lending.perform action).clock := by
  have hact : (lending.act action).IsSound (lending.clock + 1) := by
    cases action with
    | lend purpose => exact h.lend purpose
    | use place holder => exact (h.setHolder place holder).mono
    | reclaim place => exact h.reclaim place
    | drop place => exact (h.endLoan place).mono
    | release buffer => exact h.takeIn h.clock_notMem (Nat.le_refl _) buffer
  exact { hact with }

/-- Whatever is done, the buffers are in order. -/
theorem isSound_performAll (capacity bufferSize : ℕ) (actions : List Action) :
    ((start capacity bufferSize).performAll actions).IsSound
      ((start capacity bufferSize).performAll actions).clock :=
  List.foldlRecOn (motive := fun lending : Lending ↦ lending.IsSound lending.clock) actions perform
    (isSound_start capacity bufferSize) fun _ h action _ ↦ h.perform action

theorem settings_performAll (actions : List Action) (lending : Lending) :
    (lending.performAll actions).pool.settings = lending.pool.settings :=
  List.foldlRecOn (motive := fun later : Lending ↦ later.pool.settings = lending.pool.settings)
    actions perform rfl fun _ h action _ ↦ (settings_perform action).trans h

theorem bufferSize_perform (action : Action) :
    (lending.perform action).bufferSize = lending.bufferSize :=
  congrArg Prod.snd (settings_perform action)

theorem bufferSize_performAll (actions : List Action) (lending : Lending) :
    (lending.performAll actions).bufferSize = lending.bufferSize :=
  congrArg Prod.snd (settings_performAll actions lending)

/-! ### The law -/

/-- No buffer came back later. -/
def IsNewest (deposit : Deposit) (lending : Lending) : Prop :=
  deposit ∈ lending.idle ∧ ∀ other ∈ lending.idle, other.since ≤ deposit.since

/-- Which buffer goes out next: the one that came back last, or a new one if none is idle and a new
one can be made. -/
inductive HandsOut (lending : Lending) : (name : ℕ) → Buffer → Prop
  | newest {deposit : Deposit} (h : lending.IsNewest deposit) :
      HandsOut lending deposit.name deposit.buffer
  | fresh {name : ℕ} (hidle : lending.idle = []) (hsize : lending.bufferSize ≤ Allocation.limit)
      (hname : name ∉ lending.names) :
      HandsOut lending name (Buffer.withCapacity lending.bufferSize)

/-- What is true of a lending whatever has been done with the buffers. -/
structure IsInOrder (capacity bufferSize : ℕ) (lending : Lending) : Prop where
  settings : lending.pool.settings = (capacity, bufferSize)
  /-- No more buffers are idle than may be. -/
  available_le : lending.pool.available ≤ capacity
  /-- What is idle is empty and not too large, as far as its capacity tells. -/
  idle : ∀ buffer ∈ lending.pool.idle,
    buffer.bytes = [] ∧ buffer.capacity ≤ min (4 * bufferSize) maxSize
  /-- So its allocation is not too large, but for the room that bytes taken from the front
  have left. -/
  allocated_le : ∀ buffer ∈ lending.pool.idle,
    buffer.allocated ≤ min (4 * bufferSize) maxSize + buffer.offset
  /-- No buffer is in two places: idle twice, idle and out, or with two holders. -/
  nodup : lending.names.Nodup
  /-- An empty buffer is to be had at any time at which one is idle or a new one can be made. -/
  lend : lending.pool.idle ≠ [] ∨ bufferSize ≤ Allocation.limit → ∀ purpose, ∃ name buffer,
    lending.HandsOut name buffer ∧ buffer.bytes = [] ∧
    lending.pool.acquire = .ok (buffer, (lending.perform (.lend purpose)).pool) ∧
    (lending.perform (.lend purpose)).lent = ⟨name, purpose.holder buffer⟩ :: lending.lent
  /-- At any other time who wants one panics, and nothing changes hands. -/
  lend_panics : lending.pool.idle = [] → Allocation.limit < bufferSize → ∀ purpose,
    lending.pool.acquire = .error (.text "capacity overflow") ∧
    (lending.perform (.lend purpose)).pool = lending.pool ∧
    (lending.perform (.lend purpose)).lent = lending.lent
  /-- A buffer whose capacity is not too large comes back while there is room for it. -/
  release_kept : ∀ buffer : Buffer, buffer.capacity ≤ min (4 * bufferSize) maxSize →
    lending.pool.available < capacity →
    lending.pool.release buffer = { lending.pool with idle := buffer.clear :: lending.pool.idle }
  /-- Otherwise handing it back changes nothing. -/
  release_dropped : ∀ buffer : Buffer,
    ¬(buffer.capacity ≤ min (4 * bufferSize) maxSize ∧ lending.pool.available < capacity) →
    lending.pool.release buffer = lending.pool
  /-- To the pool an action is nothing but to take a buffer, to hand one back, or neither. -/
  pool_perform : ∀ action, (lending.perform action).pool = action.onPool lending

/-- The buffer that is lent next is the right one. -/
theorem IsSound.exists_handsOut (h : lending.IsSound lending.clock)
    (hhad : lending.pool.idle ≠ [] ∨ lending.bufferSize ≤ Allocation.limit) (purpose : Purpose) :
    ∃ name buffer, lending.HandsOut name buffer ∧
      lending.pool.acquire = .ok (buffer, (lending.lend purpose).pool) ∧
      (lending.lend purpose).lent = ⟨name, purpose.holder buffer⟩ :: lending.lent := by
  rcases lending.supply_cases with ⟨deposit, rest, hidle⟩ | ⟨hidle, hsize⟩ | ⟨hidle, hlarge⟩
  · have hsorted := h.sorted
    rw [hidle] at hsorted
    have hnewest : lending.IsNewest deposit := by
      rw [IsNewest, hidle]
      exact ⟨List.mem_cons_self, List.forall_mem_cons.2
        ⟨Nat.le_refl _, fun other hmem ↦ Nat.le_of_lt (List.rel_of_pairwise_cons hsorted hmem)⟩⟩
    exact ⟨deposit.name, deposit.buffer, .newest hnewest, acquire_of_cons hidle purpose,
      by rw [lend_of_cons hidle]⟩
  · exact ⟨lending.clock, _, .fresh hidle hsize h.clock_notMem, acquire_of_nil hidle hsize purpose,
      by rw [lend_of_nil hidle hsize]⟩
  · rcases hhad with hne | hsize
    · exact (hne (List.map_eq_nil_iff.2 hidle)).elim
    · exact (Nat.not_lt.2 hsize hlarge).elim

/-- **Whatever is done with the buffers of a pool, and in what order ever, they are in order.** -/
theorem isInOrder_performAll (capacity bufferSize : ℕ) (actions : List Action) :
    ((start capacity bufferSize).performAll actions).IsInOrder capacity bufferSize := by
  have hsound := isSound_performAll capacity bufferSize actions
  have hsettings := settings_performAll actions (start capacity bufferSize)
  generalize (start capacity bufferSize).performAll actions = lending at hsound hsettings ⊢
  obtain ⟨rfl, rfl⟩ : lending.capacity = capacity ∧ lending.bufferSize = bufferSize :=
    Prod.mk.inj hsettings
  have hcapacity := hsound.isTidy.capacity_le
  refine
    { settings := rfl
      available_le := hsound.isTidy.available_le
      idle := fun buffer hmem ↦ ⟨hsound.isTidy.isClean buffer hmem, hcapacity buffer hmem⟩
      allocated_le := fun buffer hmem ↦ ?_
      nodup := hsound.nodup
      lend := fun hhad purpose ↦ ?_
      lend_panics := fun hidle hlarge purpose ↦ ?_
      release_kept := fun buffer hsize hroom ↦ Pool.release_of_keeps ⟨hsize, hroom⟩
      release_dropped := fun buffer hnot ↦ Pool.release_of_not_keeps hnot
      pool_perform := pool_perform }
  · rw [Buffer.allocated, Nat.add_comm]
    exact Nat.add_le_add_right (hcapacity buffer hmem) _
  · obtain ⟨name, buffer, hout, hacquire, hlent⟩ := hsound.exists_handsOut hhad purpose
    have hbuffer := (Pool.eq_next_of_acquire hacquire).1
    exact ⟨name, buffer, hout, hbuffer ▸ hsound.isTidy.isClean.next.1, hacquire, hlent⟩
  · have hnone := List.map_eq_nil_iff.1 hidle
    have hlend := lend_of_lt hnone hlarge purpose
    refine ⟨acquire_of_lt hnone hlarge, ?_, ?_⟩
    · show (lending.lend purpose).pool = lending.pool
      rw [hlend]
    · show (lending.lend purpose).lent = lending.lent
      rw [hlend]

/-- A buffer that has grown past the limit does not come back, and one with a byte left comes back
empty. -/
example :
    ((start 4 8).performAll [.lend .plain, .lend .plain, .use 0 (.plain (Buffer.withCapacity 33)),
      .use 1 (.plain ((Buffer.withCapacity 8).append [7])), .reclaim 0, .reclaim 0]).idle =
      [⟨0, 5, Buffer.withCapacity 8⟩] := by
  decide

/-! ### Servers -/

theorem performAll_append (actions more : List Action) :
    lending.performAll (actions ++ more) = (lending.performAll actions).performAll more :=
  List.foldl_append

/-- What is lent is the buffer that the pool gives. -/
theorem holders_lend (hsize : lending.bufferSize ≤ Allocation.limit) (purpose : Purpose) :
    (lending.lend purpose).lent.map Loan.holder =
      purpose.holder lending.pool.next.1 :: lending.lent.map Loan.holder := by
  rcases hidle : lending.idle with - | ⟨deposit, rest⟩
  · rw [lend_of_nil hidle hsize, Pool.next, pool, hidle]
    rfl
  · rw [lend_of_cons hidle, Pool.next, pool, hidle]
    rfl

theorem pool_perform_lend (hsize : lending.bufferSize ≤ Allocation.limit) (purpose : Purpose) :
    (lending.perform (.lend purpose)).pool = lending.pool.next.2 := by
  rw [pool_perform, Action.onPool, Pool.acquire_eq_next (.inr hsize)]

/-- **A connection works with two buffers that were lent to it**, if buffers can be made. -/
theorem lent_openConnection {server : Server} (hpool : lending.pool = server.pool)
    (hsize : lending.bufferSize ≤ Allocation.limit) (name : String) (source : Source)
    (sink : Sink) :
    let opened := server.openConnection name source sink
    let later := lending.performAll [.lend (.reader source), .lend (.writer sink)]
    later.pool = opened.2.pool ∧ later.lent.map Loan.holder =
      .writer opened.1.link.writer :: .reader opened.1.link.reader ::
        lending.lent.map Loan.holder := by
  have hfirst : (lending.perform (.lend (.reader source))).pool = server.pool.next.2 := by
    rw [pool_perform_lend hsize, hpool]
  have hsize' : (lending.perform (.lend (.reader source))).bufferSize ≤ Allocation.limit := by
    rwa [bufferSize_perform]
  constructor
  · show (perform (lending.perform (.lend (.reader source))) (.lend (.writer sink))).pool = _
    rw [pool_perform_lend hsize', hfirst]
    rfl
  · show ((lending.perform (.lend (.reader source))).lend (.writer sink)).lent.map Loan.holder = _
    rw [holders_lend hsize', hfirst]
    show _ :: (lending.lend (.reader source)).lent.map Loan.holder = _
    rw [holders_lend hsize, hpool]
    rfl

end Lending

namespace Server

variable {server : Server}

/-- **The pool of a server whose buffers can be made is that of a lending**, whatever its
connections have done. -/
theorem Reachable.exists_actions (hserver : server.Reachable)
    (hsize : server.settings.bufferSize ≤ Allocation.limit) : ∃ actions,
    ((Lending.start server.settings.poolCapacity server.settings.bufferSize).performAll
      actions).pool = server.pool := by
  induction hserver with
  | start settings dispatcher => exact ⟨[], rfl⟩
  | beginShutdown _ ih => exact ih hsize
  | note connection happening _ ih =>
    rw [settings_note] at hsize
    rw [pool_note, settings_note]
    exact ih hsize
  | @openConnection server name source sink _ ih =>
    obtain ⟨actions, hpool⟩ := ih hsize
    have hlater : ((Lending.start server.settings.poolCapacity
        server.settings.bufferSize).performAll actions).bufferSize ≤ Allocation.limit := by
      rw [Lending.bufferSize_performAll]
      exact hsize
    refine ⟨actions ++ [.lend (.reader source), .lend (.writer sink)], ?_⟩
    rw [Lending.performAll_append]
    exact (Lending.lent_openConnection hpool hlater name source sink).1
  | @finish server connection _ ih =>
    obtain ⟨actions, hpool⟩ := ih hsize
    have hsettings : (connection.finish server).2.settings = server.settings := rfl
    rw [hsettings]
    by_cases hattached : connection.isAttached
    · refine ⟨actions ++ [.release connection.link.reader.buffer,
        .release connection.link.writer.buffer], ?_⟩
      rw [Lending.performAll_append]
      show (Lending.perform (Lending.perform _ _) _).pool = _
      rw [Lending.pool_perform, Lending.Action.onPool, Lending.pool_perform,
        Lending.Action.onPool, hpool, Connection.finish, if_pos hattached]
    · refine ⟨actions, hpool.trans ?_⟩
      rw [Connection.finish, if_neg hattached]

/-- So the pool of such a server is tidy. -/
theorem Reachable.isTidy (hserver : server.Reachable)
    (hsize : server.settings.bufferSize ≤ Allocation.limit) : server.pool.IsTidy := by
  obtain ⟨actions, hpool⟩ := hserver.exists_actions hsize
  exact hpool ▸ (Lending.isSound_performAll _ _ actions).isTidy

end Server

end FramedExchange
