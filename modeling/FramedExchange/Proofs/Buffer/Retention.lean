import FramedExchange.Proofs.Buffer.Lending
import FramedExchange.Proofs.Stream.Arrival
import FramedExchange.Proofs.Stream.Resuming

/-!
# Large allocations that a pool keeps

A pool is to keep no buffer that has grown far past the size of a new one. What it looks at is the
capacity of a buffer that has been emptied, and this leaves out the room of all bytes that were
taken from the front (`Pool.keeps_iff`). Taking bytes changes no allocation, so it only makes it
easier for a buffer to be kept.

A reader takes all of its bytes from the front. After a frame that came in at once nothing of the
allocation may be left to count, and then the buffer comes back whatever its allocation is
(`Lending.exists_idle_lt_allocated`).
-/

namespace FramedExchange

namespace Buffer

/-- A buffer without room for more than it holds. -/
def full (bytes : Bytes) : Buffer := ⟨bytes, 0, bytes.length, Nat.le_refl _⟩

theorem allocated_full (bytes : Bytes) : (full bytes).allocated = bytes.length := Nat.zero_add _

/-- Taking bytes from the front keeps the allocation. -/
theorem allocated_consume (n : ℕ) (b : Buffer) : (b.consume n).allocated = b.allocated := by
  have hlength : b.length ≤ b.capacity := b.length_le
  show b.offset + min n b.length + (b.capacity - min n b.length) = b.offset + b.capacity
  omega

theorem offset_consume_of_le {n : ℕ} {b : Buffer} (h : n ≤ b.length) :
    (b.consume n).offset = b.offset + n :=
  congrArg (b.offset + ·) (Nat.min_eq_left h)

/-- An empty buffer that is at least to double is then as large as was asked for. -/
theorem reserve_withCapacity {n extra : ℕ} (hn : n < extra) (hextra : max 8 (2 * n) ≤ extra) :
    (withCapacity n).reserve extra = withCapacity extra := by
  have hspare : ¬extra ≤ (withCapacity n).spare := Nat.not_le.2 hn
  have hgrown : (withCapacity n).grownSize extra = extra := by
    simp only [grownSize, withCapacity, length, List.length_nil]
    omega
  rw [reserve, if_neg hspare, if_neg fun h ↦ hspare h.1]
  simp only [hgrown]
  rfl

/-- What there is just enough room for fills an empty buffer up. -/
theorem append_withCapacity (bytes : Bytes) :
    (withCapacity bytes.length).append bytes = full bytes := by
  have hroom : (withCapacity bytes.length).reserve bytes.length = withCapacity bytes.length :=
    if_pos (Nat.le_refl _)
  simp only [append, hroom]
  rfl

end Buffer

namespace Pool

variable {pool : Pool} {buffer : Buffer}

/-- **The room before the bytes does not count**: by so much an allocation may be past the limit. -/
theorem keeps_iff : pool.Keeps buffer ↔
    buffer.allocated ≤ pool.keepLimit + buffer.offset ∧ pool.available < pool.capacity := by
  rw [Keeps, Buffer.allocated, Nat.add_comm buffer.offset, Nat.add_le_add_iff_right]

/-- So what is taken from a buffer lets it come back with so much more allocated. -/
theorem keeps_consume_iff {n : ℕ} (hn : n ≤ buffer.length) : pool.Keeps (buffer.consume n) ↔
    buffer.allocated ≤ pool.keepLimit + (buffer.offset + n) ∧ pool.available < pool.capacity := by
  rw [keeps_iff, Buffer.allocated_consume, Buffer.offset_consume_of_le hn]

end Pool

namespace Reader

variable {bytes : Bytes} {n : ℕ}

/-- One read brings a whole chunk. -/
theorem read_chunk (hlen : bytes.length = chunk) :
    (Source.ofScript [⟨0, .data bytes⟩]).read Limits.none 0 bytes.length =
      (⟨.done (.ok bytes), 0⟩, Source.ofScript []) := by
  have hspace : min bytes.length Source.standardBurst = bytes.length := by
    rw [hlen]
    rfl
  have hall : bytes.drop bytes.length = [] := List.drop_length
  rcases bytes with - | ⟨byte, bytes⟩
  · cases hlen
  · rw [Source.read, Source.ofScript, hspace, Source.readScript, Source.dueOf,
      await_of_le (Nat.le_refl 0)]
    simp only [hall]
    rfl

/-- A buffer that has to grow for it has no other room then. -/
theorem fetch_chunk (hn : 2 * n ≤ chunk) (hlen : bytes.length = chunk) :
    fetch Limits.none bytes.length 0
        ⟨Buffer.withCapacity n, Source.ofScript [⟨0, .data bytes⟩]⟩ =
      (⟨.done (.ok ()), 0⟩, ⟨Buffer.full bytes, Source.ofScript []⟩) := by
  have hchunk : chunk = 4096 := rfl
  have hreserve : (Buffer.withCapacity n).reserve chunk = Buffer.withCapacity bytes.length := by
    rw [hlen]
    exact Buffer.reserve_withCapacity (by omega) (by omega)
  have hread := read_chunk hlen
  have happend := Buffer.append_withCapacity bytes
  rcases bytes with - | ⟨byte, bytes⟩
  · cases hlen
  · let r : Reader := ⟨.withCapacity n, .ofScript [⟨0, .data (byte :: bytes)⟩]⟩
    have hfew : ¬(byte :: bytes).length ≤ r.buffered := Nat.not_le.2 (Nat.succ_pos _)
    have hfirst : r.source.read Limits.none 0 (r.buffer.reserve chunk).spare =
        (⟨.done (.ok (byte :: bytes)), 0⟩, .ofScript []) := by
      rw [show r.buffer.reserve chunk = _ from hreserve]
      exact hread
    have hgoOn := fetch_of_read_data hfew hfirst
    rw [show r.buffer.reserve chunk = _ from hreserve, happend] at hgoOn
    exact hgoOn.trans (fetch_of_le (Nat.le_refl _))

/-- When the chunk has been taken, all of the allocation lies before what is left. -/
theorem buffer_take_chunk (hn : 2 * n ≤ chunk) (hlen : bytes.length = chunk) :
    (take Limits.none bytes.length 0
        ⟨Buffer.withCapacity n, Source.ofScript [⟨0, .data bytes⟩]⟩).2.buffer =
      (Buffer.full bytes).consume bytes.length := by
  rw [take, fetch_chunk hn hlen]

end Reader

namespace Lending

/-- A reader is lent a buffer, takes `n` bytes and comes back. -/
def visit (source : Source) (n bufferSize : ℕ) : List Action :=
  let reader := (Reader.take Limits.none n 0 ⟨Buffer.withCapacity bufferSize, source⟩).2
  [.lend (.reader source), .use 0 (.reader reader), .reclaim 0]

/-- To the pool this is to be handed the buffer of the reader. -/
theorem pool_visit {capacity bufferSize : ℕ} (hsize : bufferSize ≤ Allocation.limit)
    (source : Source) (n : ℕ) :
    ((start capacity bufferSize).performAll (visit source n bufferSize)).pool =
      (Pool.empty capacity bufferSize).release
        (Reader.take Limits.none n 0 ⟨Buffer.withCapacity bufferSize, source⟩).2.buffer := by
  have hlend : (start capacity bufferSize).perform (.lend (.reader source)) =
      ⟨capacity, bufferSize, [],
        [⟨0, .reader ⟨Buffer.withCapacity bufferSize, source⟩⟩], 1⟩ := by
    rw [perform, act, lend_of_nil rfl hsize]
    rfl
  rw [visit, performAll, List.foldl_cons, hlend]
  exact pool_perform _

/-- **What a pool keeps may be past its limit**, as far as the allocation goes. A reader takes a
whole chunk, which came in at once, out of a buffer that was lent with less than a quarter of the
room. -/
theorem exists_idle_lt_allocated {capacity bufferSize : ℕ} (hcapacity : 0 < capacity)
    (hsize : 4 * bufferSize < Reader.chunk) {bytes : Bytes} (hlen : bytes.length = Reader.chunk) :
    ∃ buffer ∈ ((start capacity bufferSize).performAll
        (visit (Source.ofScript [⟨0, .data bytes⟩]) bytes.length bufferSize)).pool.idle,
      min (4 * bufferSize) maxSize < buffer.allocated := by
  have hchunk : Reader.chunk = 4096 := rfl
  have hlimit : bufferSize ≤ Allocation.limit := by
    simp only [Allocation.limit]
    omega
  have hkeeps : (Pool.empty capacity bufferSize).Keeps
      ((Buffer.full bytes).consume bytes.length) := by
    refine (Pool.keeps_consume_iff (Nat.le_refl _)).2 ⟨?_, hcapacity⟩
    rw [Buffer.allocated_full]
    exact (Nat.le_add_left _ _).trans (Nat.le_add_left _ _)
  rw [pool_visit hlimit, Reader.buffer_take_chunk (by omega) hlen, Pool.release_of_keeps hkeeps]
  refine ⟨_, List.mem_cons_self, ?_⟩
  show _ < ((Buffer.full bytes).consume bytes.length).allocated
  rw [Buffer.allocated_consume, Buffer.allocated_full]
  omega

/-- A buffer for 64 bytes may be kept with 256, and is kept with 4096. -/
theorem lt_allocated_of_chunk_taken :
    let bytes : Bytes := List.replicate 4096 0
    ∃ buffer ∈ ((start 1 64).performAll
        (visit (Source.ofScript [⟨0, .data bytes⟩]) bytes.length 64)).pool.idle,
      min (4 * 64) maxSize < buffer.allocated := by
  intro bytes
  have hlen : bytes.length = Reader.chunk := List.length_replicate
  exact exists_idle_lt_allocated Nat.one_pos (by decide) hlen

end Lending

end FramedExchange
