import FramedExchange.Buffer.Allocation

/-!
# The pool of idle buffers

Buffers that are handed back wait in a pool for the next who needs one. The pool is a stack, so the
buffer handed back last goes out first. Where none is idle a new one is made, which fails if new
buffers are too large to be made.

A buffer is emptied when it comes back. It is not kept if the pool is full, or if its capacity is
more than four times the size of a new one. The capacity is the room from the bytes on: an
allocation that has grown larger than that is kept nevertheless, if enough of it lies before the
place to which bytes have been taken from the front.
-/

namespace FramedExchange

/-- The largest size that a buffer may be asked to have. -/
def maxSize : Nat := 0xffffffffffffffff

/-- A pool of idle buffers. -/
structure Pool where
  /-- How many buffers may be idle. -/
  capacity : Nat
  /-- The capacity of a new buffer. -/
  bufferSize : Nat
  /-- The idle buffers, the one that goes out next first. -/
  idle : List Buffer
deriving DecidableEq, Repr

namespace Pool

/-- A pool without idle buffers. -/
def empty (capacity bufferSize : Nat) : Pool := ⟨capacity, bufferSize, []⟩

/-- How many bytes the list of idle buffers takes for each of them. -/
def entrySize : Nat := 32

/-- Make a pool, with room in its list for as many buffers as may be idle. -/
def allocate (capacity bufferSize : Nat) : Except Panic Pool := do
  Allocation.reserve entrySize capacity
  return empty capacity bufferSize

/-- How many buffers are idle. -/
def available (pool : Pool) : Nat := pool.idle.length

/-- The largest capacity of a buffer that the pool keeps. -/
def keepLimit (pool : Pool) : Nat := min (4 * pool.bufferSize) maxSize

/-- Take a buffer: the first idle one, or else a new one. -/
def acquire (pool : Pool) : Except Panic (Buffer × Pool) :=
  match pool.idle with
  | [] => (Buffer.allocate pool.bufferSize).map fun buffer ↦ (buffer, pool)
  | buffer :: rest => .ok (buffer, { pool with idle := rest })

/-- The buffer that goes out next, and what is left of the pool, if new buffers can be made. -/
def next (pool : Pool) : Buffer × Pool :=
  match pool.idle with
  | [] => (Buffer.withCapacity pool.bufferSize, pool)
  | buffer :: rest => (buffer, { pool with idle := rest })

/-- A buffer can be had as long as one is idle or a new one can be made. -/
theorem acquire_eq_next {pool : Pool} (h : pool.idle ≠ [] ∨ pool.bufferSize ≤ Allocation.limit) :
    pool.acquire = .ok pool.next := by
  unfold acquire next
  split
  · rename_i hidle
    rw [Buffer.allocate_of_le (h.resolve_left fun hne ↦ hne hidle)]
    rfl
  · rfl

theorem acquire_eq_error {pool : Pool} (hidle : pool.idle = [])
    (hlarge : Allocation.limit < pool.bufferSize) :
    pool.acquire = .error (.text "capacity overflow") := by
  rw [acquire, hidle]
  show (Buffer.allocate pool.bufferSize).map _ = _
  rw [Buffer.allocate_of_lt hlarge]
  rfl

/-- Hand a buffer back. -/
def release (buffer : Buffer) (pool : Pool) : Pool :=
  if buffer.capacity ≤ pool.keepLimit ∧ pool.available < pool.capacity then
    { pool with idle := buffer.clear :: pool.idle }
  else pool

end Pool

end FramedExchange
