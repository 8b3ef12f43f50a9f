import FramedExchange.Bytes

/-!
# Growable buffers

A buffer holds bytes at some place inside an allocation: bytes taken from the front leave unused
room before the ones that are held. The room behind them is what can be filled without a new
allocation. How much room there is never changes what a buffer holds, but it decides how much one
read may fetch and whether a pool keeps the buffer.

When room is asked for, the bytes are first moved to the front of the allocation, provided that this
gives enough room and that they would not overlap the place they come from; otherwise the allocation
grows to twice its size, or to what is needed if that is more. It is taken to be small enough for
that, since no memory holds one that is not.
-/

namespace FramedExchange

/-- A growable buffer. -/
structure Buffer where
  /-- The bytes that the buffer holds. -/
  bytes : Bytes
  /-- Unused room before the bytes. -/
  offset : Nat
  /-- Room for the bytes and for what may be added behind them. -/
  capacity : Nat
  /-- The bytes are inside the allocation. -/
  length_le : bytes.length ≤ capacity
deriving DecidableEq, Repr

namespace Buffer

/-- An empty buffer with room for `n` bytes. -/
def withCapacity (n : Nat) : Buffer := ⟨[], 0, n, Nat.zero_le n⟩

/-- How many bytes the buffer holds. -/
def length (b : Buffer) : Nat := b.bytes.length

/-- How many bytes can be added without asking for room. -/
def spare (b : Buffer) : Nat := b.capacity - b.length

/-- The size of the allocation. -/
def allocated (b : Buffer) : Nat := b.offset + b.capacity

/-- Drop all bytes and keep the room. -/
def clear (b : Buffer) : Buffer := ⟨[], b.offset, b.capacity, Nat.zero_le _⟩

/-- Take `n` bytes from the front. Their room is left unused before the rest. -/
def consume (n : Nat) (b : Buffer) : Buffer :=
  let taken := min n b.length
  ⟨b.bytes.drop taken, b.offset + taken, b.capacity - taken, by
    have := b.length_le
    simp only [List.length_drop]
    omega⟩

/-- The size of the allocation after it has grown by `extra` bytes of room. -/
def grownSize (b : Buffer) (extra : Nat) : Nat :=
  max 8 (max (2 * (b.offset + b.capacity)) (b.offset + b.length + extra))

/-- Make room for `extra` more bytes. -/
def reserve (extra : Nat) (b : Buffer) : Buffer :=
  if extra ≤ b.spare then b
  else if extra ≤ b.spare + b.offset ∧ b.length ≤ b.offset then
    ⟨b.bytes, 0, b.capacity + b.offset, Nat.le_trans b.length_le (Nat.le_add_right ..)⟩
  else
    ⟨b.bytes, b.offset, b.grownSize extra - b.offset, by
      simp only [grownSize, length]
      omega⟩

@[simp]
theorem bytes_reserve (extra : Nat) (b : Buffer) : (b.reserve extra).bytes = b.bytes := by
  unfold reserve
  split
  · rfl
  · split <;> rfl

/-- There is room for as much as was asked for. -/
theorem le_spare_reserve (extra : Nat) (b : Buffer) : extra ≤ (b.reserve extra).spare := by
  unfold reserve
  split
  · assumption
  · have := b.length_le
    split
    · simp only [spare, length] at *
      omega
    · simp only [spare, grownSize, length] at *
      omega

/-- Add bytes at the end, with room made for them if need be. -/
def append (new : Bytes) (b : Buffer) : Buffer :=
  let roomy := b.reserve new.length
  ⟨b.bytes ++ new, roomy.offset, roomy.capacity, by
    have room := le_spare_reserve new.length b
    have fits := (b.reserve new.length).length_le
    simp only [spare, length, bytes_reserve] at room fits
    simp only [List.length_append, roomy]
    omega⟩

@[simp]
theorem bytes_append (new : Bytes) (b : Buffer) : (b.append new).bytes = b.bytes ++ new := rfl

@[simp]
theorem bytes_clear (b : Buffer) : b.clear.bytes = [] := rfl

@[simp]
theorem bytes_withCapacity (n : Nat) : (withCapacity n).bytes = [] := rfl

end Buffer

end FramedExchange
