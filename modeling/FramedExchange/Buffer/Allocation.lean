import FramedExchange.Buffer
import FramedExchange.Handler

/-!
# Asking for room

Room is asked for without looking whether there is any, so whoever asks for more than can be asked
for at once panics. How much memory there is in fact plays no part.
-/

namespace FramedExchange

namespace Allocation

/-- The most bytes that can be asked for at once. -/
def limit : Nat := 0x7fffffffffffffff

/-- Make room for a number of items of some bytes each. -/
def reserve (size count : Nat) : Except Panic Unit :=
  if limit < size * count then .error (.text "capacity overflow") else .ok ()

theorem reserve_of_le {size count : Nat} (h : size * count ≤ limit) : reserve size count = .ok () :=
  if_neg (Nat.not_lt.2 h)

theorem reserve_of_lt {size count : Nat} (h : limit < size * count) :
    reserve size count = .error (.text "capacity overflow") := if_pos h

end Allocation

namespace Buffer

/-- Make a new buffer. -/
def allocate (n : Nat) : Except Panic Buffer := do
  Allocation.reserve 1 n
  return withCapacity n

theorem allocate_of_le {n : Nat} (h : n ≤ Allocation.limit) :
    allocate n = .ok (withCapacity n) := by
  rw [allocate, Allocation.reserve_of_le (by rwa [Nat.one_mul])]
  rfl

theorem allocate_of_lt {n : Nat} (h : Allocation.limit < n) :
    allocate n = .error (.text "capacity overflow") := by
  rw [allocate, Allocation.reserve_of_lt (by rwa [Nat.one_mul])]
  rfl

end Buffer

end FramedExchange
