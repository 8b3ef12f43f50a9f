import FramedExchange.Bytes
import Mathlib.Algebra.Order.Ring.Nat
import Mathlib.Data.List.Induction

/-!
# Big-endian fields hold their numbers

A field of `width` bytes and a number below `256 ^ width` determine each other:

* `toNat_ofNat` reads back what `Bytes.ofNat` wrote, cut off to the width;
* `ofNat_toNat` writes back what `Bytes.toNat` read, for a field of any width.

Both go by the last byte of a field, because `Bytes.ofNat` puts that one down last.
-/

namespace FramedExchange.Bytes

/-- The last byte of a field counts its units. -/
theorem toNat_append_singleton (field : Bytes) (byte : UInt8) :
    toNat (field ++ [byte]) = 256 * toNat field + byte.toNat := by
  simp [toNat, List.foldl_append]

@[simp]
theorem toNat_ofNat (width n : ℕ) : toNat (ofNat width n) = n % 256 ^ width := by
  induction width generalizing n with
  | zero => simp [ofNat, Nat.mod_one]
  | succ width ih =>
    have hbyte : (UInt8.ofNat n).toNat = n % 256 := UInt8.toNat_ofNat'
    rw [ofNat, toNat_append_singleton, ih, hbyte, pow_succ', Nat.mod_mul]
    omega

/-- A number that fits into a field is read back as it was. -/
theorem toNat_ofNat_of_lt {width n : ℕ} (h : n < 256 ^ width) : toNat (ofNat width n) = n := by
  rw [toNat_ofNat, Nat.mod_eq_of_lt h]

theorem toNat_lt (field : Bytes) : toNat field < 256 ^ field.length := by
  induction field using List.reverseRecOn with
  | nil => simp
  | append_singleton field byte ih =>
    have hbyte : byte.toNat < 256 := byte.toNat_lt
    rw [toNat_append_singleton, List.length_append, List.length_singleton, pow_succ']
    omega

@[simp]
theorem ofNat_toNat (field : Bytes) : ofNat field.length (toNat field) = field := by
  induction field using List.reverseRecOn with
  | nil => rfl
  | append_singleton field byte ih =>
    have hbyte : byte.toNat < 256 := byte.toNat_lt
    have hhigh : (256 * toNat field + byte.toNat) / 256 = toNat field := by omega
    have hlow : UInt8.ofNat (256 * toNat field + byte.toNat) = byte := by
      apply UInt8.toNat_inj.1
      rw [UInt8.toNat_ofNat']
      omega
    rw [List.length_append, List.length_singleton, ofNat, toNat_append_singleton, hhigh, ih, hlow]

/-- Writing back a field whose width is known by a number. -/
theorem ofNat_toNat_of_length {width : ℕ} {field : Bytes} (h : field.length = width) :
    ofNat width (toNat field) = field := by
  subst h
  exact ofNat_toNat field

end FramedExchange.Bytes
