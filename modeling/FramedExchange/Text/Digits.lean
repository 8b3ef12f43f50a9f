import FramedExchange.Text.Scan

/-!
# Digits

Numbers written with ASCII digits in a number system of up to sixteen digits.
-/

namespace FramedExchange

namespace Digits

/-- The value of a digit, in upper or lower case. -/
def value? (radix : Nat) (c : Char) : Option Nat :=
  let value :=
    if '0' ≤ c ∧ c ≤ '9' then c.toNat - 48
    else if 'a' ≤ c ∧ c ≤ 'f' then c.toNat - 87
    else if 'A' ≤ c ∧ c ≤ 'F' then c.toNat - 55
    else radix
  if value < radix then some value else none

/-- Whether a character is a digit of a number system. -/
def isDigit (radix : Nat) (c : Char) : Bool := (value? radix c).isSome

/-- The number that digits stand for, the most significant one first. What is no digit counts as
zero. -/
def toNat (radix : Nat) (digits : List Char) : Nat :=
  digits.foldl (fun n c ↦ radix * n + (value? radix c).getD 0) 0

/-- The digits of a number, in lower case. -/
def ofNat (radix : Nat) (n : Nat) : String := String.ofList (Nat.toDigits radix n)

/-- A number of any length, if it is at most `greatest`. -/
def natural (radix greatest : Nat) : Scan Nat := do
  let n := toNat radix (← Scan.run1 (isDigit radix))
  guard (n ≤ greatest)
  return n

/-- A decimal number with an optional plus sign that makes up a whole text, if it is at most
`greatest`. -/
def unsigned? (greatest : Nat) (text : String) : Option Nat :=
  Scan.whole (optional (Scan.char '+') *> natural 10 greatest) text

end Digits

end FramedExchange
