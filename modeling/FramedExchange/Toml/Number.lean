import FramedExchange.Text.Digits

/-!
# Numbers in a settings file

Single underscores may stand between digits. A decimal integer has no leading zeros; integers in
other number systems have a mark and no sign. All integers are words of 64 bits with a sign. A
floating-point number has a fraction, an exponent or both, and must not be so large that it
rounds to infinity.
-/

namespace FramedExchange.Toml

open Scan

namespace Number

/-- Digits of a number system with single underscores between them. -/
def digits (radix : Nat) : Scan (List Char) := do
  let digit := satisfy (Digits.isDigit radix)
  let first ← digit
  let more ← many (digit <|> (char '_' *> digit))
  return first :: more

/-- A sign: whether it is a minus. -/
def isNegative : Scan Bool :=
  (char '-' *> return true) <|> (char '+' *> return false) <|> return false

/-- The digits of a decimal integer. -/
def decimal : Scan (List Char) := do
  let digits ← digits 10
  guard (digits.head? ≠ some '0' ∨ digits.length = 1)
  return digits

/-- The greatest integer. -/
def greatest : Nat := 0x7fffffffffffffff

/-- An integer in another number system than the decimal one. -/
def marked (mark : String) (radix : Nat) : Scan Int := do
  word mark
  let n := Digits.toNat radix (← digits radix)
  guard (n ≤ greatest)
  return Int.ofNat n

/-- An integer. -/
def integer : Scan Int :=
  marked "0x" 16 <|> marked "0o" 8 <|> marked "0b" 2 <|> do
    let isNegative ← isNegative
    let n := Digits.toNat 10 (← decimal)
    guard (n ≤ if isNegative then greatest + 1 else greatest)
    return if isNegative then -(Int.ofNat n) else Int.ofNat n

/-- Whether `mantissa * 10 ^ exponent` rounds to infinity as a number of 64 bits: it does from the
middle between the greatest such number and the next power of two on. Far from there the number of
digits decides. -/
def isInfinite (mantissa : Nat) (exponent : Int) : Bool :=
  let places := Int.ofNat mantissa.repr.length + exponent
  let middle := 0x3fffffffffffff <<< 970
  if mantissa = 0 ∨ places < 300 then false
  else if 320 < places then true
  else if 0 ≤ exponent then middle ≤ mantissa * Nat.pow 10 exponent.toNat
  else middle * Nat.pow 10 (-exponent).toNat ≤ mantissa

/-- The exponent of a floating-point number. -/
def exponent : Scan Int := do
  char 'e' <|> char 'E'
  let isNegative ← isNegative
  let n := Digits.toNat 10 (← digits 10)
  return if isNegative then -(Int.ofNat n) else Int.ofNat n

/-- A floating-point number. -/
def float : Scan Unit := do
  let isNegative ← isNegative
  (word "inf" <|> word "nan") <|> do
    let whole ← decimal
    let (fraction, exponent) ←
      (do
        char '.'
        let fraction ← digits 10
        return (fraction, (← optional exponent).getD 0))
      <|> (return ([], ← exponent))
    guard (isNegative || !isInfinite (Digits.toNat 10 (whole ++ fraction))
      (exponent - Int.ofNat fraction.length))

end Number

end FramedExchange.Toml
