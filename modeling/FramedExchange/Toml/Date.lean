import FramedExchange.Text.Digits

/-!
# Dates and times in a settings file

A date, a time of day, or both with an optional offset. They must exist in the calendar and on the
clock; a minute may have a leap second.
-/

namespace FramedExchange.Toml

open Scan

namespace Date

/-- A number of exactly `width` digits that lies between two bounds. -/
def field (width least greatest : Nat) : Scan Nat := do
  let n := Digits.toNat 10 (← times width (satisfy (Digits.isDigit 10)))
  guard (least ≤ n ∧ n ≤ greatest)
  return n

/-- The number of days of a month. -/
def daysIn (year month : Nat) : Nat :=
  if month = 2 then
    if year % 4 = 0 ∧ (year % 100 ≠ 0 ∨ year % 400 = 0) then 29 else 28
  else if month = 4 ∨ month = 6 ∨ month = 9 ∨ month = 11 then 30
  else 31

/-- A date. -/
def date : Scan Unit := do
  let year ← field 4 0 9999
  char '-'
  let month ← field 2 1 12
  char '-'
  discard (field 2 1 (daysIn year month))

/-- A time of day, with any fraction of a second. -/
def time : Scan Unit := do
  discard (field 2 0 23)
  char ':'
  discard (field 2 0 59)
  char ':'
  discard (field 2 0 60)
  discard (optional (char '.' *> run1 (Digits.isDigit 10)))

/-- An offset from universal time. -/
def offset : Scan Unit :=
  discard (satisfy fun c ↦ c == 'Z' || c == 'z') <|> do
    char '+' <|> char '-'
    discard (field 2 0 23)
    char ':'
    discard (field 2 0 59)

/-- A date, a time, or both. -/
def scan : Scan Unit :=
  (do
    date
    discard (optional (do
      discard (satisfy fun c ↦ c == 'T' || c == 't' || c == ' ')
      time
      optional offset)))
  <|> time

end Date

end FramedExchange.Toml
