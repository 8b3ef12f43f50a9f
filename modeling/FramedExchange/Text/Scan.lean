/-!
# Scanning text

A scan reads something from the front of a text and leaves the rest, or fails. Alternatives are
tried in order, each from the same place, so what a failed scan has read is never lost.
-/

namespace FramedExchange

/-- A scan of characters for an `α`. -/
abbrev Scan := StateT (List Char) Option

namespace Scan

variable {α : Type}

/-- The next character. -/
def next : Scan Char := fun text ↦
  match text with
  | [] => none
  | c :: rest => some (c, rest)

/-- The next character, if it belongs to a class. -/
def satisfy (p : Char → Bool) : Scan Char := do
  let c ← next
  guard (p c)
  return c

/-- One given character. -/
def char (c : Char) : Scan Unit := discard (satisfy (· == c))

/-- Given characters, one after the other. -/
def word (text : String) : Scan Unit := text.toList.forM char

/-- The characters up to the first one outside a class. -/
def run (p : Char → Bool) : Scan (List Char) := fun text ↦ some (text.takeWhile p, text.dropWhile p)

/-- The characters up to the first one outside a class, at least one. -/
def run1 (p : Char → Bool) : Scan (List Char) := do
  let cs ← run p
  guard (!cs.isEmpty)
  return cs

/-- The end of the text. -/
def atEnd : Scan Unit := do guard (← get).isEmpty

/-- Exactly `n` items. -/
def times (n : Nat) (item : Scan α) : Scan (List α) := (List.replicate n item).mapM id

/-- As many items as there are, but at most `n`. -/
def atMost (item : Scan α) : (n : Nat) → Scan (List α)
  | 0 => pure []
  | n + 1 => (do
      let a ← item
      let more ← atMost item n
      return a :: more) <|> pure []

/-- As many items as there are. An item takes at least one character, so there are no more items
than characters. -/
def many (item : Scan α) : Scan (List α) := do atMost item (← get).length

/-- Items with a separator between each two, at least one. -/
def separated (item : Scan α) (separator : Scan Unit) : Scan (List α) := do
  let a ← item
  let more ← many (separator *> item)
  return a :: more

/-- What a scan reads from a text, if it reads all of it. -/
def whole (scan : Scan α) (text : String) : Option α :=
  ((scan <* atEnd) text.toList).map Prod.fst

end Scan

end FramedExchange
