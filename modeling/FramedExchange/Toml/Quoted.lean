import FramedExchange.Text.Digits

/-!
# Text in a settings file

Text stands between double quotes, where a backslash begins an escape, or between single quotes,
where it does not. Between three quotes of either kind it may take several lines: a line break right
after the opening is dropped, a backslash at the end of a line takes the break and all blanks after
it away, and one or two quotes that end nothing belong to the text.
-/

namespace FramedExchange.Toml

open Scan

/-- A blank within a line. -/
def isBlank (c : Char) : Bool := c == ' ' || c == '\t'

/-- Blanks within a line, or none. -/
def blanks : Scan Unit := discard (run isBlank)

/-- A line break. A carriage return counts only before a line feed. -/
def lineBreak : Scan Unit := (char '\r' *> char '\n') <|> char '\n'

/-- A character that may stand in a text or a comment as it is: a tab, or no control character of
ASCII. -/
def isPlain (c : Char) : Bool := c == '\t' || (' ' ≤ c && c != '\x7f')

namespace Quoted

/-- A character by its number in `width` hexadecimal digits. -/
def numbered (width : Nat) : Scan Char := do
  let n := Digits.toNat 16 (← times width (satisfy (Digits.isDigit 16)))
  if h : n.isValidChar then return Char.ofNatAux n h else failure

/-- An escape. -/
def escape : Scan Char := do
  char '\\'
  match ← next with
  | 'b' => return '\x08'
  | 't' => return '\t'
  | 'n' => return '\n'
  | 'f' => return '\x0c'
  | 'r' => return '\r'
  | '"' => return '"'
  | '\\' => return '\\'
  | 'u' => numbered 4
  | 'U' => numbered 8
  | _ => failure

/-- Text in one line between double quotes. -/
def basic : Scan String := do
  char '"'
  let cs ← many (satisfy (fun c ↦ isPlain c && c != '"' && c != '\\') <|> escape)
  char '"'
  return String.ofList cs

/-- Text in one line between single quotes. -/
def literal : Scan String := do
  char '\''
  let cs ← run fun c ↦ isPlain c && c != '\''
  char '\''
  return String.ofList cs

/-- A backslash at the end of a line, with the blanks and breaks after it. -/
def continuation : Scan (List Char) := do
  char '\\'
  blanks
  lineBreak
  let _ ← many (discard (satisfy isBlank) <|> lineBreak)
  return []

/-- One or two quotes that are followed by no other. -/
def loneQuotes (quote : Char) : Scan (List Char) := do
  let quotes ← run1 (· == quote)
  guard (quotes.length < 3)
  return quotes

/-- Text between three quotes. Of the quotes at its end the last three close it, and up to two
before them belong to it. -/
def multiline (quote : Char) (piece : Scan (List Char)) : Scan String := do
  let _ ← times 3 (char quote)
  let _ ← optional lineBreak
  let pieces ← many (piece <|> (lineBreak *> return ['\n']) <|> loneQuotes quote)
  let quotes ← run1 (· == quote)
  guard (3 ≤ quotes.length ∧ quotes.length < 6)
  return String.ofList (pieces.flatten ++ quotes.drop 3)

/-- Text in several lines between double quotes. -/
def multilineBasic : Scan String :=
  multiline '"' <|
    run1 (fun c ↦ isPlain c && c != '"' && c != '\\') <|> continuation <|> (return [← escape])

/-- Text in several lines between single quotes. -/
def multilineLiteral : Scan String :=
  multiline '\'' <| run1 fun c ↦ isPlain c && c != '\''

/-- Text as a value. -/
def text : Scan String := multilineBasic <|> basic <|> multilineLiteral <|> literal

end Quoted

end FramedExchange.Toml
