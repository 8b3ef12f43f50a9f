import FramedExchange.Toml.Date
import FramedExchange.Toml.Number
import FramedExchange.Toml.Quoted
import FramedExchange.Toml.Value

/-!
# Statements of a settings file

A settings file is a sequence of statements, each on a line of its own: headers of tables, headers
of elements of arrays of tables, and values of keys. A comment may end a line and may stand alone.
-/

namespace FramedExchange.Toml

open Scan

/-- A statement. -/
inductive Statement
  /-- The header of a table. -/
  | table (path : List String) (key : String)
  /-- The header of a new element of an array of tables. -/
  | element (path : List String) (key : String)
  /-- The value of a key. -/
  | pair (path : List String) (key : String) (value : Value)
deriving Repr

namespace Statement

/-- How deep values may be nested, and that many parts a key may have. -/
def depthLimit : Nat := 79

/-- One part of a key. -/
def keyPart : Scan String :=
  Quoted.basic <|> Quoted.literal <|>
    String.ofList <$> run1 fun c ↦ c.isAlphanum || c == '-' || c == '_'

/-- A key: the parts before the last one, and the last one. -/
def key : Scan (List String × String) := do
  let parts ← separated (blanks *> keyPart <* blanks) (char '.')
  guard (parts.length ≤ depthLimit)
  match parts.getLast? with
  | some last => return (parts.dropLast, last)
  | none => failure

/-- A comment, up to the end of its line. -/
def comment : Scan Unit := do
  char '#'
  discard (run isPlain)

/-- Blanks, line breaks and comments, or none. -/
def gaps : Scan Unit := discard (many (discard (satisfy isBlank) <|> lineBreak <|> comment))

/-! ### Values -/

/-- An array of items. A comma may follow the last one. -/
def array (item : Scan Value) : Scan Value := do
  char '['
  let items ← (separated (gaps *> item <* gaps) (char ',') <* optional (char ',')) <|> pure []
  gaps
  char ']'
  return .array items

/-- An inline table of items. It has no comma after the last one, and no line breaks of its own. -/
def inlineTable (item : Scan Value) : Scan Value := do
  char '\x7b'
  let pair := do
    let (path, last) ← key
    char '='
    let value ← blanks *> item <* blanks
    return (path, last, value)
  let pairs ← separated pair (char ',') <|> (blanks *> pure [])
  char '\x7d'
  let entries ← pairs.foldlM (fun entries (path, key, value) ↦
    liftM (Entries.addDotted path key value .inline entries)) []
  return .table .inline entries

/-- A value that holds no other. -/
def scalar : Scan Value :=
  (.string <$> Quoted.text)
  <|> (word "true" *> return .boolean true)
  <|> (word "false" *> return .boolean false)
  <|> (Date.scan *> return .date)
  <|> (Number.float *> return .float)
  <|> (.integer <$> Number.integer)

/-- A value that is nested at most so deep. -/
def value : (depth : Nat) → Scan Value
  | 0 => scalar
  | depth + 1 => scalar <|> array (value depth) <|> inlineTable (value depth)

/-! ### Lines -/

/-- The rest of a line after a statement. -/
def lineEnd : Scan Unit := do
  blanks
  discard (optional comment)
  lineBreak <|> atEnd

/-- A header between brackets. -/
def bracketed (opening closing : String) : Scan (List String × String) :=
  word opening *> key <* word closing

/-- A statement. -/
def scan : Scan Statement :=
  (do
    let (path, key) ← bracketed "[[" "]]"
    return .element path key)
  <|> (do
    let (path, key) ← bracketed "[" "]"
    return .table path key)
  <|> (do
    let (path, key) ← key
    char '='
    blanks
    return .pair path key (← value depthLimit))

/-- A line with a statement, or one without. -/
def line : Scan (Option Statement) := do
  blanks
  (some <$> (scan <* lineEnd)) <|> ((comment *> (lineBreak <|> atEnd)) <|> lineBreak) *> return none

/-- The statements of a whole file. A byte order mark at its beginning is skipped. -/
def all : Scan (List Statement) := do
  discard (optional (char '\ufeff'))
  let lines ← many line
  blanks
  atEnd
  return lines.filterMap id

end Statement

end FramedExchange.Toml
