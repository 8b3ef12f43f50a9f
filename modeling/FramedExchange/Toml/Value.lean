/-!
# Values of a settings file

A table remembers how it came into being, because that decides what may still be added to it: a
table that was only named on the way to another one may get a header of its own later, a table made
by dotted keys may get more of them, and an inline table is complete.
-/

namespace FramedExchange.Toml

/-- How a table came into being. -/
inductive Origin
  /-- By a header of its own, or as the whole document. -/
  | header
  /-- On the way to the table of a header. -/
  | path
  /-- On the way of a dotted key. -/
  | dotted
  /-- By braces. -/
  | inline
deriving DecidableEq, Repr

/-- A value. Of floating-point numbers and of dates it is only known that they are there. -/
inductive Value
  | string (text : String)
  | integer (n : Int)
  | float
  | boolean (b : Bool)
  | date
  | array (items : List Value)
  | table (origin : Origin) (entries : List (String × Value))
  /-- An array of tables that each have a header. -/
  | tables (elements : List (List (String × Value)))
deriving Repr

/-- The entries of a table, in the order in which their keys came up. -/
abbrev Entries := List (String × Value)

/-- Whether a value holds others but none is in it: an empty table or an empty array. -/
def Value.isEmpty : Value → Bool
  | .table _ entries => entries.isEmpty
  | .array items => items.isEmpty
  | .tables elements => elements.isEmpty
  | _ => false

namespace Entries

/-- Give a key that is there another value. -/
def replace (key : String) (value : Value) (entries : Entries) : Entries :=
  entries.map fun entry ↦ if entry.1 == key then (key, value) else entry

/-- Add a key that is not there. -/
def add? (key : String) (value : Value) (entries : Entries) : Option Entries :=
  match entries.lookup key with
  | none => some (entries ++ [(key, value)])
  | some _ => none

/-- Change the table at the end of a path. Tables that are missing on the way are made; of an array
of tables the last one is meant. A dotted key does not lead into a table that has a header. -/
def change (isDotted : Bool) (f : Origin → Entries → Option Entries) :
    (path : List String) → Origin → Entries → Option Entries
  | [], origin, entries => f origin entries
  | key :: path, _, entries =>
    match entries.lookup key with
    | none => do
      let origin := if isDotted then Origin.dotted else .path
      let inner ← change isDotted f path origin []
      return entries ++ [(key, .table origin inner)]
    | some (.table origin inner) => do
      guard (origin ≠ .inline ∧ ¬(isDotted ∧ origin = .header))
      let inner ← change isDotted f path origin inner
      return entries.replace key (.table origin inner)
    | some (.tables elements) => do
      let last ← elements.getLast?
      let last ← change isDotted f path .header last
      return entries.replace key (.tables (elements.dropLast ++ [last]))
    | some _ => none

/-- Add the value of a dotted key to a table. The table in which the last part of the key ends up
must be one that dotted keys have made, unless it is the table itself. -/
def addDotted (path : List String) (key : String) (value : Value) (origin : Origin)
    (entries : Entries) : Option Entries :=
  change true (fun origin entries ↦ do
    guard (path = [] ∨ origin = .dotted)
    entries.add? key value) path origin entries

end Entries

end FramedExchange.Toml
