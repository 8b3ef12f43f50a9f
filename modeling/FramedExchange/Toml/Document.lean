import FramedExchange.Toml.Statement

/-!
# Settings files

The statements of a settings file build one table. A header leads to the table that the following
values go into. No key is given twice, and no table gets two headers.
-/

namespace FramedExchange.Toml

/-- A settings file that is being built. -/
structure Document where
  entries : Entries
  /-- The path of the table that values go into. -/
  current : List String

namespace Document

/-- A settings file without statements. -/
def empty : Document := ⟨[], []⟩

/-- Change the table at the end of the path of a header. -/
def changeAt (path : List String) (f : Origin → Entries → Option Entries) (document : Document) :
    Option Entries :=
  document.entries.change false f path .header

/-- Give a table its header. -/
def openTable (key : String) (entries : Entries) : Option Entries :=
  match entries.lookup key with
  | none => some (entries ++ [(key, .table .header [])])
  | some (.table .path inner) => some (entries.replace key (.table .header inner))
  | some _ => none

/-- Add an element to an array of tables. -/
def openElement (key : String) (entries : Entries) : Option Entries :=
  match entries.lookup key with
  | none => some (entries ++ [(key, .tables [[]])])
  | some (.tables elements) => some (entries.replace key (.tables (elements ++ [[]])))
  | some _ => none

/-- Add a statement. -/
def add? (document : Document) (statement : Statement) : Option Document :=
  match statement with
  | .table path key => do
    return ⟨← document.changeAt path fun _ ↦ openTable key, path ++ [key]⟩
  | .element path key => do
    return ⟨← document.changeAt path fun _ ↦ openElement key, path ++ [key]⟩
  | .pair path key value => do
    return { document with
      entries := ← document.changeAt document.current (Entries.addDotted path key value) }

/-- The entries of the settings file that a text is. -/
def parse? (text : String) : Option Entries := do
  let statements ← Scan.whole Statement.all text
  let document ← statements.foldlM add? empty
  return document.entries

end Document

end FramedExchange.Toml
