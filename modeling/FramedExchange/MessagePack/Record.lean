import FramedExchange.MessagePack.Decode

/-!
# Records

A record is a value with named fields. It may be written in three forms: as a map, whose keys
are the names of the fields or their positions; as an array of the fields in order; or as a byte
string, which stands for an array of small numbers. `Record.read` fills a partial record `σ`
from any of them.

In a map the entries may come in any order, an entry under an unknown key is passed over,
and a field that comes twice is refused before its second value is read. Missing fields are
found at the end.
-/

namespace FramedExchange.MessagePack

/-- One field of a record, as seen from the partial record `σ` that collects the fields. -/
structure RecordField (σ : Type) where
  name : String
  /-- Whether the record may lack the field. -/
  mayLack : Bool
  /-- Whether the field has been read. -/
  isFilled : σ → Bool
  /-- Read the field where `room` more containers may be opened. -/
  fill : (room : Nat) → σ → Decoder σ
  /-- Take the field from one byte of a byte string, if a number can stand for it. -/
  fillFromByte : UInt8 → σ → Option σ

/-- The key of an entry in a map. -/
inductive Key
  | name (bytes : Bytes)
  | position (n : Nat)
deriving DecidableEq, Repr

namespace Record

variable {σ : Type}

/-- The key at the front: a text or a byte string for a name, an unsigned number for a position. -/
def readKey (room : Nat) : Decoder Key := do
  match ← Head.read with
  | .text length | .binary length => .name <$> takeBytes length
  | .unsigned n => pure (.position n)
  | head => refuse room head

/-- The field that a key belongs to. -/
def field? (fields : List (RecordField σ)) : Key → Option (RecordField σ)
  | .name bytes => fields.find? fun field ↦ Bytes.ofString field.name == bytes
  | .position n => fields[n]?

/-- Read the entries of a map. -/
def readEntries (fields : List (RecordField σ)) (room : Nat) : (entries : Nat) → σ → Decoder σ
  | 0, record => pure record
  | entries + 1, record => do
    match field? fields (← readKey room) with
    | none =>
      skip room
      readEntries fields room entries record
    | some field =>
      if field.isFilled record then throw (.duplicateField field.name)
      let record ← field.fill room record
      readEntries fields room entries record

/-- Refuse a record that lacks a field, with the first such field. -/
def checkFilled (fields : List (RecordField σ)) (record : σ) : Decoder Unit :=
  match fields.find? fun field ↦ !field.mayLack && !field.isFilled record with
  | some field => throw (.missingField field.name)
  | none => pure ()

/-- Read the elements of an array into the fields in order. Only fields that a record may lack may
be short of an element, and no element may be left over. -/
def readElements (room : Nat) : List (RecordField σ) → (elements : Nat) → σ → Decoder σ
  | [], 0, record => pure record
  | [], _ + 1, _ => throw .lengthMismatch
  | field :: fields, 0, record =>
    if field.mayLack then readElements room fields 0 record else throw .unexpectedValue
  | field :: fields, elements + 1, record => do
    let record ← field.fill room record
    readElements room fields elements record

/-- Take the fields in order from the bytes of a byte string. Bytes left over do not matter. -/
def ofBytes : List (RecordField σ) → Bytes → σ → Except DecodeError σ
  | [], _, record => .ok record
  | field :: fields, [], record =>
    if field.mayLack then ofBytes fields [] record else .error .unexpectedValue
  | field :: fields, byte :: bytes, record =>
    match field.fillFromByte byte record with
    | some record => ofBytes fields bytes record
    | none => .error .unexpectedValue

/-- Read a record in any of its forms, on top of the fields that `record` has already. -/
def read (fields : List (RecordField σ)) (record : σ) : Decoder σ := do
  match ← Head.read with
  | .map entries =>
    enter maxDepth fun room ↦ do
      let record ← readEntries fields room entries record
      checkFilled fields record
      return record
  | .array elements => enter maxDepth fun room ↦ readElements room fields elements record
  | .binary length => do
    match ofBytes fields (← takeBytes length) record with
    | .ok record => pure record
    | .error cause => throw cause
  | .text length =>
    let _ ← utf8Text length
    throw .unexpectedValue
  | head => refuse maxDepth head

end Record

end FramedExchange.MessagePack
