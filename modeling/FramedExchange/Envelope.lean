import FramedExchange.MessagePack.Encode
import FramedExchange.MessagePack.Record

/-!
# Envelopes

In the path convention the body of a frame is an envelope, a MessagePack map with named fields. A
request names a path and carries bytes; a response reports success with bytes, or a failure with a
text. Envelopes are written with the fields in order and an absent field as nil, and are read in any
form of a record (`MessagePack.Record`). Bytes behind an envelope are not looked at.
-/

namespace FramedExchange

open MessagePack

/-! ### Requests -/

/-- A request that is addressed by a path. -/
structure Request where
  path : String
  body : Bytes
deriving DecidableEq, Repr

namespace Request

/-- The bytes of a request. -/
def encode (request : Request) : Bytes :=
  mapHead 2 ++ text "path" ++ text request.path ++ text "req" ++ binary request.body

/-- A request of which some fields have been read. -/
structure Draft where
  path : Option String
  body : Option Bytes

/-- The fields of a request. -/
def fields : List (RecordField Draft) :=
  [{ name := "path"
     mayLack := false
     isFilled := fun draft ↦ draft.path.isSome
     fill := fun room draft ↦ do
       let path ← Head.read >>= textOf room
       return { draft with path := some path }
     fillFromByte := fun _ _ ↦ none },
   { name := "req"
     mayLack := false
     isFilled := fun draft ↦ draft.body.isSome
     fill := fun room draft ↦ do
       let body ← Head.read >>= binaryOf room
       return { draft with body := some body }
     fillFromByte := fun _ _ ↦ none }]

/-- The request that a draft amounts to once its fields have been read. -/
def ofDraft : Draft → Except DecodeError Request
  | ⟨some path, some body⟩ => .ok ⟨path, body⟩
  | _ => .error .unexpectedValue

/-- Read a request from the front of a byte string. -/
def decode (bytes : Bytes) : Except DecodeError Request := do
  let (draft, _) ← Record.read fields ⟨none, none⟩ bytes
  ofDraft draft

end Request

/-! ### Responses -/

/-- A response: bytes, or the text of a failure. -/
inductive Response
  | success (body : Bytes)
  | failure (text : String)
deriving DecidableEq, Repr

namespace Response

/-- The code that tells the two kinds of responses apart. -/
def code : Response → UInt8
  | success _ => 0
  | failure _ => 1

/-- The bytes of a response. -/
def encode : Response → Bytes
  | success body =>
    mapHead 3 ++ text "code" ++ small 0 ++ text "rsp" ++ binary body ++ text "err" ++ nil
  | failure message =>
    mapHead 3 ++ text "code" ++ small 1 ++ text "rsp" ++ nil ++ text "err" ++ text message

/-- A response of which some fields have been read. A body or a text that was read may be nil. -/
structure Draft where
  code : Option UInt8
  body : Option (Option Bytes)
  text : Option (Option String)

/-- The fields of a response. -/
def fields : List (RecordField Draft) :=
  [{ name := "code"
     mayLack := false
     isFilled := fun draft ↦ draft.code.isSome
     fill := fun _ draft ↦ do
       let code ← byteValue
       return { draft with code := some code }
     fillFromByte := fun byte draft ↦ some { draft with code := some byte } },
   { name := "rsp"
     mayLack := true
     isFilled := fun draft ↦ draft.body.isSome
     fill := fun room draft ↦ do
       let body ← orNil (binaryOf room)
       return { draft with body := some body }
     fillFromByte := fun _ _ ↦ none },
   { name := "err"
     mayLack := true
     isFilled := fun draft ↦ draft.text.isSome
     fill := fun room draft ↦ do
       let text ← orNil (textOf room)
       return { draft with text := some text }
     fillFromByte := fun _ _ ↦ none }]

/-- The response that a draft amounts to. A success needs a body and a failure a text; the other
field does not matter. -/
def ofDraft (draft : Draft) : Except DecodeError Response :=
  match draft.code with
  | none => .error .unexpectedValue
  | some code =>
    if code = 0 then
      match draft.body.join with
      | some body => .ok (success body)
      | none => .error .successWithoutBody
    else if code = 1 then
      match draft.text.join with
      | some text => .ok (failure text)
      | none => .error .failureWithoutText
    else .error (.unknownCode code.toNat)

/-- Read a response from the front of a byte string. -/
def decode (bytes : Bytes) : Except DecodeError Response := do
  let (draft, _) ← Record.read fields ⟨none, none, none⟩ bytes
  ofDraft draft

end Response

end FramedExchange
