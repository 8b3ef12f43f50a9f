/-!
# Why a MessagePack value is refused

Three kinds of causes: the bytes end early, they are no value of the expected kind, or they are a
record whose fields do not make sense together. The last kind has a wording of its own.
-/

namespace FramedExchange.MessagePack

/-- Why bytes are not read as a value of the expected kind. -/
inductive DecodeError
  /-- The bytes end where a value should begin. -/
  | markerMissing
  /-- The bytes end inside a value. -/
  | dataMissing
  /-- The marker begins no value that could stand here. -/
  | markerMismatch
  /-- The value is not of the expected kind, or out of its range. -/
  | unexpectedValue
  /-- An array has elements left over. -/
  | lengthMismatch
  /-- A text is not valid UTF-8. -/
  | invalidText
  /-- Too many arrays, maps and extensions are open at once. -/
  | depthExceeded
  /-- A record lacks a field. -/
  | missingField (name : String)
  /-- A record has a field twice. -/
  | duplicateField (name : String)
  /-- A response that reports success has no body. -/
  | successWithoutBody
  /-- A response that reports a failure has no text. -/
  | failureWithoutText
  /-- A response reports neither success nor failure. -/
  | unknownCode (code : Nat)
deriving DecidableEq, Repr

/-- The wording of a cause that concerns the fields of a record; the other causes have none. -/
def DecodeError.message? : DecodeError → Option String
  | missingField name => some ("missing field \x60" ++ name ++ "\x60")
  | duplicateField name => some ("duplicate field \x60" ++ name ++ "\x60")
  | successWithoutBody => some "OK response without rsp"
  | failureWithoutText => some "ERR response without err"
  | unknownCode code => some ("unknown response code " ++ code.repr)
  | _ => none

end FramedExchange.MessagePack
