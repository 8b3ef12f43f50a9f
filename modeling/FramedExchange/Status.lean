/-!
# Status codes

A status is a failure of a single request. It is reported to the peer under a fixed number in the
header of the reply and does not end the connection. The number 0 is no status: it marks success.
-/

namespace FramedExchange

/-- A failure that is reported to the peer. -/
inductive Status
  /-- The request envelope could not be decoded. -/
  | invalidRequest
  /-- No handler is registered for the path. -/
  | invalidPath
  /-- No handler is registered for the code. -/
  | invalidAction
  /-- The handler panicked. -/
  | internal
  /-- The reply has more bytes than one frame can carry. -/
  | responseTooLarge
deriving DecidableEq, Repr

namespace Status

/-- Every status, in the order of the codes. -/
def all : List Status :=
  [invalidRequest, invalidPath, invalidAction, internal, responseTooLarge]

/-- The number of a status in the header of a reply. -/
def code : Status → UInt16
  | invalidRequest => 1001
  | invalidPath => 1002
  | invalidAction => 1003
  | internal => 1004
  | responseTooLarge => 1005

/-- The status with a given number. -/
def ofCode? (n : UInt16) : Option Status :=
  all.find? fun status ↦ status.code == n

/-- The text that is sent along with the number. -/
def message : Status → String
  | invalidRequest => "invalid request"
  | invalidPath => "invalid path"
  | invalidAction => "invalid action"
  | internal => "internal error"
  | responseTooLarge => "response too large"

@[simp]
theorem ofCode?_code (status : Status) : ofCode? status.code = some status := by
  cases status <;> decide

end Status

end FramedExchange
