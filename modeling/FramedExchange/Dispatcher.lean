import FramedExchange.Envelope
import FramedExchange.Frame
import FramedExchange.Registry
import FramedExchange.Status

/-!
# Dispatch

A dispatcher turns one request frame into one reply. There are two conventions. In the path
convention the body of a request is an envelope, and everything that happens is reported in a
response envelope. In the code convention the code in the header selects the handler, bodies are
passed through as they are, and a status is reported by its number with its text as the body.

A request that cannot be served gets a status for an answer. After a panic the path convention has
an answer too; the code convention has none.
-/

namespace FramedExchange

/-- How requests are addressed. -/
inductive Convention
  | path
  | code
deriving DecidableEq, Repr

/-- The name of a convention. -/
def Convention.name : Convention → String
  | path => "path"
  | code => "code"

/-- What is sent back for one request. -/
structure Reply where
  /-- 0 for success, otherwise the number of a status. -/
  code : UInt16
  body : Bytes
deriving DecidableEq, Repr

namespace Reply

/-- Whether a reply marks success. -/
def isSuccess (reply : Reply) : Bool := reply.code == 0

/-- A reply that carries a response envelope. -/
def ofResponse (code : UInt16) (response : Response) : Reply := ⟨code, response.encode⟩

end Reply

/-- The response that the answer of a path handler makes. -/
def Response.ofAnswer : Except String Bytes → Response
  | .ok body => .success body
  | .error text => .failure text

/-- The handlers of a server. -/
inductive Dispatcher
  | byPath (registry : PathRegistry)
  | byCode (registry : CodeRegistry)

namespace Dispatcher

/-- The convention of a dispatcher. -/
def convention : Dispatcher → Convention
  | byPath _ => .path
  | byCode _ => .code

/-- The reply that reports a status. -/
def status (dispatcher : Dispatcher) (status : Status) : Reply :=
  match dispatcher with
  | byPath _ => .ofResponse status.code (.failure status.message)
  | byCode _ => ⟨status.code, Bytes.ofString status.message⟩

/-- The reply after a panic, if the convention has one. -/
def recover? (dispatcher : Dispatcher) : Option Reply :=
  match dispatcher with
  | byPath _ => some (dispatcher.status .internal)
  | byCode _ => none

/-- Find the handler of a request and run it. -/
def dispatch (dispatcher : Dispatcher) (request : Frame) : HandlerRun Reply :=
  match dispatcher with
  | byPath registry =>
    match Request.decode request.body with
    | .error _ => .answer (dispatcher.status .invalidRequest)
    | .ok envelope =>
      match registry.get? envelope.path with
      | none => .answer (dispatcher.status .invalidPath)
      | some handler => (handler envelope.body).map fun answer ↦ .ofResponse 0 (.ofAnswer answer)
  | byCode registry =>
    match registry.get? request.header.code with
    | none => .answer (dispatcher.status .invalidAction)
    | some handler => (handler request.header.code request.body).map fun body ↦ ⟨0, body⟩

end Dispatcher

end FramedExchange
