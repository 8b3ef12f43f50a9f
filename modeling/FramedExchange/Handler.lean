import FramedExchange.Bytes.Lossy

/-!
# Handlers

A handler turns the body of one request into an answer, or panics. It may also ask the server to
shut down while it runs. In the path convention the answer is bytes or the text of a failure; in the
code convention a handler is told the code of the request and always answers with bytes.

The handlers below are the stock from which a server can be put together without code of its own.
-/

namespace FramedExchange

/-- What a panicking handler leaves behind: a text, or something that is none. -/
inductive Panic
  | text (wording : String)
  | untyped
deriving DecidableEq, Repr

/-- The wording of a panic. -/
def Panic.message : Panic → String
  | text wording => wording
  | untyped => "unknown panic"

/-- What becomes of one run of a handler. -/
structure HandlerRun (α : Type) where
  result : Except Panic α
  /-- Whether the handler asked the server to shut down. -/
  beginsShutdown : Bool

namespace HandlerRun

variable {α β : Type}

/-- A run that only answers. -/
def answer (a : α) : HandlerRun α := ⟨.ok a, false⟩

/-- A run that panics. -/
def panic (p : Panic) : HandlerRun α := ⟨.error p, false⟩

/-- Change the answer of a run. -/
def map (f : α → β) (run : HandlerRun α) : HandlerRun β := ⟨run.result.map f, run.beginsShutdown⟩

end HandlerRun

/-- A handler that is selected by a path. A failure is reported to the peer by its text. -/
abbrev PathHandler := Bytes → HandlerRun (Except String Bytes)

/-- A handler that is selected by the code in the header. -/
abbrev CodeHandler := UInt16 → Bytes → HandlerRun Bytes

namespace PathHandler

/-- Answer with the request. -/
def echo : PathHandler := fun body ↦ .answer (.ok body)

/-- Answer with the bytes of the request in reverse order. -/
def reverse : PathHandler := fun body ↦ .answer (.ok body.reverse)

/-- Answer with the same bytes always. -/
def const (bytes : Bytes) : PathHandler := fun _ ↦ .answer (.ok bytes)

/-- Fail with a text. -/
def fail (text : String) : PathHandler := fun _ ↦ .answer (.error text)

/-- Fail with the request as text. -/
def failWithRequest : PathHandler := fun body ↦ .answer (.error (Bytes.toStringLossy body))

/-- Panic. -/
def panicking (p : Panic) : PathHandler := fun _ ↦ .panic p

/-- Ask the server to shut down and answer with the request. -/
def shuttingDown : PathHandler := fun body ↦ ⟨.ok (.ok body), true⟩

end PathHandler

namespace CodeHandler

/-- Answer with the request. -/
def echo : CodeHandler := fun _ body ↦ .answer body

/-- Answer with the bytes of the request in reverse order. -/
def reverse : CodeHandler := fun _ body ↦ .answer body.reverse

/-- Answer with the same bytes always. -/
def const (bytes : Bytes) : CodeHandler := fun _ _ ↦ .answer bytes

/-- Answer with the code as two bytes and then the request. -/
def tagged : CodeHandler := fun code body ↦ .answer (Bytes.ofNat 2 code.toNat ++ body)

/-- Answer with the code as text. -/
def nameCode : CodeHandler := fun code _ ↦ .answer (Bytes.ofString ("code " ++ code.toNat.repr))

/-- Panic. -/
def panicking (p : Panic) : CodeHandler := fun _ _ ↦ .panic p

/-- Ask the server to shut down and answer with the request. -/
def shuttingDown : CodeHandler := fun _ body ↦ ⟨.ok body, true⟩

end CodeHandler

end FramedExchange
