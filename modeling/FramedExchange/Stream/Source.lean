import FramedExchange.Bytes
import FramedExchange.Clock
import FramedExchange.IoError

/-!
# The incoming half of a stream

A source delivers what a script says, each piece from a certain moment on. A reader that gets to a
piece earlier waits for it. Bytes that do not fit into one read stay for the next one; a read never
joins two pieces. A signal is not seen by the reader: the moment at which a read passed over it is
noted down for whoever watches the stream.
-/

namespace FramedExchange

/-- Something that happens from the moment `due` on. -/
structure Scheduled (α : Type) where
  due : Time
  event : α
deriving DecidableEq, Repr

/-- What a source delivers. -/
inductive Arrival
  | data (bytes : Bytes)
  /-- The end of the stream, for ever. -/
  | eof
  /-- One read fails. -/
  | failure (error : IoError)
  /-- A signal to whoever watches the stream. -/
  | signal
  /-- Nothing more, for ever. -/
  | stall
deriving DecidableEq, Repr

/-- The bytes that an arrival brings. -/
def Arrival.bytes : Arrival → Bytes
  | .data bytes => bytes
  | _ => []

/-- The incoming half of a stream. -/
structure Source where
  /-- What is still to be delivered, in order. -/
  script : List (Scheduled Arrival)
  /-- The most bytes that one read delivers. -/
  burst : Nat
  /-- The moments at which reads passed over signals. -/
  signals : List Time
deriving DecidableEq, Repr

namespace Source

/-- The most bytes that one read of a scripted stream delivers. -/
def standardBurst : Nat := 4096

/-- A source that follows a script from its beginning. -/
def ofScript (script : List (Scheduled Arrival)) : Source := ⟨script, standardBurst, []⟩

/-- A source that delivers nothing of its own. -/
def silent : Source := ofScript []

/-- Add what another end has sent by a moment. -/
def deliver (now : Time) (bytes : Bytes) (isEnd : Bool) (source : Source) : Source :=
  let ending : List (Scheduled Arrival) := if isEnd then [⟨now, .eof⟩] else []
  { source with script := source.script ++ ⟨now, .data bytes⟩ :: ending }

/-- The moment from which something can be read, or never for a stall. -/
def dueOf (item : Scheduled Arrival) : Option Time :=
  match item.event with
  | .stall => none
  | _ => some item.due

/-- Read from a script: the outcome, what is left of the script, and the signals passed over. A read
that is given up leaves what it waited for. -/
def readScript (limits : Limits) (space : Nat) :
    (now : Time) → List (Scheduled Arrival) →
      Timed (Except IoError Bytes) × List (Scheduled Arrival) × List Time
  | now, [] => (giveUp limits now, [], [])
  | now, item :: rest =>
    match await limits now (dueOf item) with
    | ⟨.done (), time⟩ =>
      match item.event with
      | .data [] => readScript limits space time rest
      | .data bytes =>
        match bytes.drop space with
        | [] => (⟨.done (.ok bytes), time⟩, rest, [])
        | left => (⟨.done (.ok (bytes.take space)), time⟩,
          { item with event := .data left } :: rest, [])
      | .eof => (⟨.done (.ok []), time⟩, item :: rest, [])
      | .failure error => (⟨.done (.error error), time⟩, rest, [])
      | .signal =>
        let (result, left, signals) := readScript limits space time rest
        (result, left, time :: signals)
      | .stall => (giveUp limits time, item :: rest, [])
    | ⟨.elapsed, time⟩ => (⟨.elapsed, time⟩, item :: rest, [])
    | ⟨.hanging, time⟩ => (⟨.hanging, time⟩, item :: rest, [])

/-- One read that offers room for `space` bytes. No bytes stand for the end of the stream. -/
def read (limits : Limits) (now : Time) (space : Nat) (source : Source) :
    Timed (Except IoError Bytes) × Source :=
  let (result, script, signals) := readScript limits (min space source.burst) now source.script
  (result, { source with script, signals := source.signals ++ signals })

/-- The bytes that the script still holds, in order. -/
def remaining (source : Source) : Bytes := source.script.flatMap fun item ↦ item.event.bytes

/-- Forget the signals that were passed over. -/
def clearSignals (source : Source) : Source := { source with signals := [] }

end Source

end FramedExchange
