import FramedExchange.Stream.Source

/-!
# The outgoing half of a stream

A sink takes bytes as a script says: each call of write, flush or shutdown that completes uses up
one item of its list, and after the list everything is taken at once. The sink keeps a record of
what it took and when.

`writeAll` goes on until all bytes are taken. An interrupted call is made again; a call that takes
nothing is an error, because going on would not end.
-/

namespace FramedExchange

/-- What becomes of one write. -/
inductive Acceptance
  /-- At most so many bytes are taken. -/
  | take (most : Nat)
  | failure (error : IoError)
  /-- The write never completes. -/
  | stall
deriving DecidableEq, Repr

/-- What becomes of one flush or shutdown. -/
inductive Completion
  | success
  | failure (error : IoError)
  /-- The call never completes. -/
  | stall
deriving DecidableEq, Repr

/-- Something that a sink did, with the moment of it. -/
inductive Sent
  | bytes (time : Time) (bytes : Bytes)
  | flush (time : Time)
  | shutdown (time : Time)
deriving DecidableEq, Repr

/-- The outgoing half of a stream. -/
structure Sink where
  writes : List (Scheduled Acceptance)
  flushes : List (Scheduled Completion)
  shutdowns : List (Scheduled Completion)
  /-- What the sink did so far, in order. -/
  sent : List Sent
deriving DecidableEq, Repr

namespace Sink

/-- A sink that follows scripts from their beginning. -/
def ofScripts (writes : List (Scheduled Acceptance))
    (flushes shutdowns : List (Scheduled Completion)) : Sink :=
  ⟨writes, flushes, shutdowns, []⟩

/-- A sink that takes everything at once. -/
def eager : Sink := ofScripts [] [] []

/-- All bytes that the sink took, in order. -/
def taken (sink : Sink) : Bytes :=
  sink.sent.flatMap fun
    | .bytes _ bytes => bytes
    | _ => []

/-- Whether the sink was shut down. -/
def isShutDown (sink : Sink) : Bool :=
  sink.sent.any fun
    | .shutdown _ => true
    | _ => false

/-- Take the record away: the bytes in it, and whether the sink was shut down. -/
def collect (sink : Sink) : Bytes × Bool × Sink :=
  (sink.taken, sink.isShutDown, { sink with sent := [] })

/-- The moment from which a write can complete, or never for a stall. -/
def dueOfWrite (item : Scheduled Acceptance) : Option Time :=
  match item.event with
  | .stall => none
  | _ => some item.due

/-- The moment from which a flush or a shutdown can complete, or never for a stall. -/
def dueOfCall (item : Scheduled Completion) : Option Time :=
  match item.event with
  | .stall => none
  | _ => some item.due

/-- Write all bytes as a script says: the outcome, what is left of the script, and what was
taken. -/
def writeScript (limits : Limits) :
    (now : Time) → Bytes → List (Scheduled Acceptance) →
      Timed (Except IoError Unit) × List (Scheduled Acceptance) × List Sent
  | now, [], script => (⟨.done (.ok ()), now⟩, script, [])
  | now, bytes, [] => (⟨.done (.ok ()), now⟩, [], [.bytes now bytes])
  | now, bytes, item :: rest =>
    match await limits now (dueOfWrite item) with
    | ⟨.done (), time⟩ =>
      match item.event with
      | .take 0 => (⟨.done (.error .nothingWritten), time⟩, rest, [])
      | .take most =>
        let (result, left, sent) := writeScript limits time (bytes.drop most) rest
        (result, left, .bytes time (bytes.take most) :: sent)
      | .failure error =>
        if error.kind = .interrupted then writeScript limits time bytes rest
        else (⟨.done (.error error), time⟩, rest, [])
      | .stall => (giveUp limits time, item :: rest, [])
    | ⟨.elapsed, time⟩ => (⟨.elapsed, time⟩, item :: rest, [])
    | ⟨.hanging, time⟩ => (⟨.hanging, time⟩, item :: rest, [])

/-- Write all bytes, with as many calls as that takes. -/
def writeAll (limits : Limits) (now : Time) (bytes : Bytes) (sink : Sink) :
    Timed (Except IoError Unit) × Sink :=
  let (result, writes, sent) := writeScript limits now bytes sink.writes
  (result, { sink with writes, sent := sink.sent ++ sent })

/-- Make one call as a script says: the outcome and what is left of the script. -/
def callScript (limits : Limits) (now : Time) :
    List (Scheduled Completion) → Timed (Except IoError Unit) × List (Scheduled Completion)
  | [] => (⟨.done (.ok ()), now⟩, [])
  | item :: rest =>
    match await limits now (dueOfCall item) with
    | ⟨.done (), time⟩ =>
      match item.event with
      | .success => (⟨.done (.ok ()), time⟩, rest)
      | .failure error => (⟨.done (.error error), time⟩, rest)
      | .stall => (giveUp limits time, item :: rest)
    | ⟨.elapsed, time⟩ => (⟨.elapsed, time⟩, item :: rest)
    | ⟨.hanging, time⟩ => (⟨.hanging, time⟩, item :: rest)

/-- The entry of a call in the record: a call that did not succeed leaves none. -/
def sentOf (entry : Time → Sent) (result : Timed (Except IoError Unit)) : List Sent :=
  match result.outcome with
  | .done (.ok ()) => [entry result.time]
  | _ => []

/-- Flush what was written. -/
def flush (limits : Limits) (now : Time) (sink : Sink) : Timed (Except IoError Unit) × Sink :=
  let (result, flushes) := callScript limits now sink.flushes
  (result, { sink with flushes, sent := sink.sent ++ sentOf .flush result })

/-- Shut the outgoing half down. -/
def shutdown (limits : Limits) (now : Time) (sink : Sink) : Timed (Except IoError Unit) × Sink :=
  let (result, shutdowns) := callScript limits now sink.shutdowns
  (result, { sink with shutdowns, sent := sink.sent ++ sentOf .shutdown result })

end Sink

end FramedExchange
