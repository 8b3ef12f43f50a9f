import FramedExchange.Server

/-!
# The accept loop

A server has a slot for each connection that it may serve at once. The accept loop takes a free
slot before it waits for a stream. An accepted stream takes the slot along; a failed attempt
gives it back, and so does the end of a connection, in whatever way it ends. When the loop is
told to stop it gives back the slot that it holds and accepts nothing more, while the connections
that are served go on.

Connections are numbered from one on, each with a number that no earlier one has had. A counter of
64 bits would give a number twice after `2 ^ 64` connections, which no server accepts; so the
numbers have no bound here.
-/

namespace FramedExchange

/-- What an accept loop is doing. -/
inductive AcceptStage
  /-- Waiting for a free slot. -/
  | seekingSlot
  /-- Waiting for a stream, with a slot in hand. -/
  | seekingStream
  | stopped
deriving DecidableEq, Repr

/-- An accept loop and the connections that it has set going. -/
structure AcceptLoop where
  /-- How many slots are free. -/
  free : Nat
  stage : AcceptStage
  /-- The numbers of the connections that are served. -/
  running : List Nat
  /-- The number of the next connection. -/
  nextId : Nat
deriving DecidableEq, Repr

/-- Something that happens to an accept loop. -/
inductive AcceptEvent
  /-- The loop takes a free slot. -/
  | slotTaken
  /-- The loop accepts a stream and sets a connection going. -/
  | accepted
  /-- A stream cannot be accepted. -/
  | acceptFailed
  /-- A connection ends, by itself or by a panic. -/
  | ended (id : Nat) (byPanic : Bool)
  /-- The loop is told to stop. -/
  | stopped
deriving DecidableEq, Repr

namespace AcceptLoop

/-- The greatest number of slots that there can be. -/
def slotLimit : Nat := 0x1fffffffffffffff

/-- How many slots a server has. -/
def slotsOf (settings : ServerSettings) : Nat := min settings.maxConnections slotLimit

/-- A loop that has done nothing. -/
def start (settings : ServerSettings) : AcceptLoop := ⟨slotsOf settings, .seekingSlot, [], 1⟩

/-- How many slots the loop itself holds. -/
def held (loop : AcceptLoop) : Nat :=
  match loop.stage with
  | .seekingStream => 1
  | _ => 0

/-- What an event does to a loop, if it can happen. -/
def step? (event : AcceptEvent) (loop : AcceptLoop) : Option AcceptLoop :=
  match event, loop.stage with
  | .slotTaken, .seekingSlot =>
    if loop.free = 0 then none
    else some { loop with free := loop.free - 1, stage := .seekingStream }
  | .accepted, .seekingStream =>
    some { loop with
      stage := .seekingSlot, running := loop.nextId :: loop.running, nextId := loop.nextId + 1 }
  | .acceptFailed, .seekingStream => some { loop with free := loop.free + 1, stage := .seekingSlot }
  | .ended id _, _ =>
    if id ∈ loop.running then
      some { loop with free := loop.free + 1, running := loop.running.erase id }
    else none
  | .stopped, .seekingSlot => some { loop with stage := .stopped }
  | .stopped, .seekingStream => some { loop with free := loop.free + 1, stage := .stopped }
  | _, _ => none

/-- Accept a stream, if there is a slot for it: the number of the new connection. -/
def accept? (loop : AcceptLoop) : Option (Nat × AcceptLoop) := do
  let ready ← match loop.stage with
    | .seekingStream => some loop
    | _ => loop.step? .slotTaken
  return (ready.nextId, ← ready.step? .accepted)

end AcceptLoop

namespace Server

/-- What an event of the accept loop does to its server: when the loop stops, the server begins
to shut down. -/
def noteAccept (event : AcceptEvent) (server : Server) : Server :=
  if event = .stopped then server.beginShutdown else server

end Server

end FramedExchange
