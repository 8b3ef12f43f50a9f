import FramedExchange.AcceptLoop

/-!
# Starting a server

The settings of a server say how large some things are to be: the list in which idle buffers wait,
the buffers themselves, and the slots of the accept loop. They are made without asking whether there
is room for them, so one that is too large ends in a panic.
-/

namespace FramedExchange

/-- Make the accept loop of a server. -/
def AcceptLoop.allocate (settings : ServerSettings) : Except Panic AcceptLoop :=
  if slotLimit < slotsOf settings then
    .error (.text ("a semaphore may not have more than MAX_PERMITS permits (" ++
      slotLimit.repr ++ ")"))
  else .ok (start settings)

namespace Server

/-- Make a server. -/
def allocate (settings : ServerSettings) (dispatcher : Dispatcher) : Except Panic Server := do
  let pool ← Pool.allocate settings.poolCapacity settings.bufferSize
  return { start settings dispatcher with pool }

/-- Make a server and the loop that accepts its connections. -/
def launch (settings : ServerSettings) (dispatcher : Dispatcher) :
    Except Panic (Server × AcceptLoop) := do
  let server ← allocate settings dispatcher
  return (server, ← AcceptLoop.allocate settings)

end Server

end FramedExchange
