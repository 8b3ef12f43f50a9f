import FramedExchange.AcceptLoop
import FramedExchange.Client
import FramedExchange.Session

/-!
# Clients and a server on one machine

Clients reach a server through the loopback interface of their machine. Each stream between the two
carries the bytes of either end to the other in their order and loses none. Between two requests of
the clients everything that can happen does happen: streams are accepted, requests served, replies
delivered and deadlines met.

A client that connects when all slots are taken waits with its stream until a connection ends. Where
the interface is down, or the server has stopped accepting, no client can connect.
-/

namespace FramedExchange

/-- What the server makes of a client's stream. -/
inductive ServerEnd
  /-- The stream waits to be accepted, with what the client has sent so far. -/
  | waiting (source : Source)
  /-- The stream is served. The link is that of the beginning of the phase, and what has come in
  since then is added to it. -/
  | serving (id : Nat) (connection : Connection) (phase : Phase) (since : Time)
  | closed

/-- A connected client and the other end of its stream. -/
structure Peer where
  client : Client
  serverEnd : ServerEnd

/-- The clients of a server and the server. -/
structure Loopback where
  /-- Whether the interface carries streams at all. -/
  isUp : Bool
  server : Server
  loop : AcceptLoop
  /-- The connected clients by name, in the order in which they connected. -/
  peers : List (String × Peer)
  now : Time

namespace Peer

/-- What the client has sent reaches the server's end. -/
def carryRequests (now : Time) (peer : Peer) : Peer :=
  let (bytes, isEnd, writer) := peer.client.writer.collect
  let client := { peer.client with writer }
  match peer.serverEnd with
  | .waiting source => ⟨client, .waiting (source.deliver now bytes isEnd)⟩
  | .serving id connection phase since =>
    ⟨client, .serving id (connection.deliver now bytes isEnd) phase since⟩
  | .closed => ⟨client, .closed⟩

/-- What a connection has sent reaches the client. -/
def carryReplies (now : Time) (connection : Connection) (client : Client) : Connection × Client :=
  let (bytes, isEnd, connection) := connection.collect
  (connection, { client with reader := client.reader.deliver now bytes isEnd })

end Peer

namespace Loopback

/-- A server that no client has connected to. -/
def start (isUp : Bool) (server : Server) : Loopback :=
  ⟨isUp, server, AcceptLoop.start server.settings, [], 0⟩

/-- The client of a name. -/
def client? (loopback : Loopback) (name : String) : Option Client :=
  (loopback.peers.lookup name).map Peer.client

/-- Put a peer in the place of the one of its name. -/
def setPeer (name : String) (peer : Peer) (loopback : Loopback) : Loopback :=
  { loopback with
    peers := loopback.peers.map fun entry ↦ if entry.1 == name then (name, peer) else entry }

/-- Serve one peer as far as it gets. -/
def servePeer (loopback : Loopback) (name : String) : Loopback :=
  match loopback.peers.lookup name with
  | none => loopback
  | some peer =>
    let peer := peer.carryRequests loopback.now
    match peer.serverEnd with
    | .serving id connection phase since =>
      let (progress, connection, server) :=
        connection.runUntil loopback.now connection.phaseBound phase since loopback.server
      let (connection, client) := Peer.carryReplies loopback.now connection peer.client
      match progress with
      | some (phase, since) =>
        { loopback.setPeer name ⟨client, .serving id connection phase since⟩ with server }
      | none =>
        let loop := (loopback.loop.step? (.ended id false)).getD loopback.loop
        { loopback.setPeer name ⟨client, .closed⟩ with server, loop }
    | _ => loopback.setPeer name peer

/-- Accept the stream of one peer, if it waits and there is a slot. -/
def acceptPeer (loopback : Loopback) (name : String) : Loopback :=
  match loopback.peers.lookup name, loopback.loop.accept? with
  | some ⟨client, .waiting source⟩, some (id, loop) =>
    let (connection, server) := loopback.server.openConnection ("conn-" ++ id.repr)
      source Sink.eager
    { loopback.setPeer name ⟨client, .serving id connection .idle loopback.now⟩ with server, loop }
  | _, _ => loopback

/-- Accept and serve one peer after the other. -/
def settleOnce (loopback : Loopback) : Loopback :=
  (loopback.peers.map Prod.fst).foldl (fun loopback name ↦
    (loopback.acceptPeer name).servePeer name) loopback

/-- Let happen what can happen. Each time that another stream can be accepted a connection has
ended, so it takes no more rounds than there are streams. -/
def settle (loopback : Loopback) : Loopback :=
  (List.replicate (loopback.peers.length + 1) ()).foldl (fun loopback () ↦ loopback.settleOnce)
    loopback

/-- Connect a client. -/
def connect (name : String) (loopback : Loopback) : Except IoError Loopback :=
  if loopback.isUp ∧ loopback.loop.stage ≠ .stopped then
    let peer : Peer := ⟨Client.ofStream Source.silent Sink.eager 0, .waiting Source.silent⟩
    let others := loopback.peers.filter fun other ↦ other.1 != name
    let loopback := { loopback with peers := others ++ [(name, peer)] }
    .ok loopback.settle
  else .error .refused

/-- What a client does with its stream at a moment. -/
abbrev Exchange (α : Type) := Time → Client → Settled (Except ClientError α) × Client

/-- Let a client make an exchange. What it sends does not depend on the reply, so the exchange is
made once without one, to see what is sent, and once with what the server makes of it. -/
def exchange {α : Type} (name : String) (act : Exchange α) (loopback : Loopback) :
    Option (Option (Except ClientError α) × Loopback) :=
  (loopback.peers.lookup name).map fun peer ↦
    let (first, asked) := act loopback.now peer.client
    match first.result? with
    | some result => (some result, (loopback.setPeer name { peer with client := asked }).settle)
    | none =>
      let sent := { peer.client with writer := asked.writer }
      let loopback := (loopback.setPeer name { peer with client := sent }).settle
      match loopback.peers.lookup name with
      | none => (none, loopback)
      | some peer =>
        let unsent := { peer.client with writer := { peer.client.writer with sink := Sink.eager } }
        let (second, client) := act loopback.now unsent
        let client := { client with writer := peer.client.writer }
        (second.result?, loopback.setPeer name { peer with client })

/-- Call the handler of a path. -/
def call (name path : String) (body : Bytes) :
    Loopback → Option (Option (Except ClientError Bytes) × Loopback) :=
  exchange name fun now client ↦ client.call (some now) path body now

/-- Call the handler of a code. -/
def callCode (name : String) (code : UInt16) (body : Bytes) :
    Loopback → Option (Option (Except ClientError (UInt16 × Bytes)) × Loopback) :=
  exchange name fun now client ↦ client.callCode (some now) code body now

/-- Forget a client whose stream the server has closed. -/
def forget (name : String) (loopback : Loopback) : Loopback :=
  { loopback with
    peers := loopback.peers.filter fun (other, peer) ↦
      other != name || !(peer.serverEnd matches .closed) }

/-- Close a client. It is forgotten when the server has closed its stream too. -/
def close (name : String) (loopback : Loopback) :
    Option (Option (Except ClientError Unit) × Loopback) :=
  (exchange name (fun now client ↦ client.close (some now) now) loopback).map
    fun (result, loopback) ↦ (result, loopback.forget name)

/-- The moment at which the next connection gets on by itself, if that is not after a limit. -/
def nextMoment? (limit : Time) (loopback : Loopback) : Option Time :=
  loopback.peers.foldl (fun best (_, peer) ↦
    match peer.serverEnd with
    | .serving _ connection phase since =>
      let run := phase.run loopback.server.settings loopback.server.dispatcher (some limit) since
        connection.link
      if run.ending = .hanging then best else some (min run.time (best.getD run.time))
    | _ => best) none

/-- Wait until so many connections are open, but not beyond a limit. Each moment that passes in
between ends a connection. -/
def waitLiveBy (limit : Time) (live : Int) : (rounds : Nat) → Loopback → Loopback
  | 0, loopback => { loopback with now := limit }
  | rounds + 1, loopback =>
    if loopback.server.metrics.live = live then loopback
    else match loopback.nextMoment? limit with
      | none => { loopback with now := limit }
      | some moment =>
        let loopback := { loopback with now := max loopback.now moment }
        waitLiveBy limit live rounds loopback.settle

/-- The time that `waitLive` waits at most. -/
def patience : Time := 2000

/-- Wait until so many connections are open, but not for ever. -/
def waitLive (live : Int) (loopback : Loopback) : Loopback :=
  waitLiveBy (loopback.now + patience) live (loopback.peers.length + 1) loopback

/-- Stop accepting streams. Those that wait are closed; those that are served go on. -/
def stop (loopback : Loopback) : Loopback :=
  match loopback.loop.step? .stopped with
  | none => loopback
  | some loop =>
    let drop (peer : Peer) : Peer :=
      match peer.serverEnd with
      | .waiting _ =>
        ⟨{ peer.client with reader := peer.client.reader.deliver loopback.now [] true }, .closed⟩
      | _ => peer
    { loopback with
      server := loopback.server.noteAccept .stopped
      loop
      peers := loopback.peers.map fun entry ↦ (entry.1, drop entry.2) }

end Loopback

end FramedExchange
