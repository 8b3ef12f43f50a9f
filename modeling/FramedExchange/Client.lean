import FramedExchange.Envelope
import FramedExchange.Status
import FramedExchange.Stream.Reader
import FramedExchange.Stream.Writer

/-!
# Clients

A client owns one stream and makes one exchange at a time: a request frame out, a reply frame in,
under a deadline that covers both. When an exchange fails after bytes of its request may have been
written, a reply that comes later could be taken for the answer to another request. From then on the
client is broken and refuses every call. A request that does not fit into a frame is refused before
any byte is written and breaks nothing; nor does a reply that is complete but reports a failure or
is no envelope.
-/

namespace FramedExchange

/-- Why a call failed. -/
inductive ClientError
  /-- The stream could not be set up or shut down. -/
  | io (error : IoError)
  /-- The exchange of frames failed. -/
  | frame (error : FrameError)
  /-- The reply is no response envelope. -/
  | decode (cause : MessagePack.DecodeError)
  /-- An earlier exchange has broken the client. -/
  | broken
  /-- The peer answered with a failure: the code in the header of its reply, and a text. -/
  | remote (code : UInt16) (text : String)
deriving DecidableEq, Repr

namespace ClientError

/-- The wording of a failed call. A reply that is no envelope has one only if its cause has. -/
def message? : ClientError → Option String
  | io error => some ("i/o error: " ++ error.text)
  | frame error => some ("frame error: " ++ error.message)
  | decode cause => cause.message?.map fun text ↦ "envelope decode error: " ++ text
  | broken => some "connection broken by an earlier failed call, reconnect"
  | remote code text => some ("remote error " ++ code.toNat.repr ++ ": " ++ text)

/-- The status that the peer reported, if the code in its reply is one. -/
def status? : ClientError → Option Status
  | remote code _ => Status.ofCode? code
  | _ => none

end ClientError

/-- A client and its stream. -/
structure Client where
  reader : Reader
  writer : Writer
  /-- The time that one exchange may take; zero stands for no bound. -/
  timeout : Time
  /-- Whether an exchange has failed in a way that leaves the stream of no further use. -/
  isBroken : Bool
deriving DecidableEq, Repr

namespace Client

/-- The capacity of a new client's buffers. -/
def bufferSize : Nat := 4096

/-- A client on a new stream. -/
def ofStream (source : Source) (sink : Sink) (timeout : Time) : Client where
  reader := ⟨Buffer.withCapacity bufferSize, source⟩
  writer := ⟨Buffer.withCapacity bufferSize, sink⟩
  timeout := timeout
  isBroken := false

/-- Read the reply to a request that was written. A deadline that passes before the first byte of
the reply is a timeout like any other, because a reply is owed. -/
def readReply (limits : Limits) (now : Time) (client : Client) :
    Settled (Except ClientError Frame) × Client :=
  match client.reader.readFrame limits now with
  | (⟨some (.ok reply), time⟩, reader) => (⟨some (.ok reply), time⟩, { client with reader })
  | (⟨some (.error error), time⟩, reader) =>
    (⟨some (.error (.frame (if error = .idle then .timeout else error))), time⟩,
      { client with reader, isBroken := true })
  | (⟨none, time⟩, reader) => (⟨none, time⟩, { client with reader })

/-- Write a request frame and read a reply frame. -/
def exchange (horizon : Option Time) (code : UInt16) (body : Bytes) (now : Time) (client : Client) :
    Settled (Except ClientError Frame) × Client :=
  if client.isBroken then (⟨some (.error .broken), now⟩, client)
  else
    let limits : Limits := ⟨deadlineAfter now client.timeout, horizon⟩
    match client.writer.writeFrame limits (Header.make code 0) body now with
    | (⟨some (.ok ()), time⟩, writer) => readReply limits time { client with writer }
    | (⟨some (.error error), time⟩, writer) =>
      (⟨some (.error (.frame error)), time⟩, { client with writer, isBroken := error.isBroken })
    | (⟨none, time⟩, writer) => (⟨none, time⟩, { client with writer })

/-- What a reply frame in the path convention says. -/
def answerOf (reply : Frame) : Except ClientError Bytes :=
  match Response.decode reply.body with
  | .ok (.success body) => .ok body
  | .ok (.failure text) => .error (.remote reply.header.code text)
  | .error cause => .error (.decode cause)

/-- Call the handler of a path. -/
def call (horizon : Option Time) (path : String) (body : Bytes) (now : Time) (client : Client) :
    Settled (Except ClientError Bytes) × Client :=
  let (result, client) := client.exchange horizon 0 (Request.encode ⟨path, body⟩) now
  (result.map fun reply ↦ reply.bind answerOf, client)

/-- Call the handler of a code. The answer is the code in the header of the reply, and its body. -/
def callCode (horizon : Option Time) (code : UInt16) (body : Bytes) (now : Time) (client : Client) :
    Settled (Except ClientError (UInt16 × Bytes)) × Client :=
  let (result, client) := client.exchange horizon code body now
  (result.map fun reply ↦ reply.map fun frame ↦ (frame.header.code, frame.body), client)

/-- Shut the outgoing half of the stream down, which tells the peer that no request follows. No
deadline bounds this. -/
def close (horizon : Option Time) (now : Time) (client : Client) :
    Settled (Except ClientError Unit) × Client :=
  let (result, writer) := client.writer.shutdown ⟨none, horizon⟩ now
  ((result.map fun outcome ↦ outcome.mapError .io).settle (.ok ()), { client with writer })

end Client

end FramedExchange
