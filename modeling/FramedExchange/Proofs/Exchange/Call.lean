import FramedExchange.Client
import FramedExchange.Proofs.Stream.Reading
import FramedExchange.Proofs.Stream.Writing

/-!
# One call of a client

Both kinds of calls make one exchange, a request frame for a reply frame, and differ in the request
that they send (`Call.request`) and in what they read from the reply (`Call.read`). So it is enough
to say once what an exchange can come to (`exchange_cases`): it is refused before anything happens,
it fails and leaves the client broken, or the reply is the next frame of the incoming stream and the
request has been written.

A broken client does nothing any more (`exchange_of_isBroken`).
-/

namespace FramedExchange

/-- Something that a client is asked to do. -/
inductive Call
  /-- To call the handler of a path. -/
  | toPath (path : String) (body : Bytes)
  /-- To call the handler of a code. -/
  | toCode (code : UInt16) (body : Bytes)
deriving DecidableEq, Repr

/-- What a call brings. -/
inductive Answer
  | bytes (body : Bytes)
  /-- The code in the header of the reply, and its body. -/
  | coded (code : UInt16) (body : Bytes)
deriving DecidableEq, Repr

namespace Call

/-- The code in the header of the request. -/
def headerCode : Call → UInt16
  | toPath _ _ => 0
  | toCode code _ => code

/-- The body of the request. -/
def payload : Call → Bytes
  | toPath path body => Request.encode ⟨path, body⟩
  | toCode _ body => body

/-- The request that a call sends, if it fits into a frame. -/
def request (call : Call) : Frame := Frame.ofBody (Header.make call.headerCode 0) call.payload

/-- What a call makes of the reply. -/
def read (reply : Frame) : Call → Except ClientError Answer
  | toPath _ _ => (Client.answerOf reply).map .bytes
  | toCode _ _ => .ok (.coded reply.header.code reply.body)

/-- Make a call. -/
def perform (horizon : Option Time) (now : Time) (client : Client) :
    Call → Settled (Except ClientError Answer) × Client
  | toPath path body =>
    let (result, client) := client.call horizon path body now
    (result.map fun outcome ↦ outcome.map .bytes, client)
  | toCode code body =>
    let (result, client) := client.callCode horizon code body now
    (result.map fun outcome ↦ outcome.map fun answer ↦ .coded answer.1 answer.2, client)

/-- A call is an exchange, and a look at the reply if there is one. -/
theorem perform_eq (horizon : Option Time) (now : Time) (client : Client) (call : Call) :
    call.perform horizon now client =
      ((client.exchange horizon call.headerCode call.payload now).1.map fun reply ↦
        reply.bind fun frame ↦ call.read frame,
      (client.exchange horizon call.headerCode call.payload now).2) := by
  cases call with
  | toPath path body =>
    simp only [perform, Client.call, headerCode, payload]
    rcases client.exchange horizon 0 (Request.encode ⟨path, body⟩) now with ⟨⟨result, time⟩, after⟩
    rcases result with - | error | reply
    · rfl
    · rfl
    · rfl
  | toCode code body =>
    simp only [perform, Client.callCode, headerCode, payload]
    rcases client.exchange horizon code body now with ⟨⟨result, time⟩, after⟩
    rcases result with - | error | reply
    · rfl
    · rfl
    · rfl

end Call

namespace Client

variable {horizon : Option Time} {code : UInt16} {body : Bytes} {now time : Time}
variable {client after : Client}

theorem exchange_of_isBroken (h : client.isBroken = true) (horizon : Option Time) (code : UInt16)
    (body : Bytes) (now : Time) :
    client.exchange horizon code body now = (⟨some (.error .broken), now⟩, client) := by
  rw [exchange, if_pos h]

/-- A request that does not fit is refused, and nothing else happens. -/
theorem exchange_of_lt (h : client.isBroken = false) (hlong : Frame.maxBody < body.length)
    (horizon : Option Time) (code : UInt16) (now : Time) :
    client.exchange horizon code body now =
      (⟨some (.error (.frame (.tooLarge body.length))), now⟩, client) := by
  have hsame : { client with isBroken := (FrameError.tooLarge body.length).isBroken } = client := by
    rw [show (FrameError.tooLarge body.length).isBroken = client.isBroken from h.symm]
  simp only [exchange, h, Bool.false_eq_true, if_false, Writer.writeFrame_of_lt hlong, hsame]

/-- **What an exchange can come to** once the request fits. Either the next frame of the incoming
stream is the reply and the request has been written, or the client is broken; a part of the request
may have been written then. -/
theorem exchange_cases (h : client.isBroken = false) (hfits : body.length ≤ Frame.maxBody)
    {result : Except ClientError Frame}
    (hexchange : client.exchange horizon code body now = (⟨some result, time⟩, after)) :
    (∃ reply, result = .ok reply ∧ after.isBroken = false ∧
        Frame.first? client.reader.unread = some (reply, after.reader.unread) ∧
        after.writer.sink.taken =
          client.writer.sink.taken ++ (Frame.ofBody (Header.make code 0) body).encode) ∨
      ∃ error, result = .error (.frame error) ∧ error.isBroken = true ∧ after.isBroken = true ∧
        ∃ part, part <+: (Frame.ofBody (Header.make code 0) body).encode ∧
          after.writer.sink.taken = client.writer.sink.taken ++ part := by
  obtain ⟨record, hsent, hprefix, hall⟩ := Writer.exists_recorded_writeFrame
    ⟨deadlineAfter now client.timeout, horizon⟩ (Header.make code 0) hfits now client.writer
  simp only [exchange, h, Bool.false_eq_true, if_false] at hexchange
  rcases hwrite : client.writer.writeFrame ⟨deadlineAfter now client.timeout, horizon⟩
    (Header.make code 0) body now with ⟨⟨written, writtenTime⟩, writer⟩
  rw [hwrite] at hexchange hsent hall
  have htaken : writer.sink.taken = client.writer.sink.taken ++ Sink.recorded record := by
    rw [Sink.taken_eq_recorded, Sink.taken_eq_recorded, hsent, Sink.recorded_append]
  rcases written with - | error | _
  · cases hexchange
  · have hbroken := Writer.isBroken_of_writeFrame hfits (congrArg (·.1.result?) hwrite)
    cases hexchange
    exact .inr ⟨error, rfl, hbroken, hbroken, _, hprefix, htaken⟩
  · simp only [readReply] at hexchange
    rcases hread : client.reader.readFrame ⟨deadlineAfter now client.timeout, horizon⟩
      writtenTime with ⟨⟨got, gotTime⟩, reader⟩
    rw [hread] at hexchange
    rw [hall rfl] at htaken
    rcases got with - | error | reply
    · cases hexchange
    · cases hexchange
      refine .inr ⟨_, rfl, ?_, rfl, _, List.prefix_refl _, htaken⟩
      -- the deadline that passes before the first byte of a reply counts as one that passes later
      rcases Reader.readFrame_eq_error hread with hbroken | ⟨rfl, -⟩
      · split
        · rfl
        · exact hbroken
      · rfl
    · cases hexchange
      exact .inl ⟨reply, rfl, rfl, Reader.readFrame_eq_ok hread, htaken⟩

/-! ### Calls -/

variable {call : Call} {result : Except ClientError Answer}

theorem perform_of_isBroken (h : client.isBroken = true) (call : Call) (horizon : Option Time)
    (now : Time) :
    call.perform horizon now client = (⟨some (.error .broken), now⟩, client) := by
  rw [Call.perform_eq, exchange_of_isBroken h]
  rfl

theorem perform_of_lt (h : client.isBroken = false) (hlong : Frame.maxBody < call.payload.length)
    (horizon : Option Time) (now : Time) :
    call.perform horizon now client =
      (⟨some (.error (.frame (.tooLarge call.payload.length))), now⟩, client) := by
  rw [Call.perform_eq, exchange_of_lt h hlong]
  rfl

/-- **What a call can come to** on a client in order, if its request fits. -/
theorem perform_cases (h : client.isBroken = false) (hfits : call.payload.length ≤ Frame.maxBody)
    (hperform : call.perform horizon now client = (⟨some result, time⟩, after)) :
    (∃ reply, result = call.read reply ∧ after.isBroken = false ∧
        Frame.first? client.reader.unread = some (reply, after.reader.unread) ∧
        after.writer.sink.taken = client.writer.sink.taken ++ call.request.encode) ∨
      ∃ error, result = .error (.frame error) ∧ error.isBroken = true ∧ after.isBroken = true := by
  rw [Call.perform_eq] at hperform
  rcases hexchange : client.exchange horizon call.headerCode call.payload now with
    ⟨⟨outcome, ended⟩, left⟩
  rw [hexchange] at hperform
  rcases outcome with - | outcome
  · cases hperform
  · cases hperform
    rcases exchange_cases h hfits hexchange with
      ⟨reply, rfl, hrest⟩ | ⟨error, rfl, hbroken, hleft, -⟩
    · exact .inl ⟨reply, rfl, hrest⟩
    · exact .inr ⟨error, rfl, hbroken, hleft⟩

end Client

end FramedExchange
