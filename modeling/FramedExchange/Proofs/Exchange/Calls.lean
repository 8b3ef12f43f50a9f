import FramedExchange.Proofs.Exchange.Call
import FramedExchange.Proofs.Serving.Answer
import FramedExchange.Proofs.Stream.Lossless

/-!
# One call after another

A client makes calls on a stream that neither fails nor stalls, and has no timeout. Between two
calls all that matters is what is unread and what has been sent (`Client.Shows`). A call that fits
into a frame sends its request, and then takes the next frame for the reply
(`Shows.exists_perform_eq_read`). If no frame comes, the call breaks the client or never returns,
and in either case nothing more is sent.

* `taken_performAll`: so the requests that are sent are one more than the replies that come in, if
  there are so many;
* `exists_performAll_eq`: if the replies are the answers of a dispatcher and no request is left
  without one, every call brings what the dispatcher says (`Dispatcher.outcome`), and the client
  stays in order.
-/

namespace FramedExchange

namespace Call

/-- The request that is sent for a call: none if it does not fit into a frame. -/
def request? (call : Call) : Option Frame :=
  if Frame.maxBody < call.payload.length then none else some call.request

/-- The requests that are sent for calls. -/
def requests (calls : List (Scheduled Call)) : List Frame :=
  calls.filterMap fun item ↦ item.event.request?

variable {item : Scheduled Call} {calls : List (Scheduled Call)}

theorem requests_cons_of_lt (h : Frame.maxBody < item.event.payload.length) :
    requests (item :: calls) = requests calls := by
  rw [requests, List.filterMap_cons_none]
  · rfl
  · exact if_pos h

theorem requests_cons_of_le (h : item.event.payload.length ≤ Frame.maxBody) :
    requests (item :: calls) = item.event.request :: requests calls := by
  rw [requests, List.filterMap_cons_some]
  · rfl
  · exact if_neg (Nat.not_lt.2 h)

theorem isValid_request {call : Call} (hfits : call.payload.length ≤ Frame.maxBody) :
    call.request.IsValid :=
  Frame.isValid_ofBody (Header.isOurs_make _ 0) hfits

/-- The requests that are sent are valid frames. -/
theorem isValid_of_mem_requests : ∀ request ∈ requests calls, request.IsValid := by
  intro request hmem
  obtain ⟨item, -, hrequest⟩ := List.mem_filterMap.1 hmem
  rw [request?] at hrequest
  split at hrequest
  · cases hrequest
  · rename_i hfits
    cases hrequest
    exact isValid_request (Nat.le_of_not_lt hfits)

end Call

/-- What a call brings from a server that has these handlers. The server closes a connection if it
has no answer. -/
def Dispatcher.outcome (dispatcher : Dispatcher) (call : Call) : Except ClientError Answer :=
  if Frame.maxBody < call.payload.length then .error (.frame (.tooLarge call.payload.length))
  else match dispatcher.answer? call.request with
    | some answer => call.read answer
    | none => .error (.frame .closed)

namespace Client

/-- A client in order and without a timeout, on a stream that neither fails nor stalls, with certain
bytes unread and others sent. -/
structure Shows (ends : Bool) (unread sent : Bytes) (client : Client) : Prop where
  inOrder : client.isBroken = false
  unbounded : client.timeout = 0
  source : client.reader.source.IsLossless ends
  sink : client.writer.sink.IsWilling
  unread : client.reader.unread = unread
  sent : client.writer.sink.taken = sent

/-- Make one call after another, each from a certain moment on. A call that never returns is the
last one. -/
def performAll (horizon : Option Time) :
    Time → List (Scheduled Call) → Client → List (Except ClientError Answer) × Client
  | _, [], client => ([], client)
  | now, item :: calls, client =>
    match item.event.perform horizon (max now item.due) client with
    | (⟨none, _⟩, client) => ([], client)
    | (⟨some result, time⟩, client) =>
      let (results, client) := performAll horizon time calls client
      (result :: results, client)

variable {ends : Bool} {unread rest sent : Bytes} {client after : Client} {call : Call}
variable {code : UInt16} {body : Bytes} {now time : Time} {item : Scheduled Call}
variable {calls : List (Scheduled Call)} {horizon : Option Time}

/-! ### One call -/

@[simp]
theorem writer_readReply (limits : Limits) (now : Time) (client : Client) :
    (client.readReply limits now).2.writer = client.writer := by
  rw [readReply]
  rcases client.reader.readFrame limits now with ⟨⟨got, time⟩, reader⟩
  rcases got with - | error | reply
  · rfl
  · rfl
  · rfl

/-- The request is written, and then the reply is read. -/
theorem Shows.exists_exchange_eq_readReply (h : client.Shows ends unread sent)
    (hfits : body.length ≤ Frame.maxBody) (code : UInt16) (now : Time) :
    ∃ time writer, client.exchange none code body now =
        { client with writer }.readReply Limits.none time ∧ writer.sink.IsWilling ∧
      writer.sink.taken = sent ++ (Frame.ofBody (Header.make code 0) body).encode := by
  obtain ⟨time, writer, hwrite, hsink, htaken⟩ :=
    Writer.exists_writeFrame_eq_ok h.sink (Header.make code 0) hfits now
  rw [h.sent] at htaken
  refine ⟨time, writer, ?_, hsink, htaken⟩
  simp only [exchange, h.inOrder, Bool.false_eq_true, if_false, limits_of_unbounded h.unbounded,
    hwrite]

/-- **A call takes the next frame for its reply**, and leaves the client in order. -/
theorem Shows.exists_perform_eq_read (h : client.Shows ends unread sent)
    (hfits : call.payload.length ≤ Frame.maxBody) {reply : Frame}
    (hfirst : Frame.first? unread = some (reply, rest)) (now : Time) :
    ∃ time after, call.perform none now client = (⟨some (call.read reply), time⟩, after) ∧
      after.Shows ends rest (sent ++ call.request.encode) := by
  obtain ⟨written, writer, hexchange, hsink, htaken⟩ :=
    h.exists_exchange_eq_readReply hfits call.headerCode now
  rw [← h.unread] at hfirst
  obtain ⟨time, reader, hread, hleft, hsource⟩ :=
    Reader.exists_readFrame_eq_ok h.source hfirst written
  refine ⟨time, { client with reader, writer }, ?_,
    ⟨h.inOrder, h.unbounded, hsource, hsink, hleft, htaken⟩⟩
  rw [Call.perform_eq, hexchange]
  simp only [readReply, hread]
  rfl

/-- A call sends its request, whatever comes in. -/
theorem Shows.taken_perform (h : client.Shows ends unread sent)
    (hfits : call.payload.length ≤ Frame.maxBody) (now : Time) :
    (call.perform none now client).2.writer.sink.taken = sent ++ call.request.encode := by
  obtain ⟨written, writer, hexchange, -, htaken⟩ :=
    h.exists_exchange_eq_readReply hfits call.headerCode now
  rw [Call.perform_eq, hexchange, writer_readReply]
  exact htaken

/-! ### Calls in a row -/

theorem performAll_cons_of_eq {result : Except ClientError Answer}
    (h : item.event.perform horizon (max now item.due) client = (⟨some result, time⟩, after)) :
    client.performAll horizon now (item :: calls) =
      (result :: (after.performAll horizon time calls).1,
        (after.performAll horizon time calls).2) := by
  rw [performAll, h]

theorem performAll_of_isBroken (h : client.isBroken = true) (horizon : Option Time) (now : Time)
    (calls : List (Scheduled Call)) : (client.performAll horizon now calls).2 = client := by
  induction calls generalizing now with
  | nil => rfl
  | cons item calls ih =>
    rw [performAll_cons_of_eq (perform_of_isBroken h item.event horizon (max now item.due)), ih]

/-- A call for which no reply comes in is the last that sends anything. -/
theorem Shows.taken_performAll_cons (h : client.Shows ends unread sent)
    (hfits : item.event.payload.length ≤ Frame.maxBody) (hnone : Frame.first? unread = none)
    (now : Time) (calls : List (Scheduled Call)) :
    (client.performAll none now (item :: calls)).2.writer.sink.taken =
      sent ++ item.event.request.encode := by
  have htaken := h.taken_perform hfits (max now item.due)
  rcases hperform : item.event.perform none (max now item.due) client with ⟨⟨result, time⟩, after⟩
  rw [hperform] at htaken
  rcases result with - | result
  · rw [performAll, hperform]
    exact htaken
  · rcases perform_cases h.inOrder hfits hperform with ⟨reply, -, -, hfirst, -⟩ | ⟨-, -, -, hbroken⟩
    · rw [h.unread, hnone] at hfirst
      cases hfirst
    · rw [performAll_cons_of_eq hperform, performAll_of_isBroken hbroken]
      exact htaken

/-- **The requests that are sent** are as many as the replies and one more, or all. -/
theorem Shows.taken_performAll {replies : List Frame} (h : client.Shows ends unread sent)
    (hcut : Frame.IsCut unread replies rest) (now : Time) (calls : List (Scheduled Call)) :
    (client.performAll none now calls).2.writer.sink.taken =
      sent ++ ((Call.requests calls).take (replies.length + 1)).flatMap Frame.encode := by
  induction calls generalizing client now unread sent replies with
  | nil =>
    rw [Call.requests, List.filterMap_nil, List.take_nil, List.flatMap_nil, List.append_nil]
    exact h.sent
  | cons item calls ih =>
    rcases Nat.lt_or_ge Frame.maxBody item.event.payload.length with hlong | hfits
    · rw [Call.requests_cons_of_lt hlong,
        performAll_cons_of_eq (perform_of_lt h.inOrder hlong none _)]
      exact ih h hcut _
    · rw [Call.requests_cons_of_le hfits, List.take_succ_cons, List.flatMap_cons,
        ← List.append_assoc]
      cases replies with
      | nil =>
        -- the replies are used up, and this request is the one more
        rw [hcut.joined, List.flatMap_nil, List.nil_append] at h
        rw [h.taken_performAll_cons hfits (Frame.first?_eq_none_iff.2 hcut.maximal),
          List.length_nil, List.take_zero, List.flatMap_nil, List.append_nil]
      | cons reply replies =>
        have hcut' : Frame.IsCut (replies.flatMap Frame.encode ++ rest) replies rest :=
          ⟨rfl, fun other hmem ↦ hcut.valid other (List.mem_cons_of_mem _ hmem), hcut.maximal⟩
        rw [hcut.joined, List.flatMap_cons, List.append_assoc] at h
        obtain ⟨time, after, hperform, hafter⟩ := h.exists_perform_eq_read hfits
          (Frame.first?_encode_append (hcut.valid reply List.mem_cons_self) _) (max now item.due)
        rw [performAll_cons_of_eq hperform]
        exact ih hafter hcut' _

/-- **Calls that are all answered** bring what the dispatcher says. -/
theorem Shows.exists_performAll_eq {dispatcher : Dispatcher} (rest : Bytes)
    (hanswered : ∀ request ∈ Call.requests calls, (dispatcher.answer? request).isSome)
    (h : client.Shows ends
      ((dispatcher.answers (Call.requests calls)).flatMap Frame.encode ++ rest) sent)
    (now : Time) :
    ∃ after, client.performAll none now calls =
        (calls.map fun item ↦ dispatcher.outcome item.event, after) ∧
      after.Shows ends rest (sent ++ (Call.requests calls).flatMap Frame.encode) := by
  induction calls generalizing client now sent with
  | nil =>
    refine ⟨client, rfl, ?_⟩
    rwa [Call.requests, List.filterMap_nil, List.flatMap_nil, List.append_nil]
  | cons item calls ih =>
    rcases Nat.lt_or_ge Frame.maxBody item.event.payload.length with hlong | hfits
    · rw [Call.requests_cons_of_lt hlong] at h hanswered
      obtain ⟨after, hcalls, hafter⟩ := ih hanswered h (max now item.due)
      rw [Call.requests_cons_of_lt hlong]
      refine ⟨after, ?_, hafter⟩
      rw [performAll_cons_of_eq (perform_of_lt h.inOrder hlong none _), hcalls, List.map_cons,
        Dispatcher.outcome, if_pos hlong]
    · rw [Call.requests_cons_of_le hfits] at h hanswered
      obtain ⟨answer, hanswer⟩ := Option.isSome_iff_exists.1 (hanswered _ List.mem_cons_self)
      rw [Dispatcher.answers_cons_of_some hanswer, List.flatMap_cons, List.append_assoc] at h
      obtain ⟨time, between, hperform, hbetween⟩ := h.exists_perform_eq_read hfits
        (Frame.first?_encode_append
          (Dispatcher.isValid_of_answer? (Call.isValid_request hfits) hanswer) _) (max now item.due)
      obtain ⟨after, hcalls, hafter⟩ :=
        ih (fun other hmem ↦ hanswered other (List.mem_cons_of_mem _ hmem)) hbetween time
      rw [Call.requests_cons_of_le hfits, List.flatMap_cons, ← List.append_assoc]
      refine ⟨after, ?_, hafter⟩
      rw [performAll_cons_of_eq hperform, hcalls, List.map_cons, Dispatcher.outcome,
        if_neg (Nat.not_lt.2 hfits), hanswer]

end Client

end FramedExchange
