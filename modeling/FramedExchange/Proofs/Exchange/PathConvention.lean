import FramedExchange.Proofs.Envelope.RoundTrip
import FramedExchange.Proofs.Exchange.Agreement

/-!
# What a call of a path brings

In the path convention both ends write and read envelopes, and either end reads what the other one
has written (`Request.decode_encode`, `Client.answerOf_frame`). So what a call brings is a law of
the handlers alone (`PathRegistry.outcome`), and the law has an answer for every request: a call is
never left without a reply.

* `perform_byPath`: over a stream that loses nothing every call brings what the law says, whatever
  was called before, and leaves the client in order.
-/

namespace FramedExchange

/-- What a client makes of a response, given the code in the header of the reply. -/
def Response.verdict (code : UInt16) : Response → Except ClientError Bytes
  | success body => .ok body
  | failure text => .error (.remote code text)

/-- **The law of the path convention**: what a call brings from a server with these handlers. -/
def PathRegistry.outcome (registry : PathRegistry) (request : Request) : Except ClientError Bytes :=
  if Frame.maxBody < request.encode.length then .error (.frame (.tooLarge request.encode.length))
  else match registry.get? request.path with
    | none => .error (.remote 1002 "invalid path")
    | some handler =>
      match (handler request.body).result with
      | .error _ => .error (.remote 1004 "internal error")
      | .ok answer =>
        if Frame.maxBody < (Response.ofAnswer answer).encode.length then
          .error (.remote 1005 "response too large")
        else match answer with
          | .ok body => .ok body
          | .error text => .error (.remote 0 text)

/-! ### Envelopes in frames -/

/-- What fits into a frame is short enough for an envelope. -/
private theorem lt_of_le_maxBody {n m : ℕ} (hle : n ≤ m) (hfits : m ≤ Frame.maxBody) : n < 2 ^ 32 :=
  (hle.trans hfits).trans_lt (by decide)

/-- The server reads the request that a client has sent. -/
theorem Request.decode_encode {request : Request} (hfits : request.encode.length ≤ Frame.maxBody) :
    decode request.encode = .ok request := by
  have hlength := request.length_add_length_le
  have hpath := lt_of_le_maxBody ((Nat.le_add_right _ _).trans hlength) hfits
  have hbody := lt_of_le_maxBody ((Nat.le_add_left _ _).trans hlength) hfits
  have hdecode := decode_encode_append hpath hbody []
  rwa [List.append_nil] at hdecode

/-- The client reads the response that a server has sent. -/
theorem Client.answerOf_frame {response : Response} (hfits : response.encode.length ≤ Frame.maxBody)
    (header : Header) (code : UInt16) :
    answerOf ((Reply.ofResponse code response).frame header) = response.verdict code := by
  have hdecode := Response.decode_encode (lt_of_le_maxBody response.payloadLength_le hfits)
  have hbody : ((Reply.ofResponse code response).frame header).body = response.encode := rfl
  rw [answerOf, hbody, hdecode]
  cases response with
  | success body => rfl
  | failure text => rfl

namespace Dispatcher

variable {registry : PathRegistry} {request : Request} {code : UInt16} {response : Response}

/-- The reply to a request whose handler has given an answer. -/
theorem reply?_of_answer {frame : Frame} {handler : PathHandler} {answer : Except String Bytes}
    (hdecode : Request.decode frame.body = .ok request)
    (hget : registry.get? request.path = some handler)
    (hanswer : (handler request.body).result = .ok answer) :
    (byPath registry).reply? frame = some (.ofResponse 0 (.ofAnswer answer)) := by
  simp only [reply?, dispatch, hdecode, hget, HandlerRun.map, hanswer]
  rfl

/-- The reply to a request decides what the call brings. -/
theorem outcome_of_reply? (hfits : request.encode.length ≤ Frame.maxBody)
    (hreply : (byPath registry).reply? (Call.toPath request.path request.body).request =
      some (.ofResponse code response)) :
    (byPath registry).outcome (.toPath request.path request.body) =
      (if Frame.maxBody < response.encode.length then .error (.remote 1005 "response too large")
        else response.verdict code).map .bytes := by
  have hshort : ¬Frame.maxBody < (Call.toPath request.path request.body).payload.length :=
    Nat.not_lt.2 hfits
  rw [outcome, if_neg hshort, answer?_eq_some hreply]
  show (Client.answerOf _).map Answer.bytes = _
  rcases Nat.lt_or_ge Frame.maxBody response.encode.length with hlong | hle
  · have hstatus : (byPath registry).fitting (.ofResponse code response) =
        .ofResponse 1005 (.failure "response too large") := fitting_of_lt hlong
    rw [if_pos hlong, hstatus, Client.answerOf_frame (by decide)]
    rfl
  · rw [if_neg (Nat.not_lt.2 hle), fitting_of_le hle]
    rw [Client.answerOf_frame hle]

/-- **A call of a path brings what the law says.** -/
theorem outcome_toPath (registry : PathRegistry) (request : Request) :
    (byPath registry).outcome (.toPath request.path request.body) =
      (registry.outcome request).map .bytes := by
  rw [PathRegistry.outcome]
  rcases Nat.lt_or_ge Frame.maxBody request.encode.length with hlong | hfits
  · rw [if_pos hlong]
    exact if_pos hlong
  · have hdecode :
        Request.decode (Call.toPath request.path request.body).request.body = .ok request :=
      Request.decode_encode hfits
    rw [if_neg (Nat.not_lt.2 hfits)]
    -- the cases are those of the law: no handler, a panic, an answer
    rcases hget : registry.get? request.path with - | handler
    · have hreply : (byPath registry).reply? (Call.toPath request.path request.body).request =
          some (.ofResponse 1002 (.failure "invalid path")) := by
        simp only [reply?, dispatch, hdecode, hget]
        rfl
      rw [outcome_of_reply? hfits hreply, if_neg (by decide)]
      rfl
    · rcases hresult : (handler request.body).result with panic | answer
      · have hreply : (byPath registry).reply? (Call.toPath request.path request.body).request =
            some (.ofResponse 1004 (.failure "internal error")) := by
          simp only [reply?, dispatch, hdecode, hget, HandlerRun.map, hresult]
          rfl
        rw [outcome_of_reply? hfits hreply, if_neg (by decide)]
        simp only [hresult]
        rfl
      · rw [outcome_of_reply? hfits (reply?_of_answer hdecode hget hresult)]
        simp only [hresult]
        cases answer with
        | ok body => rfl
        | error text => rfl

end Dispatcher

/-! ### Calls of paths -/

/-- The call that makes a request. -/
def Call.ofRequest (request : Request) : Call := .toPath request.path request.body

/-- Calls of paths, each at a moment. -/
def Call.ofRequests (requests : List (Scheduled Request)) : List (Scheduled Call) :=
  requests.map fun item ↦ ⟨item.due, .ofRequest item.event⟩

/-- The bytes of the requests that fit into a frame. -/
def Request.frames (requests : List (Scheduled Request)) : Bytes :=
  (requests.filter fun item ↦ item.event.encode.length ≤ Frame.maxBody).flatMap fun item ↦
    (Frame.ofBody (.make 0 0) item.event.encode).encode

theorem Call.flatMap_requests_ofRequests (requests : List (Scheduled Request)) :
    (Call.requests (ofRequests requests)).flatMap Frame.encode = Request.frames requests := by
  rw [Request.frames]
  induction requests with
  | nil => rfl
  | cons item requests ih =>
    rw [ofRequests, List.map_cons, ← ofRequests]
    rcases Nat.lt_or_ge Frame.maxBody (ofRequest item.event).payload.length with hlong | hfits
    · have hbeyond : ¬item.event.encode.length ≤ Frame.maxBody := Nat.not_le.2 hlong
      rw [requests_cons_of_lt hlong, ih, List.filter_cons_of_neg (by simpa using hbeyond)]
    · have hwithin : item.event.encode.length ≤ Frame.maxBody := hfits
      rw [requests_cons_of_le hfits, List.flatMap_cons, ih,
        List.filter_cons_of_pos (by simpa using hwithin), List.flatMap_cons]
      rfl

variable {joint : Joint} {registry : PathRegistry} {requests : List (Scheduled Request)}

/-- **Client and server agree.** Over a stream that loses nothing the first so many calls all
return, each with what the law says for its path and its body. Until then the client has sent the
requests that fit and nothing else, and it is in order. -/
theorem Joint.perform_byPath (hjoint : joint.IsLossless) (hserver : joint.server.Reachable)
    (hsteady : joint.server.IsSteady) (hregistry : joint.server.dispatcher = .byPath registry)
    (hcalls : joint.calls = Call.ofRequests requests) (n : ℕ) :
    (joint.perform n).1 =
        (requests.take n).map (fun item ↦ (registry.outcome item.event).map Answer.bytes) ∧
      (joint.perform n).2.writer.sink.taken = Request.frames (requests.take n) ∧
      (joint.perform n).2.isBroken = false := by
  have htake : joint.calls.take n = Call.ofRequests (requests.take n) := by
    rw [hcalls, Call.ofRequests, Call.ofRequests, List.map_take]
  obtain ⟨ends, rest, client, hperform, hclient⟩ := hjoint.exists_perform_eq hserver hsteady n
    fun request _ ↦ by
      rw [hregistry]
      exact Dispatcher.isSome_answer?_byPath registry request
  rw [hperform, htake, Call.ofRequests, List.map_map]
  refine ⟨List.map_congr_left fun item _ ↦ ?_, ?_, hclient.inOrder⟩
  · show joint.server.dispatcher.outcome (.ofRequest item.event) = _
    rw [hregistry]
    exact Dispatcher.outcome_toPath registry item.event
  · rw [hclient.sent, htake, Call.flatMap_requests_ofRequests]

/-- Three calls, of which only the first one succeeds. Requests and replies arrive in pieces that
cut frames in two. -/
theorem Joint.perform_byPath_mixed :
    let registry : PathRegistry := ⟨[("echo", .echo), ("boom", .panicking .untyped)]⟩
    let requests : List (Scheduled Request) :=
      [⟨0, ⟨"echo", [1, 2]⟩⟩, ⟨5, ⟨"boom", []⟩⟩, ⟨5, ⟨"nowhere", [3]⟩⟩]
    let asked := Request.frames requests
    let replies := [Reply.ofResponse 0 (.success [1, 2]),
      .ofResponse 1004 (.failure "internal error"), .ofResponse 1002 (.failure "invalid path")]
    let answered := replies.flatMap fun reply ↦ (reply.frame (.make 0 0)).encode
    let joint : Joint :=
      { server := Server.start .default (.byPath registry)
        name := "conn-1"
        accepted := 0
        requests := Source.ofScript
          [⟨0, .data (asked.take 40)⟩, ⟨9, .data (asked.drop 40)⟩, ⟨20, .eof⟩]
        serverSink := .ofScripts [⟨2, .take 1⟩] [] []
        calls := Call.ofRequests requests
        replies := Source.ofScript
          [⟨3, .data (answered.take 7)⟩, ⟨9, .data (answered.drop 7)⟩, ⟨21, .eof⟩]
        clientSink := .ofScripts [⟨0, .take 3⟩] [] [] }
    (joint.perform 3).1 = [.ok (.bytes [1, 2]), .error (.remote 1004 "internal error"),
        .error (.remote 1002 "invalid path")] ∧
      (joint.perform 3).2.isBroken = false := by
  intro registry requests asked replies answered joint
  have hsteady : joint.server.IsSteady := by
    refine ⟨⟨rfl, rfl, rfl⟩, rfl, rfl, fun entry hmem body ↦ ?_⟩
    obtain rfl | hmem := List.mem_cons.1 hmem
    · rfl
    · obtain rfl := List.mem_singleton.1 hmem
      rfl
  have hwilling : joint.IsWilling :=
    { requests := ⟨true, .data 0 _ (.data 9 _ (.eof 20)), by decide, rfl⟩
      serverSink := ⟨fun item hmem ↦ ⟨0, by rw [List.mem_singleton.1 hmem]⟩, nofun, nofun⟩
      serverSink_fresh := rfl
      replies := ⟨true, .data 3 _ (.data 9 _ (.eof 21)), by decide, rfl⟩
      clientSink := ⟨fun item hmem ↦ ⟨2, by rw [List.mem_singleton.1 hmem]⟩, nofun, nofun⟩
      clientSink_fresh := rfl }
  have hjoint : joint.IsLossless :=
    (Joint.isLossless_iff hwilling (.start _ _) hsteady).2 ⟨by decide +kernel, by decide +kernel⟩
  obtain ⟨hresults, -, hopen⟩ := Joint.perform_byPath hjoint (.start _ _) hsteady rfl rfl 3
  exact ⟨hresults.trans (by decide +kernel), hopen⟩

end FramedExchange
