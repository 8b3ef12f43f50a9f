import FramedExchange.Proofs.Envelope.Sizes
import FramedExchange.Proofs.Exchange.PathConvention
import FramedExchange.Proofs.Serving.Delivering

/-!
# How much the path convention can carry

A frame has a limit, and an envelope has more bytes than what it carries. So an answer comes to the
peer as it is up to 65516 bytes of payload, be they bytes or the text of a failure, and behind that
the peer gets a status in its place (`Frame.CarriesAnswer`). A client learns of a request that is
too long from its own side: it is refused before anything of it is written (`Client.RefusesLong`).
-/

namespace FramedExchange

/-! ### Answers -/

/-- What a frame brings of the answer of a path handler. -/
structure Frame.CarriesAnswer (answer : Except String Bytes) (frame : Frame) : Prop where
  /-- The answer is there exactly if its payload is not too long. -/
  intact_iff : Response.decode frame.body = .ok (.ofAnswer answer) ↔
    (Response.ofAnswer answer).payloadLength ≤ 65516
  /-- Then the frame says that the handler has been run, also if its answer is a failure. -/
  code_of_le : (Response.ofAnswer answer).payloadLength ≤ 65516 → frame.header.code = 0
  /-- Otherwise a status takes the place of the answer. -/
  refused : 65516 < (Response.ofAnswer answer).payloadLength →
    frame.header.code = 1005 ∧ Response.decode frame.body = .ok (.failure "response too large")

/-- **An answer is carried as far as it fits**, in the frame that is owed for the request. -/
theorem Dispatcher.carriesAnswer_fitting (registry : PathRegistry) (header : Header)
    (answer : Except String Bytes) :
    (((byPath registry).fitting (.ofResponse 0 (.ofAnswer answer))).frame header).CarriesAnswer
      answer := by
  generalize hresponse : Response.ofAnswer answer = response
  have hfits := response.length_encode_le_iff
  have hlength : (Reply.ofResponse 0 response).body.length = response.encode.length := rfl
  rcases Nat.lt_or_ge 65516 response.payloadLength with hlong | hshort
  · -- the status is another response, because it is short
    have hstatus : Response.decode (Response.failure "response too large").encode =
        .ok (.failure "response too large") := Response.decode_encode (by decide)
    have hother : Response.failure "response too large" ≠ response := by
      rintro rfl
      exact absurd hlong (by decide)
    have hnot : ¬response.payloadLength ≤ 65516 := Nat.not_le.2 hlong
    rw [fitting_of_lt (hlength.symm ▸ Nat.lt_of_not_le (hfits.not.2 hnot))]
    constructor
    all_goals rw [hresponse]
    · refine iff_of_false (fun hintact ↦ hother ?_) hnot
      exact Except.ok.inj (hstatus.symm.trans hintact)
    · exact fun hle ↦ absurd hle hnot
    · exact fun _ ↦ ⟨rfl, hstatus⟩
  · rw [fitting_of_le (hlength.trans_le (hfits.2 hshort))]
    constructor
    all_goals rw [hresponse]
    · exact iff_of_true (Response.decode_encode (by omega)) hshort
    · exact fun _ ↦ rfl
    · exact fun hlong ↦ absurd hshort (Nat.not_le.2 hlong)

/-! ### Requests -/

namespace Client

variable {horizon : Option Time} {path : String} {body : Bytes} {now : Time} {client : Client}

/-- How a client deals with the length of a request. -/
structure RefusesLong (horizon : Option Time) (path : String) (body : Bytes) (now : Time)
    (client : Client) : Prop where
  /-- A request is found too long exactly if its envelope is. Only a broken client does not look. -/
  refused_iff : ∀ size,
    (client.call horizon path body now).1.result? = some (.error (.frame (.tooLarge size))) ↔
      client.isBroken = false ∧ size = Request.size path body ∧ 65535 < size
  /-- Of such a request nothing is written, nothing is read after it and no time passes. -/
  untouched : 65535 < Request.size path body →
    (client.call horizon path body now).2 = client ∧
      (client.call horizon path body now).1.time = now

/-- What is read from a reply is never that a request was too long. -/
theorem answerOf_ne_frame (reply : Frame) (error : FrameError) :
    answerOf reply ≠ .error (.frame error) := by
  rw [answerOf]
  split <;> rintro ⟨⟩

/-- A call of which the request fits never reports that it is too long. -/
theorem call_ne_tooLarge (horizon : Option Time) (now : Time) (hbroken : client.isBroken = false)
    (hfits : Request.size path body ≤ Frame.maxBody) (size : ℕ) :
    (client.call horizon path body now).1.result? ≠ some (.error (.frame (.tooLarge size))) := by
  rw [← Request.length_encode] at hfits
  intro hcall
  rcases hexchange : client.exchange horizon 0 (Request.encode ⟨path, body⟩) now with
    ⟨⟨result, time⟩, after⟩
  rw [call, hexchange] at hcall
  rcases result with - | result
  · cases hcall
  rcases exchange_cases hbroken hfits hexchange with ⟨reply, rfl, -⟩ | ⟨error, rfl, hbroken, -⟩
  · exact answerOf_ne_frame reply _ (Option.some.inj hcall)
  · cases hcall
    cases hbroken

/-- **A request is refused exactly for its length**, and before anything else. -/
theorem refusesLong (horizon : Option Time) (path : String) (body : Bytes) (now : Time)
    (client : Client) : client.RefusesLong horizon path body now := by
  rcases hbroken : client.isBroken with - | -
  · rcases Nat.lt_or_ge Frame.maxBody (Request.size path body) with hlong | hfits
    · have hcall : client.call horizon path body now =
          (⟨some (.error (.frame (.tooLarge (Request.size path body)))), now⟩, client) := by
        rw [← Request.length_encode] at hlong ⊢
        rw [call, exchange_of_lt hbroken hlong]
        rfl
      refine ⟨fun size ↦ ?_, fun _ ↦ ?_⟩
      · rw [hcall]
        constructor
        · intro hsize
          cases hsize
          exact ⟨hbroken, rfl, hlong⟩
        · rintro ⟨-, rfl, -⟩
          rfl
      · rw [hcall]
        exact ⟨rfl, rfl⟩
    · have hnot := call_ne_tooLarge horizon now hbroken hfits
      refine ⟨fun size ↦ iff_of_false (hnot size) ?_, fun hlong ↦ absurd hfits (Nat.not_le.2 hlong)⟩
      rintro ⟨-, rfl, hlong⟩
      exact absurd hfits (Nat.not_le.2 hlong)
  · have hcall : client.call horizon path body now = (⟨some (.error .broken), now⟩, client) := by
      rw [call, exchange_of_isBroken hbroken]
      rfl
    refine ⟨fun size ↦ ?_, fun _ ↦ ?_⟩
    · rw [hcall, hbroken]
      constructor
      · rintro ⟨⟩
      · rintro ⟨⟨⟩, -⟩
    · rw [hcall]
      exact ⟨rfl, rfl⟩

end Client

/-! ### Both -/

/-- **The path convention carries exactly so much.** A response has 16 bytes more than its payload
and the head before it. On a stream that takes what is written within the window of the reply, an
answer of a handler comes to the peer in one frame: as it is up to 65516 bytes of payload, and as a
status behind that; either way the frame is a reply like any other, and only what comes after it is
open. A client refuses a request exactly if its envelope has more than 65535 bytes. -/
theorem Connection.carries_serve {server : Server} {registry : PathRegistry}
    (hpath : server.dispatcher = .byPath registry) (name : String) (source : Source) (sink : Sink)
    (now : Time) :
    let opened := server.openConnection name source sink
    (∀ response : Response,
      response.encode.length = 16 + response.headSize + response.payloadLength) ∧
    (∀ course request envelope handler answer,
      Course.Reachable server.settings server.dispatcher now opened.1.link course →
      course.phase = .dispatching request →
      Request.decode request.body = .ok envelope →
      registry.get? envelope.path = some handler →
      (handler envelope.body).result = .ok answer →
      course.link.writer.sink.TakesAll (deadlineAfter course.since server.settings.writeTimeout) →
      ∃ frame : Frame, frame.IsValid ∧
        course.Delivers server.settings server.dispatcher frame ∧ frame.CarriesAnswer answer) ∧
    ∀ (client : Client) horizon path body moment, client.RefusesLong horizon path body moment := by
  intro opened
  refine ⟨Response.length_encode, fun course request envelope handler answer hreach hphase hdecode
    hget hanswer htakes ↦ ?_, fun client horizon path body moment ↦
      client.refusesLong horizon path body moment⟩
  have hvalid := Course.isValid_of_dispatching hreach hphase
  have hreply := Dispatcher.reply?_of_answer hdecode hget hanswer
  rw [hpath] at hreach ⊢
  have howed := Dispatcher.answer?_eq_some hreply
  exact ⟨_, Dispatcher.isValid_of_answer? hvalid howed, Course.delivers_of_answer? hphase howed
    htakes, Dispatcher.carriesAnswer_fitting registry request.header answer⟩

/-- Two handlers, one with the longest answer that comes to its peer and one with the shortest that
does not, over a stream that takes a thousand bytes, then one, and then the rest. -/
theorem Connection.carries_serve_limit :
    let longest : Bytes := List.replicate 65516 7
    let beyond : Bytes := List.replicate 65517 7
    let registry : PathRegistry := ⟨[("/longest", .const longest), ("/beyond", .const beyond)]⟩
    let server := Server.start { ServerSettings.default with writeTimeout := 9 } (.byPath registry)
    let request (path : String) := Frame.ofBody (.make 0 0) (Request.encode ⟨path, []⟩)
    let source (path : String) := Source.ofScript [⟨2, .data (request path).encode⟩]
    let sink := Sink.ofScripts [⟨3, .take 1000⟩, ⟨5, .take 1⟩] [⟨8, .success⟩] []
    let link (path : String) := (server.openConnection "conn-1" (source path) sink).1.link
    server.dispatcher = .byPath registry ∧
      (∃ course frame,
        Course.Reachable server.settings server.dispatcher 0 (link "/longest") course ∧
        course.phase = .dispatching (request "/longest") ∧
        course.Delivers server.settings server.dispatcher frame ∧
        frame.header.code = 0 ∧ Response.decode frame.body = .ok (.success longest)) ∧
      ∃ course frame,
        Course.Reachable server.settings server.dispatcher 0 (link "/beyond") course ∧
        course.phase = .dispatching (request "/beyond") ∧
        course.Delivers server.settings server.dispatcher frame ∧
        frame.header.code = 1005 ∧
          Response.decode frame.body = .ok (.failure "response too large") := by
  intro longest beyond registry server request source sink link
  let reading (path : String) : Course :=
    let idle := Course.start 0 (link path)
    idle.goOn (idle.run server.settings server.dispatcher none) .reading
  let course (path : String) : Course := (reading path).goOn
    ((reading path).run server.settings server.dispatcher none) (.dispatching (request path))
  have hreach (path : String)
      (hwoken : Connection.progressOf server ((Course.start 0 (link path)).run server.settings
        server.dispatcher none).ending = .next .reading)
      (hread : Connection.progressOf server ((reading path).run server.settings server.dispatcher
        none).ending = .next (.dispatching (request path))) :
      Course.Reachable server.settings server.dispatcher 0 (link path) (course path) :=
    .tail (.tail .refl (.goOn rfl hwoken)) (.goOn rfl hread)
  have hsink (path : String) : (course path).link.writer.sink = sink := rfl
  have htakes (path : String) (hsince : (course path).since = 2) :
      (course path).link.writer.sink.TakesAll
        (deadlineAfter (course path).since server.settings.writeTimeout) := by
    rw [hsince, hsink]
    exact fun bytes ↦ ⟨8, rfl,
      Sink.shows_of_takes (by simp [sink, Sink.ofScripts]) (by decide) bytes⟩
  have hdispatcher : server.dispatcher = .byPath registry := rfl
  have hcarries (path : String) :=
    (Connection.carries_serve hdispatcher "conn-1" (source path) sink 0).2.1 (course path)
      (request path) ⟨path, []⟩
  refine ⟨rfl, ?_, ?_⟩
  · have hcourse := hreach "/longest" (by decide +kernel) (by decide +kernel)
    obtain ⟨frame, -, hdelivers, hintact, hcode, -⟩ :=
      hcarries "/longest" _ (.ok longest) hcourse rfl
      (by decide +kernel) rfl rfl (htakes _ (by decide +kernel))
    have hshort : (Response.ofAnswer (.ok longest)).payloadLength ≤ 65516 :=
      List.length_replicate.le
    exact ⟨course "/longest", frame, hcourse, rfl, hdelivers, hcode hshort, hintact.2 hshort⟩
  · have hcourse := hreach "/beyond" (by decide +kernel) (by decide +kernel)
    obtain ⟨frame, -, hdelivers, -, -, hrefused⟩ := hcarries "/beyond" _ (.ok beyond) hcourse rfl
      (by decide +kernel) rfl rfl (htakes _ (by decide +kernel))
    have hlong : 65516 < (Response.ofAnswer (.ok beyond)).payloadLength := List.length_replicate.ge
    exact ⟨course "/beyond", frame, hcourse, rfl, hdelivers, hrefused hlong⟩

end FramedExchange
