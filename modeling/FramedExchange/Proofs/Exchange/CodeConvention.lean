import FramedExchange.Proofs.Exchange.Closing

/-!
# What a call of a code brings

In the code convention bodies are passed through as they are, and one field of the header is the key
of the handler in a request and the status in its reply. What a call brings is again a law of the
handlers alone (`CodeRegistry.outcome`). The code 0 stands for success in a reply and for no handler
in a request: whatever has been registered, nothing is found under it (`get?_ofRegistrations`).

The law has no answer where a handler panics. There the server closes the connection without a byte
of a reply, and the client is left to find out by the end of the stream.

* `perform_byCode`: over a stream that loses neither bytes nor its end every call brings what the
  law says, up to the first whose handler panics. That one comes to the end of the stream, and all
  that follow are refused.
-/

namespace FramedExchange

/-- A request in the code convention. -/
structure CodeRequest where
  code : UInt16
  body : Bytes
deriving DecidableEq, Repr

namespace CodeRegistry

/-! ### Registrations -/

/-- The handlers of a server at which handlers have been registered, in this order. -/
def ofRegistrations (registrations : List (UInt16 × CodeHandler)) : CodeRegistry :=
  registrations.foldl (fun registry entry ↦ registry.registerCode entry.1 entry.2) .empty

theorem get?_registerCode (code other : UInt16) (handler : CodeHandler) (registry : CodeRegistry) :
    (registry.registerCode code handler).get? other =
      if code ≠ 0 ∧ other = code then some handler else registry.get? other := by
  by_cases hzero : code = 0
  · rw [registerCode, if_pos hzero, if_neg fun h ↦ h.1 hzero]
  · rw [registerCode, if_neg hzero, Registry.get?_register]
    simp [hzero]

/-- **The last registration of a code counts**, and for the code 0 none does. -/
theorem get?_ofRegistrations (registrations : List (UInt16 × CodeHandler)) (code : UInt16) :
    (ofRegistrations registrations).get? code =
      if code = 0 then none else registrations.reverse.lookup code := by
  induction registrations using List.reverseRecOn with
  | nil =>
    show none = _
    split <;> rfl
  | append_singleton registrations entry ih =>
    obtain ⟨key, handler⟩ := entry
    rw [ofRegistrations, List.foldl_append]
    show (registerCode key handler (ofRegistrations registrations)).get? code = _
    rw [get?_registerCode, ih, List.reverse_append, List.reverse_singleton, List.singleton_append,
      List.lookup_cons]
    rcases hkey : code == key with - | -
    · rw [if_neg fun h ↦ beq_eq_false_iff_ne.1 hkey h.2]
    · obtain rfl := beq_iff_eq.1 hkey
      by_cases hzero : code = 0
      · rw [if_neg fun h ↦ h.1 hzero, if_pos hzero, if_pos hzero]
      · rw [if_pos ⟨hzero, rfl⟩, if_neg hzero]

/-! ### The law -/

/-- What a handler has for a request, or what is sent in its place. After a panic there is
nothing. -/
def reply? (registry : CodeRegistry) (request : CodeRequest) : Option Reply :=
  match registry.get? request.code with
  | none => some ⟨1003, Bytes.ofString "invalid action"⟩
  | some handler =>
    match (handler request.code request.body).result with
    | .error _ => none
    | .ok body =>
      some (if Frame.maxBody < body.length then ⟨1005, Bytes.ofString "response too large"⟩
        else ⟨0, body⟩)

/-- **The law of the code convention**: what a call brings from a server with these handlers. -/
def outcome (registry : CodeRegistry) (request : CodeRequest) : Except ClientError Reply :=
  if Frame.maxBody < request.body.length then .error (.frame (.tooLarge request.body.length))
  else match registry.reply? request with
    | none => .error (.frame .closed)
    | some reply => .ok reply

/-- Whether a request is given to a handler that panics. -/
def panics (registry : CodeRegistry) (request : CodeRequest) : Bool :=
  decide (request.body.length ≤ Frame.maxBody) && (registry.reply? request).isNone

/-- The bytes that are sent in answer to a request: none if it is not sent or its handler panics. -/
def answerBytes (registry : CodeRegistry) (request : CodeRequest) : Bytes :=
  match registry.outcome request with
  | .ok reply => (reply.frame (.make request.code 0)).encode
  | .error _ => []

/-- No handler is found for the code 0. -/
theorem outcome_zero (registrations : List (UInt16 × CodeHandler)) {body : Bytes}
    (hfits : body.length ≤ Frame.maxBody) :
    (ofRegistrations registrations).outcome ⟨0, body⟩ =
      .ok ⟨1003, Bytes.ofString "invalid action"⟩ := by
  have hnone : (ofRegistrations registrations).get? 0 = none := get?_ofRegistrations registrations 0
  rw [outcome, if_neg (Nat.not_lt.2 hfits), reply?, hnone]

end CodeRegistry

/-! ### Calls of codes -/

namespace CodeRequest

/-- The call that makes a request. -/
def call (request : CodeRequest) : Call := .toCode request.code request.body

/-- Calls that make requests, each from a certain moment on. -/
def calls (requests : List (Scheduled CodeRequest)) : List (Scheduled Call) :=
  requests.map fun item ↦ ⟨item.due, item.event.call⟩

/-- The bytes that are sent for a request: none if it does not fit into a frame. -/
def bytes (request : CodeRequest) : Bytes :=
  if Frame.maxBody < request.body.length then []
  else (Frame.ofBody (.make request.code 0) request.body).encode

@[simp]
theorem payload_call (request : CodeRequest) : request.call.payload = request.body := rfl

theorem map_event_calls (requests : List (Scheduled CodeRequest)) :
    (calls requests).map Scheduled.event = (requests.map Scheduled.event).map call := by
  rw [calls, List.map_map, List.map_map]
  rfl

theorem bytes_call (request : CodeRequest) : request.call.bytes = request.bytes := by
  rw [Call.bytes, Call.request?, bytes, payload_call]
  split <;> rfl

end CodeRequest

/-- What a call of a code makes of a reply. -/
def Answer.ofReply (reply : Reply) : Answer := .coded reply.code reply.body

namespace Dispatcher

variable (registry : CodeRegistry) (request : CodeRequest)

/-- The frame that is owed for a request is the one that the law has for it. -/
theorem answer?_call :
    (byCode registry).answer? request.call.request =
      (registry.reply? request).map fun reply ↦ reply.frame (.make request.code 0) := by
  have hcode : request.call.request.header.code = request.code := rfl
  have hbody : request.call.request.body = request.body := rfl
  rw [answer?, reply?, dispatch, CodeRegistry.reply?, hcode, hbody]
  rcases registry.get? request.code with - | handler
  · rfl
  · simp only [HandlerRun.map]
    rcases (handler request.code request.body).result with panic | body
    · rfl
    · show some (((byCode registry).fitting ⟨0, body⟩).frame _) =
        some ((if Frame.maxBody < body.length then _ else _ : Reply).frame _)
      rcases Nat.lt_or_ge Frame.maxBody body.length with hlong | hle
      · rw [fitting_of_lt hlong, if_pos hlong]
        rfl
      · rw [fitting_of_le hle, if_neg (Nat.not_lt.2 hle)]
        rfl

/-- **A call of a code brings what the law says.** -/
theorem outcome_call :
    (byCode registry).outcome request.call = (registry.outcome request).map Answer.ofReply := by
  rw [outcome, CodeRegistry.outcome, CodeRequest.payload_call, answer?_call]
  split
  · rfl
  · rcases registry.reply? request with - | reply <;> rfl

theorem leavesOpen_call : (byCode registry).leavesOpen request.call = registry.panics request := by
  rcases Nat.lt_or_ge Frame.maxBody request.body.length with hlong | hfits
  · have hno : decide (request.body.length ≤ Frame.maxBody) = false :=
      decide_eq_false (Nat.not_le.2 hlong)
    rw [CodeRegistry.panics, hno, Bool.false_and]
    exact leavesOpen_of_lt hlong
  · have hyes : decide (request.body.length ≤ Frame.maxBody) = true := decide_eq_true hfits
    have hopen : (byCode registry).leavesOpen request.call = _ := leavesOpen_of_le _ hfits
    rw [CodeRegistry.panics, hyes, Bool.true_and, hopen, answer?_call, Option.isNone_map]

theorem answerBytes_call :
    (byCode registry).answerBytes request.call = registry.answerBytes request := by
  rw [answerBytes, CodeRegistry.answerBytes, CodeRegistry.outcome, Call.request?,
    CodeRequest.payload_call]
  rcases Nat.lt_or_ge Frame.maxBody request.body.length with hlong | hfits
  · rw [if_pos hlong, if_pos hlong]
    rfl
  · rw [if_neg (Nat.not_lt.2 hfits), if_neg (Nat.not_lt.2 hfits), Option.bind_some, answer?_call]
    rcases registry.reply? request with - | reply <;> rfl

end Dispatcher

section Calls

variable {β : Type} {registry : CodeRegistry} {requests : List (Scheduled CodeRequest)}

theorem any_calls :
    ((CodeRequest.calls requests).map Scheduled.event).any (Dispatcher.byCode registry).leavesOpen =
      (requests.map Scheduled.event).any registry.panics := by
  rw [CodeRequest.map_event_calls, List.any_map]
  congr 1
  funext request
  exact Dispatcher.leavesOpen_call registry request

/-- What calls of codes come to is what their requests come to, up to the first that panics. -/
theorem mapUntil_calls {f : Call → β} {g : CodeRequest → β}
    (h : ∀ request : CodeRequest, f request.call = g request) (after : β)
    (requests : List (Scheduled CodeRequest)) :
    mapUntil (Dispatcher.byCode registry).leavesOpen f after
        ((CodeRequest.calls requests).map Scheduled.event) =
      mapUntil registry.panics g after (requests.map Scheduled.event) := by
  rw [CodeRequest.map_event_calls, mapUntil_map]
  congr 1
  · funext request
    exact Dispatcher.leavesOpen_call registry request
  · funext request
    exact h request

end Calls

namespace Joint

variable {joint : Joint} {registrations : List (UInt16 × CodeHandler)}
variable {requests : List (Scheduled CodeRequest)}

/-- **Client and server agree** in the code convention. Over a stream that loses nothing the first
so many calls all return. Up to the first whose handler panics, that one included, each brings what
the law says for its code and its body, and sends its request if it fits; those that follow are
refused and send nothing. The server answers the same requests up to that one, sends nothing else,
and closes the connection with it. -/
theorem perform_byCode (hjoint : joint.IsWhole) (hserver : joint.server.Reachable)
    (hsteady : joint.server.IsSteady)
    (hregistry : joint.server.dispatcher = .byCode (.ofRegistrations registrations))
    (hcalls : joint.calls = CodeRequest.calls requests) (n : ℕ) :
    let registry := CodeRegistry.ofRegistrations registrations
    let asked := requests.map Scheduled.event
    (joint.perform n).1 = mapUntil registry.panics
        (fun request ↦ (registry.outcome request).map Answer.ofReply) (.error .broken)
        (asked.take n) ∧
      (joint.perform n).2.isBroken = (asked.take n).any registry.panics ∧
      (joint.perform n).2.writer.sink.taken =
        (mapUntil registry.panics CodeRequest.bytes [] (asked.take n)).flatten ∧
      joint.answered = (mapUntil registry.panics registry.answerBytes [] asked).flatten ∧
      (asked.any registry.panics = true → joint.closed? = some .handlerPanic) ∧
      ∀ body, body.length ≤ Frame.maxBody →
        registry.outcome ⟨0, body⟩ = .ok ⟨1003, Bytes.ofString "invalid action"⟩ := by
  intro registry asked
  obtain ⟨hresults, hbroken, hsent⟩ := hjoint.perform_eq hserver hsteady n
  have htake : joint.calls.take n = CodeRequest.calls (requests.take n) := by
    rw [hcalls, CodeRequest.calls, CodeRequest.calls, List.map_take]
  have hfront : (requests.take n).map Scheduled.event = asked.take n := List.map_take
  have hreplies := ((isLossless_iff hjoint.toIsWilling hserver hsteady).1 hjoint.toIsLossless).2
  have hanswered := hjoint.carries_answered.symm.trans hreplies
  rw [answers, Dispatcher.flatMap_answers_requests, hregistry, hcalls] at hanswered
  rw [hregistry, htake] at hresults hbroken hsent
  refine ⟨?_, ?_, ?_, ?_, fun hpanic ↦ ?_, fun body ↦ CodeRegistry.outcome_zero registrations⟩
  · rw [hresults, ← hfront]
    exact mapUntil_calls (Dispatcher.outcome_call registry) _ _
  · rw [hbroken, ← hfront, any_calls]
  · rw [hsent, ← hfront]
    exact congrArg List.flatten (mapUntil_calls CodeRequest.bytes_call _ _)
  · rw [hanswered]
    exact congrArg List.flatten (mapUntil_calls (Dispatcher.answerBytes_call registry) _ _)
  · refine hjoint.toIsLossless.closed?_eq hserver hsteady ?_
    rw [hregistry, ← Dispatcher.any_leavesOpen_iff, hcalls, any_calls]
    exact hpanic

/-- Four calls, of which the third panics. The code 0 has been registered as well. Requests and
replies arrive in pieces that cut frames in two. -/
theorem perform_byCode_panicking :
    let registrations : List (UInt16 × CodeHandler) :=
      [(7, .reverse), (0, .echo), (8, .panicking .untyped), (7, .echo)]
    let requests : List (Scheduled CodeRequest) :=
      [⟨0, ⟨7, [1, 2]⟩⟩, ⟨5, ⟨0, [3]⟩⟩, ⟨5, ⟨8, []⟩⟩, ⟨6, ⟨7, [4]⟩⟩]
    let sent := (requests.take 3).flatMap fun item ↦ item.event.bytes
    let invalid := Bytes.ofString "invalid action"
    let received := (Reply.frame (.make 7 0) ⟨0, [1, 2]⟩).encode ++
      (Reply.frame (.make 0 0) ⟨1003, invalid⟩).encode
    let joint : Joint :=
      { server := Server.start .default (.byCode (.ofRegistrations registrations))
        name := "conn-1"
        accepted := 0
        requests := Source.ofScript [⟨0, .data (sent.take 15)⟩, ⟨9, .data (sent.drop 15)⟩]
        serverSink := .ofScripts [⟨2, .take 1⟩] [] []
        calls := CodeRequest.calls requests
        replies := Source.ofScript
          [⟨3, .data (received.take 7)⟩, ⟨9, .data (received.drop 7)⟩, ⟨21, .eof⟩]
        clientSink := .ofScripts [⟨0, .take 3⟩] [] [] }
    (joint.perform 4).1 = [.ok (.coded 0 [1, 2]), .ok (.coded 1003 invalid),
        .error (.frame .closed), .error .broken] ∧
      (joint.perform 4).2.isBroken = true ∧ joint.answered = received ∧
      joint.closed? = some .handlerPanic := by
  intro registrations requests sent invalid received joint
  have hsteady : joint.server.IsSteady := by
    refine ⟨⟨rfl, rfl, rfl⟩, rfl, rfl, fun entry hmem code body ↦ ?_⟩
    have hentries : entry ∈ [((7 : UInt16), CodeHandler.echo), (8, .panicking .untyped)] := hmem
    rcases List.mem_cons.1 hentries with rfl | hmem
    · rfl
    · obtain rfl := List.mem_singleton.1 hmem
      rfl
  have hwilling : joint.IsWilling :=
    { requests := ⟨false, .data 0 _ (.data 9 _ .silence), by decide, rfl⟩
      serverSink := ⟨fun item hmem ↦ ⟨0, by rw [List.mem_singleton.1 hmem]⟩, nofun, nofun⟩
      serverSink_fresh := rfl
      replies := ⟨true, .data 3 _ (.data 9 _ (.eof 21)), by decide, rfl⟩
      clientSink := ⟨fun item hmem ↦ ⟨2, by rw [List.mem_singleton.1 hmem]⟩, nofun, nofun⟩
      clientSink_fresh := rfl }
  have hlossless : joint.IsLossless :=
    (isLossless_iff hwilling (.start _ _) hsteady).2 ⟨by decide +kernel, by decide +kernel⟩
  have hclosed : joint.closed?.isSome = true := by decide +kernel
  have hwhole : joint.IsWhole :=
    ⟨hlossless, hclosed ▸ ⟨.data 3 _ (.data 9 _ (.eof 21)), by decide, rfl⟩⟩
  obtain ⟨hresults, hbroken, -, hanswered, hpanic, -⟩ :=
    perform_byCode hwhole (.start _ _) hsteady rfl rfl 4
  exact ⟨hresults.trans (by decide +kernel), hbroken.trans (by decide +kernel),
    hanswered.trans (by decide +kernel), hpanic (by decide +kernel)⟩

end Joint

end FramedExchange
