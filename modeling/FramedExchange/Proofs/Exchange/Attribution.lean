import FramedExchange.Proofs.Exchange.Call
import Mathlib.Data.List.Forall2

/-!
# A reply is never taken for the answer to another request

A client makes one call after the other on a stream that may do anything. As long as no exchange has
failed, what has come in so far are the replies to the requests that were sent, one for one and
nothing besides. The first exchange that fails may leave a part of a request sent or a part of a
reply unread, and then the client gives its stream up: it is broken, and touches it no more. So the
exchanges that succeed bring the frames of the incoming stream in order (`IsAttributed`).

A reply that reports a failure or that is no envelope is a reply like any other. An exchange that is
refused because the request does not fit never begins.
-/

namespace FramedExchange

/-- A call that was made and what came of it. -/
structure Done where
  call : Call
  result : Except ClientError Answer

namespace Done

/-- Whether the exchange succeeded: a whole reply came in, whatever it says. -/
def isExchanged (done : Done) : Bool :=
  match done.result with
  | .ok _ => true
  | .error (.decode _) => true
  | .error (.remote _ _) => true
  | .error _ => false

/-- What is read from a reply counts as an exchange that succeeded. -/
theorem isExchanged_read (call : Call) (reply : Frame) :
    isExchanged ⟨call, call.read reply⟩ = true := by
  cases call with
  | toPath path body =>
    simp only [isExchanged, Call.read, Client.answerOf]
    rcases Response.decode reply.body with cause | (body | text) <;> rfl
  | toCode code body => rfl

end Done

/-- The calls of a history whose exchange succeeded. -/
def exchanged (history : List Done) : List Done := history.filter Done.isExchanged

namespace Client

/-- What a client can come to by making calls, each at any time and under any horizon, and the
history of those calls. -/
inductive Reachable (start : Client) : List Done → Client → Prop
  | start : Reachable start [] start
  | call {history : List Done} {client after : Client} (call : Call) {horizon : Option Time}
      {now time : Time} {result : Except ClientError Answer} :
      Reachable start history client →
      call.perform horizon now client = (⟨some result, time⟩, after) →
      Reachable start (history ++ [⟨call, result⟩]) after

/-- The exchanges that succeeded have brought the first frames of the input, one each and in order.
While the client is in order, what follows those frames is still unread, and their requests are all
that was sent. -/
structure IsAttributed (input : Bytes) (history : List Done) (client : Client)
    (replies : List Frame) : Prop where
  front : replies <+: (Frame.split input).1
  answered : List.Forall₂ (fun done reply ↦ done.result = done.call.read reply)
    (exchanged history) replies
  unread : client.isBroken = false → input = replies.flatMap Frame.encode ++ client.reader.unread
  sent : client.isBroken = false →
    client.writer.sink.taken = (exchanged history).flatMap fun done ↦ done.call.request.encode

variable {start client after : Client} {history : List Done} {input : Bytes} {replies : List Frame}
variable {call : Call} {horizon : Option Time} {now time : Time}
variable {result : Except ClientError Answer}

/-! ### The invariant -/

theorem exchanged_append_of_not {done : Done} (h : done.isExchanged = false) (history : List Done) :
    exchanged (history ++ [done]) = exchanged history := by
  rw [exchanged, List.filter_append, List.filter_singleton, h, cond_false, List.append_nil]
  rfl

theorem exchanged_append_read (call : Call) (reply : Frame) (history : List Done) :
    exchanged (history ++ [⟨call, call.read reply⟩]) =
      exchanged history ++ [⟨call, call.read reply⟩] := by
  rw [exchanged, List.filter_append, List.filter_singleton, Done.isExchanged_read, cond_true]
  rfl

/-- A call that brings no reply keeps what has been attributed, if it leaves the client as it was or
broken. -/
theorem IsAttributed.of_not_isExchanged (h : client.IsAttributed input history replies)
    (hdone : Done.isExchanged ⟨call, result⟩ = false)
    (hafter : after = client ∨ after.isBroken = true) :
    after.IsAttributed input (history ++ [⟨call, result⟩]) replies := by
  have hsame := exchanged_append_of_not hdone history
  rcases hafter with rfl | hbroken
  · exact ⟨h.front, hsame ▸ h.answered, h.unread, hsame ▸ h.sent⟩
  · have hnot : after.isBroken ≠ false := by simp [hbroken]
    exact ⟨h.front, hsame ▸ h.answered, fun hopen ↦ absurd hopen hnot,
      fun hopen ↦ absurd hopen hnot⟩

/-- A call that brings a reply attributes the next frame to it. -/
theorem IsAttributed.of_reply (h : client.IsAttributed input history replies)
    (hopen : client.isBroken = false) {reply : Frame}
    (hfirst : Frame.first? client.reader.unread = some (reply, after.reader.unread))
    (hsent : after.writer.sink.taken = client.writer.sink.taken ++ call.request.encode) :
    after.IsAttributed input (history ++ [⟨call, call.read reply⟩]) (replies ++ [reply]) := by
  obtain ⟨hvalid, hunread⟩ := Frame.eq_append_of_first? hfirst
  -- the frames of the input are known from their bytes, whatever else may come in
  have hinput : input = (replies ++ [reply]).flatMap Frame.encode ++ after.reader.unread := by
    rw [h.unread hopen, hunread, List.flatMap_append, List.flatMap_singleton, List.append_assoc]
  have hall : ∀ frame ∈ replies ++ [reply], frame.IsValid := by
    intro frame hmem
    rcases List.mem_append.1 hmem with hmem | hmem
    · exact (Frame.isCut_split input).valid frame (h.front.subset hmem)
    · rwa [List.mem_singleton.1 hmem]
  refine ⟨?_, ?_, fun _ ↦ hinput, fun _ ↦ ?_⟩
  · rw [hinput, Frame.split_flatMap_append hall]
    exact List.prefix_append _ _
  · rw [exchanged_append_read]
    exact List.rel_append h.answered (.cons rfl .nil)
  · rw [exchanged_append_read, hsent, h.sent hopen, List.flatMap_append, List.flatMap_singleton]

/-- **Each call keeps the invariant.** -/
theorem IsAttributed.step (h : client.IsAttributed input history replies)
    (hperform : call.perform horizon now client = (⟨some result, time⟩, after)) :
    ∃ replies, after.IsAttributed input (history ++ [⟨call, result⟩]) replies := by
  rcases hopen : client.isBroken with - | -
  · rcases Nat.lt_or_ge Frame.maxBody call.payload.length with hlong | hfits
    · rw [perform_of_lt hopen hlong] at hperform
      cases hperform
      exact ⟨replies, h.of_not_isExchanged rfl (.inl rfl)⟩
    · rcases perform_cases hopen hfits hperform with
        ⟨reply, rfl, -, hfirst, hsent⟩ | ⟨error, rfl, -, hbroken⟩
      · exact ⟨_, h.of_reply hopen hfirst hsent⟩
      · exact ⟨replies, h.of_not_isExchanged rfl (.inr hbroken)⟩
  · rw [perform_of_isBroken hopen] at hperform
    cases hperform
    exact ⟨replies, h.of_not_isExchanged rfl (.inl rfl)⟩

/-- **The invariant holds of every history** of a client on a new stream. -/
theorem exists_isAttributed_of_reachable (source : Source) {sink : Sink} (hfresh : sink.sent = [])
    (timeout : Time) (hreach : Reachable (ofStream source sink timeout) history client) :
    ∃ replies, client.IsAttributed source.remaining history replies := by
  induction hreach with
  | start =>
    exact ⟨[], List.nil_prefix, .nil, fun _ ↦ rfl, fun _ ↦ Sink.taken_of_sent_eq_nil hfresh⟩
  | call call _ hperform ih =>
    obtain ⟨replies, h⟩ := ih
    exact h.step hperform

/-! ### Every history -/

/-- A broken client stays as it is, whatever it is asked for. -/
theorem eq_of_reachable_of_isBroken (h : start.isBroken = true)
    (hreach : Reachable start history client) :
    client = start ∧ ∀ done ∈ history, done.result = .error .broken := by
  induction hreach with
  | start => exact ⟨rfl, nofun⟩
  | call call _ hperform ih =>
    obtain ⟨rfl, hall⟩ := ih
    rw [perform_of_isBroken h] at hperform
    cases hperform
    refine ⟨rfl, fun done hmem ↦ ?_⟩
    rcases List.mem_append.1 hmem with hmem | hmem
    · exact hall done hmem
    · rw [List.mem_singleton.1 hmem]

/-- What one more call may come to after a history. -/
structure IsOrderly (history : List Done) (client : Client) (call : Call)
    (result : Except ClientError Answer) (after : Client) : Prop where
  /-- A refused request leaves no trace. -/
  refused : ∀ size, result = .error (.frame (.tooLarge size)) → after = client
  /-- Any other failure of the exchange breaks the client. -/
  failed : ∀ error, result = .error (.frame error) → (∀ size, error ≠ .tooLarge size) →
    after.isBroken = true
  /-- After a reply of any kind the client is in order, and all that was sent are the requests of
  the exchanges that succeeded. -/
  exchanged : Done.isExchanged ⟨call, result⟩ = true → after.isBroken = false ∧
    after.writer.sink.taken =
      (exchanged (history ++ [⟨call, result⟩])).flatMap fun done ↦ done.call.request.encode
  /-- A reply is owed, so the client is never found idle. -/
  not_idle : result ≠ .error (.frame .idle)

theorem IsAttributed.isOrderly (h : client.IsAttributed input history replies)
    (hperform : call.perform horizon now client = (⟨some result, time⟩, after)) :
    IsOrderly history client call result after := by
  rcases hopen : client.isBroken with - | -
  · rcases Nat.lt_or_ge Frame.maxBody call.payload.length with hlong | hfits
    · rw [perform_of_lt hopen hlong] at hperform
      cases hperform
      refine ⟨fun _ _ ↦ rfl, fun error herror hother ↦ ?_, nofun, nofun⟩
      cases herror
      exact absurd rfl (hother _)
    · rcases perform_cases hopen hfits hperform with
        ⟨reply, rfl, hafter, hfirst, hsent⟩ | ⟨error, rfl, hbroken, hafter⟩
      · have hread : ∀ error, call.read reply ≠ .error (.frame error) := by
          intro error herror
          have hexchanged := Done.isExchanged_read call reply
          rw [herror] at hexchanged
          cases hexchanged
        exact ⟨fun _ herror ↦ absurd herror (hread _), fun _ herror _ ↦ absurd herror (hread _),
          fun _ ↦ ⟨hafter, (h.of_reply hopen hfirst hsent).sent hafter⟩, hread _⟩
      · refine ⟨fun size herror ↦ ?_, fun _ _ _ ↦ hafter, nofun, fun hidle ↦ ?_⟩
        · cases herror
          cases hbroken
        · cases hidle
          cases hbroken
  · rw [perform_of_isBroken hopen] at hperform
    cases hperform
    exact ⟨nofun, nofun, nofun, nofun⟩

/-- **A client never takes a reply for the answer to another request**, on any stream and under any
timeout. After every history the exchanges that succeeded have brought the first frames of the input
in order. A client in order has sent their requests and nothing else. One more call leaves no trace,
or breaks the client, or succeeds and keeps it in order; and a broken client stays as it is for
ever. -/
theorem attribution (source : Source) (writes : List (Scheduled Acceptance))
    (flushes shutdowns : List (Scheduled Completion)) (timeout : Time)
    (hreach : Reachable (ofStream source (Sink.ofScripts writes flushes shutdowns) timeout) history
      client) :
    List.Forall₂ (fun done reply ↦ done.result = done.call.read reply) (exchanged history)
        ((Frame.split source.remaining).1.take (exchanged history).length) ∧
      (client.isBroken = false →
        client.writer.sink.taken =
          (exchanged history).flatMap fun done ↦ done.call.request.encode) ∧
      (∀ call horizon now time result after,
        call.perform horizon now client = (⟨some result, time⟩, after) →
          IsOrderly history client call result after) ∧
      (client.isBroken = true →
        (∀ call horizon now,
          Call.perform horizon now client call = (⟨some (.error .broken), now⟩, client)) ∧
        ∀ more later, Reachable client more later →
          later = client ∧ ∀ done ∈ more, done.result = .error .broken) := by
  obtain ⟨replies, h⟩ := exists_isAttributed_of_reachable source rfl timeout hreach
  refine ⟨?_, h.sent, fun call horizon now time result after hperform ↦ h.isOrderly hperform,
    fun hbroken ↦
      ⟨perform_of_isBroken hbroken, fun more later ↦ eq_of_reachable_of_isBroken hbroken⟩⟩
  have hcount : (exchanged history).length = replies.length := h.answered.length_eq
  rw [hcount, ← List.prefix_iff_eq_take.1 h.front]
  exact h.answered

/-- One reply, and then the end of the stream. -/
theorem attribution_closed :
    let reply := Frame.ofBody (.make 0 0) [9]
    let source := Source.ofScript [⟨5, .data reply.encode⟩, ⟨6, .eof⟩]
    let history : List Done :=
      [⟨.toCode 7 [1], .ok (.coded 0 [9])⟩, ⟨.toCode 7 [2], .error (.frame .closed)⟩]
    let first := (Call.toCode 7 [1]).perform none 0 (ofStream source (.ofScripts [] [] []) 100)
    let second := (Call.toCode 7 [2]).perform none 6 first.2
    Reachable (ofStream source (.ofScripts [] [] []) 100) history second.2 ∧
      second.2.isBroken = true ∧
      List.Forall₂ (fun done reply ↦ done.result = done.call.read reply) (exchanged history)
        ((Frame.split source.remaining).1.take (exchanged history).length) := by
  intro reply source history first second
  have hfirst : first = (⟨some (.ok (.coded 0 [9])), 5⟩, first.2) := by decide +kernel
  have hsecond : second = (⟨some (.error (.frame .closed)), 6⟩, second.2) := by decide +kernel
  have hreach : Reachable (ofStream source (.ofScripts [] [] []) 100) history second.2 :=
    .call _ (.call _ .start hfirst) hsecond
  exact ⟨hreach, by decide +kernel, (attribution source [] [] [] 100 hreach).1⟩

end Client

end FramedExchange
