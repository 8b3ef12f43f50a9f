import FramedExchange.Proofs.Exchange.Agreement

/-!
# Calls up to the end of the stream

A server that has no answer for a request ends the connection, and its client comes to the end of
the stream instead of a reply. So the call that made this request fails, and it breaks the client;
the calls before it bring what they bring on any other connection, and the calls after it are
refused and send nothing. What calls bring in a row is therefore what each of them brings by itself,
up to the first that has no answer (`mapUntil`).

* `Shows.performAll_eq`: this for a client whose stream brings all the answers and ends if one is
  missing;
* `Joint.IsWhole.perform_eq`: this for a client and a server at the ends of one stream that brings
  its end as well.
-/

namespace FramedExchange

section MapUntil

variable {α β γ : Type} {stops : α → Bool} {f : α → β} {after : β} {a : α} {l : List α}

/-- Apply a function to the elements of a list until one of them has stopped it. The elements behind
that one all become the same. -/
def mapUntil (stops : α → Bool) (f : α → β) (after : β) (l : List α) : List β :=
  l.mapIdx fun i a ↦ if (l.take i).any stops then after else f a

theorem mapUntil_cons_of_not (h : stops a = false) :
    mapUntil stops f after (a :: l) = f a :: mapUntil stops f after l := by
  rw [mapUntil, List.mapIdx_cons]
  simp only [List.take_succ_cons, List.any_cons, h, Bool.false_or]
  rfl

theorem mapUntil_cons_of_stops (h : stops a = true) :
    mapUntil stops f after (a :: l) = f a :: List.replicate l.length after := by
  rw [mapUntil, List.mapIdx_cons]
  simp only [List.take_succ_cons, List.any_cons, h, Bool.true_or, if_true]
  congr 1
  refine List.ext_getElem (by simp) fun i hi hi' ↦ ?_
  rw [List.getElem_mapIdx, List.getElem_replicate]

theorem mapUntil_map (g : γ → α) (l : List γ) :
    mapUntil stops f after (l.map g) = mapUntil (stops ∘ g) (f ∘ g) after l := by
  induction l with
  | nil => rfl
  | cons c l ih =>
    rw [List.map_cons]
    rcases hstops : stops (g c) with - | -
    · have hcomp : (stops ∘ g) c = false := hstops
      rw [mapUntil_cons_of_not hstops, mapUntil_cons_of_not hcomp, ih]
      rfl
    · have hcomp : (stops ∘ g) c = true := hstops
      rw [mapUntil_cons_of_stops hstops, mapUntil_cons_of_stops hcomp, List.length_map]
      rfl

end MapUntil

/-- The bytes that are sent for a call: none if its request does not fit into a frame. -/
def Call.bytes (call : Call) : Bytes := call.request?.elim [] Frame.encode

namespace Dispatcher

/-- Whether a call sends a request for which there is no answer. -/
def leavesOpen (dispatcher : Dispatcher) (call : Call) : Bool :=
  call.request?.any fun request ↦ (dispatcher.answer? request).isNone

/-- The bytes that are sent in answer to a call: none if there is no request or no answer. -/
def answerBytes (dispatcher : Dispatcher) (call : Call) : Bytes :=
  (call.request?.bind dispatcher.answer?).elim [] Frame.encode

variable {dispatcher : Dispatcher} {calls : List (Scheduled Call)} {call : Call}

theorem leavesOpen_of_lt (hlong : Frame.maxBody < call.payload.length) :
    dispatcher.leavesOpen call = false := by
  rw [leavesOpen, Call.request?, if_pos hlong]
  rfl

theorem leavesOpen_of_le (dispatcher : Dispatcher) (hfits : call.payload.length ≤ Frame.maxBody) :
    dispatcher.leavesOpen call = (dispatcher.answer? call.request).isNone := by
  rw [leavesOpen, Call.request?, if_neg (Nat.not_lt.2 hfits)]
  rfl

/-- Calls are left open by requests without an answer. -/
theorem any_leavesOpen_iff :
    (calls.map Scheduled.event).any dispatcher.leavesOpen = true ↔
      ∃ request ∈ Call.requests calls, dispatcher.answer? request = none := by
  rw [List.any_map, List.any_eq_true]
  constructor
  · rintro ⟨item, hmem, hopen⟩
    rw [Function.comp_apply, leavesOpen, Option.any_eq_true] at hopen
    obtain ⟨request, hrequest, hnone⟩ := hopen
    exact ⟨request, List.mem_filterMap.2 ⟨item, hmem, hrequest⟩, Option.isNone_iff_eq_none.1 hnone⟩
  · rintro ⟨request, hmem, hnone⟩
    obtain ⟨item, hitem, hrequest⟩ := List.mem_filterMap.1 hmem
    refine ⟨item, hitem, ?_⟩
    rw [Function.comp_apply, leavesOpen, hrequest]
    exact Option.isNone_iff_eq_none.2 hnone

/-- What is sent in answer to calls is what is sent in answer to each of them, up to the first that
is left open. -/
theorem flatMap_answers_requests (dispatcher : Dispatcher) (calls : List (Scheduled Call)) :
    (dispatcher.answers (Call.requests calls)).flatMap Frame.encode =
      (mapUntil dispatcher.leavesOpen dispatcher.answerBytes []
        (calls.map Scheduled.event)).flatten := by
  induction calls with
  | nil => rfl
  | cons item calls ih =>
    rcases Nat.lt_or_ge Frame.maxBody item.event.payload.length with hlong | hfits
    · have hnothing : dispatcher.answerBytes item.event = [] := by
        rw [answerBytes, Call.request?, if_pos hlong]
        rfl
      rw [Call.requests_cons_of_lt hlong, List.map_cons,
        mapUntil_cons_of_not (leavesOpen_of_lt hlong), ih, List.flatten_cons, hnothing,
        List.nil_append]
    · have hopen := leavesOpen_of_le dispatcher hfits
      have hbytes : dispatcher.answerBytes item.event =
          (dispatcher.answer? item.event.request).elim [] Frame.encode := by
        rw [answerBytes, Call.request?, if_neg (Nat.not_lt.2 hfits)]
        rfl
      rw [Call.requests_cons_of_le hfits, List.map_cons]
      rcases hanswer : dispatcher.answer? item.event.request with - | answer
      · rw [hanswer] at hopen hbytes
        rw [answers_cons_of_none hanswer, mapUntil_cons_of_stops hopen, List.flatten_cons, hbytes]
        simp
      · rw [hanswer] at hopen hbytes
        rw [answers_cons_of_some hanswer, mapUntil_cons_of_not hopen, List.flatten_cons, hbytes,
          List.flatMap_cons, ih]
        rfl

end Dispatcher

namespace Client

variable {ends : Bool} {sent : Bytes} {client : Client} {call : Call}
variable {calls : List (Scheduled Call)} {dispatcher : Dispatcher}

/-- A broken client refuses every call. -/
theorem performAll_eq_of_isBroken (h : client.isBroken = true) (horizon : Option Time) (now : Time)
    (calls : List (Scheduled Call)) :
    client.performAll horizon now calls =
      (List.replicate calls.length (.error .broken), client) := by
  induction calls generalizing now with
  | nil => rfl
  | cons item calls ih =>
    rw [performAll_cons_of_eq (perform_of_isBroken h item.event horizon (max now item.due)), ih]
    rfl

/-- **At the end of its stream** a call finds no reply, and it breaks the client. -/
theorem Shows.exists_perform_eq_closed (h : client.Shows true [] sent)
    (hfits : call.payload.length ≤ Frame.maxBody) (now : Time) :
    ∃ time after, call.perform none now client = (⟨some (.error (.frame .closed)), time⟩, after) ∧
      after.isBroken = true := by
  obtain ⟨written, writer, hexchange, -, -⟩ :=
    h.exists_exchange_eq_readReply hfits call.headerCode now
  have hnone : Frame.first? client.reader.unread = none := by
    rw [h.unread]
    rfl
  obtain ⟨time, reader, hread, -, -⟩ :=
    Reader.exists_readFrame_eq_error h.source hnone written
  refine ⟨time, { client with reader, writer, isBroken := true }, ?_, rfl⟩
  rw [h.unread] at hread
  rw [Call.perform_eq, hexchange]
  simp only [readReply, hread]
  rfl

/-- **What calls bring, and what is sent for them,** on a stream that holds all the answers and that
ends behind them if one is missing. The client is broken by the call that has none. -/
theorem Shows.performAll_eq (rest : Bytes)
    (h : client.Shows ends
      ((dispatcher.answers (Call.requests calls)).flatMap Frame.encode ++ rest) sent)
    (hend : (∃ request ∈ Call.requests calls, dispatcher.answer? request = none) →
      ends = true ∧ rest = [])
    (now : Time) :
    (client.performAll none now calls).1 =
        mapUntil dispatcher.leavesOpen dispatcher.outcome (.error .broken)
          (calls.map Scheduled.event) ∧
      (client.performAll none now calls).2.isBroken =
        (calls.map Scheduled.event).any dispatcher.leavesOpen ∧
      (client.performAll none now calls).2.writer.sink.taken = sent ++
        (mapUntil dispatcher.leavesOpen Call.bytes [] (calls.map Scheduled.event)).flatten := by
  induction calls generalizing client now sent with
  | nil => exact ⟨rfl, h.inOrder, h.sent.trans (List.append_nil _).symm⟩
  | cons item calls ih =>
    rcases Nat.lt_or_ge Frame.maxBody item.event.payload.length with hlong | hfits
    · have hclosed : dispatcher.leavesOpen item.event = false := Dispatcher.leavesOpen_of_lt hlong
      have hbytes : item.event.bytes = [] := by
        rw [Call.bytes, Call.request?, if_pos hlong]
        rfl
      rw [Call.requests_cons_of_lt hlong] at h hend
      obtain ⟨hresults, hbroken, htaken⟩ := ih h hend (max now item.due)
      rw [performAll_cons_of_eq (perform_of_lt h.inOrder hlong none _), List.map_cons,
        mapUntil_cons_of_not hclosed, mapUntil_cons_of_not hclosed, List.any_cons, hclosed,
        Bool.false_or, List.flatten_cons, hbytes, List.nil_append]
      refine ⟨?_, hbroken, htaken⟩
      rw [hresults, Dispatcher.outcome, if_pos hlong]
    · rw [Call.requests_cons_of_le hfits] at h hend
      have hopen := Dispatcher.leavesOpen_of_le dispatcher hfits
      have hshort : ¬Frame.maxBody < item.event.payload.length := Nat.not_lt.2 hfits
      have hbytes : item.event.bytes = item.event.request.encode := by
        rw [Call.bytes, Call.request?, if_neg hshort]
        rfl
      rcases hanswer : dispatcher.answer? item.event.request with - | answer
      · -- nothing is left on the stream, and the call comes to its end
        obtain ⟨rfl, rfl⟩ := hend ⟨_, List.mem_cons_self, hanswer⟩
        rw [Dispatcher.answers_cons_of_none hanswer] at h
        obtain ⟨time, after, hperform, hbroken⟩ :=
          h.exists_perform_eq_closed hfits (max now item.due)
        have htaken := h.taken_perform hfits (max now item.due)
        rw [hperform] at htaken
        rw [hanswer, Option.isNone_none] at hopen
        rw [performAll_cons_of_eq hperform, performAll_eq_of_isBroken hbroken, List.map_cons,
          mapUntil_cons_of_stops hopen, mapUntil_cons_of_stops hopen, List.any_cons, hopen,
          Bool.true_or, List.flatten_cons, hbytes]
        refine ⟨?_, hbroken, ?_⟩
        · rw [Dispatcher.outcome, if_neg hshort, hanswer, List.length_map]
        · rw [htaken]
          simp
      · rw [Dispatcher.answers_cons_of_some hanswer, List.flatMap_cons, List.append_assoc] at h
        obtain ⟨time, between, hperform, hbetween⟩ := h.exists_perform_eq_read hfits
          (Frame.first?_encode_append
            (Dispatcher.isValid_of_answer? (Call.isValid_request hfits) hanswer) _)
          (max now item.due)
        have hlater (hopen : ∃ request ∈ Call.requests calls, dispatcher.answer? request = none) :
            ends = true ∧ rest = [] := by
          obtain ⟨request, hmem, hnone⟩ := hopen
          exact hend ⟨request, List.mem_cons_of_mem _ hmem, hnone⟩
        obtain ⟨hresults, hbroken, htaken⟩ := ih hbetween hlater time
        rw [hanswer, Option.isNone_some] at hopen
        rw [performAll_cons_of_eq hperform, List.map_cons, mapUntil_cons_of_not hopen,
          mapUntil_cons_of_not hopen, List.any_cons, hopen, Bool.false_or, List.flatten_cons,
          hbytes, ← List.append_assoc]
        refine ⟨?_, hbroken, htaken⟩
        rw [hresults, Dispatcher.outcome, if_neg hshort, hanswer]

end Client

namespace Joint

/-- Why the server ends the connection, if it does. -/
def closed? (joint : Joint) : Option CloseReason :=
  let (connection, server) := joint.server.openConnection joint.name joint.requests joint.serverSink
  (connection.serve none joint.accepted server).1.result?

/-- Besides what the server sends, the client receives the end of the stream, if and only if the
server ends the connection. -/
structure IsWhole (joint : Joint) : Prop extends joint.IsLossless where
  carries_end : joint.replies.IsLossless joint.closed?.isSome

variable {joint : Joint}

/-- **A request without an answer ends the connection.** -/
theorem IsLossless.closed?_eq (h : joint.IsLossless) (hserver : joint.server.Reachable)
    (hsteady : joint.server.IsSteady)
    (hnone : ∃ request ∈ Call.requests joint.calls,
      joint.server.dispatcher.answer? request = none) :
    joint.closed? = some .handlerPanic := by
  obtain ⟨ends, hsource⟩ := h.requests
  have hrequests := ((isLossless_iff h.toIsWilling hserver hsteady).1 h).1
  have hvalid : ∀ request ∈ (Call.requests joint.calls).take (joint.answers.length + 1),
      request.IsValid := by
    intro request hmem
    exact Call.isValid_of_mem_requests request (List.mem_of_mem_take hmem)
  exact Connection.result?_serve_of_unanswered hserver hsteady joint.name hsource h.serverSink
    h.serverSink_fresh hvalid hrequests (Dispatcher.exists_unanswered_take hnone) joint.accepted

/-- **What the first so many calls bring, and what is sent for them.** The client is broken after
them if and only if one of them is left open. -/
theorem IsWhole.perform_eq (h : joint.IsWhole) (hserver : joint.server.Reachable)
    (hsteady : joint.server.IsSteady) (n : ℕ) :
    (joint.perform n).1 =
        mapUntil joint.server.dispatcher.leavesOpen joint.server.dispatcher.outcome
          (.error .broken) ((joint.calls.take n).map Scheduled.event) ∧
      (joint.perform n).2.isBroken =
        ((joint.calls.take n).map Scheduled.event).any joint.server.dispatcher.leavesOpen ∧
      (joint.perform n).2.writer.sink.taken =
        (mapUntil joint.server.dispatcher.leavesOpen Call.bytes []
          ((joint.calls.take n).map Scheduled.event)).flatten := by
  have hreplies := ((isLossless_iff h.toIsWilling hserver hsteady).1 h.toIsLossless).2
  have hcalls : Call.requests joint.calls =
      Call.requests (joint.calls.take n) ++ Call.requests (joint.calls.drop n) := by
    rw [Call.requests, Call.requests, Call.requests, ← List.filterMap_append, List.take_append_drop]
  have hshows : joint.client.Shows joint.closed?.isSome joint.replies.remaining [] :=
    ⟨rfl, rfl, h.carries_end, h.clientSink, rfl, Sink.taken_of_sent_eq_nil h.clientSink_fresh⟩
  rw [hreplies, answers, hcalls] at hshows
  by_cases hnone : ∃ request ∈ Call.requests (joint.calls.take n),
      joint.server.dispatcher.answer? request = none
  · -- the calls that follow send nothing, and the stream has come to its end
    have hclosed : joint.closed? = some .handlerPanic := by
      refine h.toIsLossless.closed?_eq hserver hsteady ?_
      obtain ⟨request, hmem, hanswer⟩ := hnone
      exact ⟨request, hcalls ▸ List.mem_append_left _ hmem, hanswer⟩
    rw [Dispatcher.answers_append_of_unanswered hnone, ← List.append_nil (List.flatMap ..)]
      at hshows
    exact hshows.performAll_eq [] (fun _ ↦ ⟨by rw [hclosed]; rfl, rfl⟩) 0
  · have hall : ∀ request ∈ Call.requests (joint.calls.take n),
        (joint.server.dispatcher.answer? request).isSome := by
      intro request hmem
      exact Option.isSome_iff_ne_none.2 fun hanswer ↦ hnone ⟨request, hmem, hanswer⟩
    rw [Dispatcher.answers_append hall, List.flatMap_append] at hshows
    exact hshows.performAll_eq _ (fun hopen ↦ absurd hopen hnone) 0

end Joint

end FramedExchange
