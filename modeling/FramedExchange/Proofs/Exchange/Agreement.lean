import FramedExchange.Proofs.Exchange.Calls
import FramedExchange.Proofs.Serving.Meaning

/-!
# A client and a server at the ends of one stream

What a client sends depends on the replies that it receives, and what a server sends on the
requests. The two are joined by a stream that loses nothing if each receives exactly what the other
sends, in pieces and at moments of any kind (`Joint.IsLossless`). Nothing is said about which of two
bytes in opposite directions comes first, so this allows for more than can happen.

Neither of the two waits for the other for ever. The client sends one request more than it receives
replies, and the server answers all that it receives up to the first that has no answer. So all that
the server would answer if it had every request of the client has been answered (`isLossless_iff`),
and every call brings what the handlers of the server say (`exists_perform_eq`).
-/

namespace FramedExchange

namespace Dispatcher

/-- If the replies are the answers to one request more than there are replies, then nothing that
would be answered is left over. -/
theorem eq_answers_of_eq_answers_take {dispatcher : Dispatcher} {requests replies : List Frame}
    (h : replies = dispatcher.answers (requests.take (replies.length + 1))) :
    replies = dispatcher.answers requests := by
  rw [answers_take] at h
  have hlength := congrArg List.length h
  rw [List.length_take] at hlength
  have hall : (dispatcher.answers requests).length ≤ replies.length + 1 := by omega
  rwa [List.take_of_length_le hall] at h

end Dispatcher

/-- A client that makes calls, and a connection that a server has accepted and serves. -/
structure Joint where
  server : Server
  /-- The name of the connection. -/
  name : String
  /-- The moment at which the serving of the connection begins. -/
  accepted : Time
  /-- What the server receives. -/
  requests : Source
  serverSink : Sink
  /-- The calls that the client makes, each after the one before. -/
  calls : List (Scheduled Call)
  /-- What the client receives. -/
  replies : Source
  clientSink : Sink

namespace Joint

/-- The client before its first call. It has no timeout. -/
def client (joint : Joint) : Client := .ofStream joint.replies joint.clientSink 0

/-- The first so many calls: what they bring, and the client after them. -/
def perform (n : ℕ) (joint : Joint) : List (Except ClientError Answer) × Client :=
  joint.client.performAll none 0 (joint.calls.take n)

/-- The bytes that the client sends. -/
def asked (joint : Joint) : Bytes :=
  (joint.perform joint.calls.length).2.writer.sink.taken

/-- The bytes that the server sends. -/
def answered (joint : Joint) : Bytes :=
  let (connection, server) := joint.server.openConnection joint.name joint.requests joint.serverSink
  (connection.serve none joint.accepted server).2.1.link.writer.sink.taken

/-- Both directions of the stream are new, and neither of them fails or stalls. -/
structure IsWilling (joint : Joint) : Prop where
  requests : ∃ ends, joint.requests.IsLossless ends
  serverSink : joint.serverSink.IsWilling
  serverSink_fresh : joint.serverSink.sent = []
  replies : ∃ ends, joint.replies.IsLossless ends
  clientSink : joint.clientSink.IsWilling
  clientSink_fresh : joint.clientSink.sent = []

/-- Each end receives what the other one sends. -/
structure IsLossless (joint : Joint) : Prop extends joint.IsWilling where
  carries_asked : joint.requests.remaining = joint.asked
  carries_answered : joint.replies.remaining = joint.answered

/-- The answers that the server would give to all requests of the client. -/
def answers (joint : Joint) : List Frame :=
  joint.server.dispatcher.answers (Call.requests joint.calls)

variable {joint : Joint}

theorem isValid_of_mem_answers : ∀ answer ∈ joint.answers, answer.IsValid :=
  Dispatcher.isValid_of_mem_answers Call.isValid_of_mem_requests

/-- Before its first call the client has everything unread and nothing sent. -/
theorem IsWilling.exists_shows_client (h : joint.IsWilling) :
    ∃ ends, joint.client.Shows ends joint.replies.remaining [] := by
  obtain ⟨ends, hreplies⟩ := h.replies
  exact ⟨ends, rfl, rfl, hreplies, h.clientSink, rfl, Sink.taken_of_sent_eq_nil h.clientSink_fresh⟩

/-- The client asks one request more than it receives replies. -/
theorem IsWilling.asked_eq (h : joint.IsWilling) {replies : List Frame} {rest : Bytes}
    (hcut : Frame.IsCut joint.replies.remaining replies rest) :
    joint.asked = ((Call.requests joint.calls).take (replies.length + 1)).flatMap Frame.encode := by
  obtain ⟨ends, hshows⟩ := h.exists_shows_client
  rw [asked, perform, List.take_length, hshows.taken_performAll hcut, List.nil_append]

/-- The server answers what it receives. -/
theorem IsWilling.answered_eq (h : joint.IsWilling) (hserver : joint.server.Reachable)
    (hsteady : joint.server.IsSteady) {requests : List Frame}
    (hvalid : ∀ request ∈ requests, request.IsValid)
    (hrequests : joint.requests.remaining = requests.flatMap Frame.encode) :
    joint.answered = (joint.server.dispatcher.answers requests).flatMap Frame.encode := by
  obtain ⟨ends, hsource⟩ := h.requests
  exact Connection.taken_serve_of_requests hserver hsteady joint.name hsource h.serverSink
    h.serverSink_fresh hvalid hrequests joint.accepted

/-- **The stream is lossless exactly if everything that can be answered has been.** So it may carry
the requests and the answers in any pieces. -/
theorem isLossless_iff (h : joint.IsWilling) (hserver : joint.server.Reachable)
    (hsteady : joint.server.IsSteady) :
    joint.IsLossless ↔
      joint.requests.remaining =
          ((Call.requests joint.calls).take (joint.answers.length + 1)).flatMap Frame.encode ∧
        joint.replies.remaining = joint.answers.flatMap Frame.encode := by
  have hvalid : ∀ n, ∀ request ∈ (Call.requests joint.calls).take n, request.IsValid :=
    fun n request hmem ↦ Call.isValid_of_mem_requests request (List.mem_of_mem_take hmem)
  constructor
  · intro hlossless
    -- the number of replies with which the client's bytes begin determines what it asks
    obtain ⟨replies, hreplies⟩ : ∃ replies, replies = (Frame.split joint.replies.remaining).1 :=
      ⟨_, rfl⟩
    have hrequests := hlossless.carries_asked
    rw [h.asked_eq (Frame.isCut_split _), ← hreplies] at hrequests
    have hanswered := hlossless.carries_answered
    rw [h.answered_eq hserver hsteady (hvalid _) hrequests] at hanswered
    have hcut : Frame.IsCut joint.replies.remaining (joint.server.dispatcher.answers
        ((Call.requests joint.calls).take (replies.length + 1))) [] :=
      hanswered ▸ Frame.isCut_flatMap (Dispatcher.isValid_of_mem_answers (hvalid _))
    have hfixed : replies = joint.server.dispatcher.answers
        ((Call.requests joint.calls).take (replies.length + 1)) :=
      hreplies.trans (congrArg Prod.fst hcut.split_eq)
    rw [← hfixed] at hanswered
    rw [show joint.answers = replies from (Dispatcher.eq_answers_of_eq_answers_take hfixed).symm]
    exact ⟨hrequests, hanswered⟩
  · rintro ⟨hrequests, hreplies⟩
    have hcut : Frame.IsCut joint.replies.remaining joint.answers [] :=
      hreplies ▸ Frame.isCut_flatMap isValid_of_mem_answers
    refine ⟨h, hrequests.trans (h.asked_eq hcut).symm, ?_⟩
    rw [h.answered_eq hserver hsteady (hvalid _) hrequests, Dispatcher.answers_take, hreplies,
      ← answers, List.take_of_length_le (Nat.le_succ _)]

/-- **Every call brings what the handlers of the server say**, up to the first call that has no
answer. After each of them the client is in order. -/
theorem IsLossless.exists_perform_eq (h : joint.IsLossless) (hserver : joint.server.Reachable)
    (hsteady : joint.server.IsSteady) (n : ℕ)
    (hanswered : ∀ request ∈ Call.requests (joint.calls.take n),
      (joint.server.dispatcher.answer? request).isSome) :
    ∃ ends rest client, joint.perform n =
        ((joint.calls.take n).map fun item ↦ joint.server.dispatcher.outcome item.event, client) ∧
      client.Shows ends rest ((Call.requests (joint.calls.take n)).flatMap Frame.encode) := by
  obtain ⟨ends, hshows⟩ := h.exists_shows_client
  have hsplit : joint.answers =
      joint.server.dispatcher.answers (Call.requests (joint.calls.take n)) ++
        joint.server.dispatcher.answers (Call.requests (joint.calls.drop n)) := by
    rw [answers, ← Dispatcher.answers_append hanswered, Call.requests, Call.requests, Call.requests,
      ← List.filterMap_append, List.take_append_drop]
  rw [((isLossless_iff h.toIsWilling hserver hsteady).1 h).2, hsplit, List.flatMap_append] at hshows
  obtain ⟨client, hperform, hclient⟩ := hshows.exists_performAll_eq _ hanswered 0
  exact ⟨ends, _, client, hperform, hclient⟩

end Joint

end FramedExchange
