import FramedExchange.Connection.CloseReason
import FramedExchange.Dispatcher
import FramedExchange.Proofs.Wire.FrameCut

/-!
# What a server owes for its requests

The meaning of serving, without streams, phases and time. For one request a server owes one frame:
the reply of its handler, or after a panic the reply that the convention has for it, with a status
in the place of a reply that does not fit into a frame (`Dispatcher.answer?`). Only the code
convention owes nothing after a panic. For the requests of a stream it owes the frames of all of
them in order, up to the first for which it owes none (`Dispatcher.answers`), and why it ends the
connection depends on that and on the bytes behind the last request (`Dispatcher.closing`).

Whatever a server owes for a valid request is a valid frame (`isValid_of_answer?`).
-/

namespace FramedExchange

/-- The frame that carries a reply to a request with a given header. -/
def Reply.frame (header : Header) (reply : Reply) : Frame :=
  Frame.ofBody (header.reply reply.code 0) reply.body

theorem Reply.isValid_frame {header : Header} (hours : header.IsOurs) {reply : Reply}
    (hfits : reply.body.length ≤ Frame.maxBody) : (reply.frame header).IsValid :=
  Frame.isValid_ofBody (hours.reply reply.code 0) hfits

/-- Why a connection ends whose stream ends with bytes that begin with no frame. -/
def CloseReason.ofRest (rest : Bytes) : CloseReason :=
  if rest = [] then .peerClosed else .read (Frame.defect rest)

namespace Dispatcher

/-! ### One request -/

/-- The reply to a request: the one of the handler, or after a panic the one that the convention
has. -/
def reply? (dispatcher : Dispatcher) (request : Frame) : Option Reply :=
  match (dispatcher.dispatch request).result with
  | .ok reply => some reply
  | .error _ => dispatcher.recover?

/-- The reply that is sent for a given one: a status in the place of what does not fit into a
frame. -/
def fitting (dispatcher : Dispatcher) (reply : Reply) : Reply :=
  if Frame.maxBody < reply.body.length then dispatcher.status .responseTooLarge else reply

/-- The frame that is owed for a request. -/
def answer? (dispatcher : Dispatcher) (request : Frame) : Option Frame :=
  (dispatcher.reply? request).map fun reply ↦ (dispatcher.fitting reply).frame request.header

variable {dispatcher : Dispatcher} {request answer : Frame}

/-- The report of a status fits into a frame. -/
theorem length_status_le (dispatcher : Dispatcher) (status : Status) :
    (dispatcher.status status).body.length ≤ Frame.maxBody := by
  have hpath : (Response.failure status.message).encode.length ≤ Frame.maxBody := by
    cases status <;> decide
  have hcode : (Bytes.ofString status.message).length ≤ Frame.maxBody := by
    cases status <;> decide
  cases dispatcher with
  | byPath registry => exact hpath
  | byCode registry => exact hcode

theorem fitting_of_le {reply : Reply} (h : reply.body.length ≤ Frame.maxBody) :
    dispatcher.fitting reply = reply :=
  if_neg (Nat.not_lt.2 h)

theorem fitting_of_lt {reply : Reply} (h : Frame.maxBody < reply.body.length) :
    dispatcher.fitting reply = dispatcher.status .responseTooLarge :=
  if_pos h

/-- What is sent for a reply fits into a frame. -/
theorem length_fitting_le (dispatcher : Dispatcher) (reply : Reply) :
    (dispatcher.fitting reply).body.length ≤ Frame.maxBody := by
  rcases Nat.lt_or_ge Frame.maxBody reply.body.length with hlong | hfits
  · rw [fitting_of_lt hlong]
    exact dispatcher.length_status_le .responseTooLarge
  · rwa [fitting_of_le hfits]

theorem answer?_eq_some {reply : Reply} (h : dispatcher.reply? request = some reply) :
    dispatcher.answer? request = some ((dispatcher.fitting reply).frame request.header) := by
  rw [answer?, h]
  rfl

/-- **What is owed for a valid request is a valid frame.** -/
theorem isValid_of_answer? (hvalid : request.IsValid)
    (h : dispatcher.answer? request = some answer) :
    answer.IsValid := by
  obtain ⟨reply, -, rfl⟩ := Option.map_eq_some_iff.1 h
  exact Reply.isValid_frame hvalid.isOurs (dispatcher.length_fitting_le reply)

/-- In the path convention every request is answered, whatever its handler does. -/
theorem isSome_answer?_byPath (registry : PathRegistry) (request : Frame) :
    ((byPath registry).answer? request).isSome := by
  rw [answer?, Option.isSome_map, reply?]
  split <;> rfl

/-! ### The requests of a stream -/

/-- The frames that are owed for requests in their order, up to the first for which none is. -/
def answers (dispatcher : Dispatcher) : List Frame → List Frame
  | [] => []
  | request :: requests =>
    match dispatcher.answer? request with
    | none => []
    | some answer => answer :: dispatcher.answers requests

/-- Why a connection ends that is given these requests, and then other bytes up to the end of its
stream. -/
def closing (dispatcher : Dispatcher) (rest : Bytes) : List Frame → CloseReason
  | [] => .ofRest rest
  | request :: requests =>
    match dispatcher.answer? request with
    | none => .handlerPanic
    | some _ => dispatcher.closing rest requests

theorem answers_cons_of_some {requests : List Frame}
    (h : dispatcher.answer? request = some answer) :
    dispatcher.answers (request :: requests) = answer :: dispatcher.answers requests := by
  rw [answers, h]

theorem answers_cons_of_none {requests : List Frame} (h : dispatcher.answer? request = none) :
    dispatcher.answers (request :: requests) = [] := by
  rw [answers, h]

theorem closing_cons_of_some {rest : Bytes} {requests : List Frame}
    (h : dispatcher.answer? request = some answer) :
    dispatcher.closing rest (request :: requests) = dispatcher.closing rest requests := by
  rw [closing, h]

theorem closing_cons_of_none {rest : Bytes} {requests : List Frame}
    (h : dispatcher.answer? request = none) :
    dispatcher.closing rest (request :: requests) = .handlerPanic := by
  rw [closing, h]

/-- What is owed for the first requests are the first of the frames that are owed for all. -/
theorem answers_take (dispatcher : Dispatcher) (n : ℕ) (requests : List Frame) :
    dispatcher.answers (requests.take n) = (dispatcher.answers requests).take n := by
  induction requests generalizing n with
  | nil => rw [List.take_nil, answers, List.take_nil]
  | cons request requests ih =>
    cases n with
    | zero => rw [List.take_zero, List.take_zero, answers]
    | succ n =>
      rw [List.take_succ_cons]
      rcases hanswer : dispatcher.answer? request with - | answer
      · rw [answers_cons_of_none hanswer, answers_cons_of_none hanswer, List.take_nil]
      · rw [answers_cons_of_some hanswer, answers_cons_of_some hanswer, List.take_succ_cons, ih]

/-- Requests that are all answered do not stand in the way of those that follow. -/
theorem answers_append {requests : List Frame}
    (h : ∀ request ∈ requests, (dispatcher.answer? request).isSome) (more : List Frame) :
    dispatcher.answers (requests ++ more) =
      dispatcher.answers requests ++ dispatcher.answers more := by
  induction requests with
  | nil => rfl
  | cons request requests ih =>
    obtain ⟨answer, hanswer⟩ := Option.isSome_iff_exists.1 (h request List.mem_cons_self)
    rw [List.cons_append, answers_cons_of_some hanswer, answers_cons_of_some hanswer,
      ih fun other hmem ↦ h other (List.mem_cons_of_mem _ hmem), List.cons_append]

/-- As much is owed as there are requests, if all of them are answered. -/
theorem length_answers {requests : List Frame}
    (h : ∀ request ∈ requests, (dispatcher.answer? request).isSome) :
    (dispatcher.answers requests).length = requests.length := by
  induction requests with
  | nil => rfl
  | cons request requests ih =>
    obtain ⟨answer, hanswer⟩ := Option.isSome_iff_exists.1 (h request List.mem_cons_self)
    rw [answers_cons_of_some hanswer, List.length_cons, List.length_cons,
      ih fun other hmem ↦ h other (List.mem_cons_of_mem _ hmem)]

theorem closing_append {requests : List Frame}
    (h : ∀ request ∈ requests, (dispatcher.answer? request).isSome) (rest : Bytes)
    (more : List Frame) :
    dispatcher.closing rest (requests ++ more) = dispatcher.closing rest more := by
  induction requests with
  | nil => rfl
  | cons request requests ih =>
    obtain ⟨answer, hanswer⟩ := Option.isSome_iff_exists.1 (h request List.mem_cons_self)
    rw [List.cons_append, closing_cons_of_some hanswer,
      ih fun other hmem ↦ h other (List.mem_cons_of_mem _ hmem)]

/-- Whatever is owed for valid requests are valid frames. -/
theorem isValid_of_mem_answers {requests : List Frame}
    (hvalid : ∀ request ∈ requests, request.IsValid) :
    ∀ answer ∈ dispatcher.answers requests, answer.IsValid := by
  induction requests with
  | nil => exact nofun
  | cons request requests ih =>
    rcases hanswer : dispatcher.answer? request with - | first
    · rw [answers_cons_of_none hanswer]
      exact nofun
    · rw [answers_cons_of_some hanswer]
      intro answer hmem
      rcases List.mem_cons.1 hmem with rfl | hmem
      · exact isValid_of_answer? (hvalid request List.mem_cons_self) hanswer
      · exact ih (fun other hother ↦ hvalid other (List.mem_cons_of_mem _ hother)) answer hmem

/-! ### A request without an answer -/

section Unanswered

variable {requests : List Frame}

/-- The first request without an answer, and those before it. -/
theorem exists_first_unanswered (h : ∃ request ∈ requests, dispatcher.answer? request = none) :
    ∃ before request after, requests = before ++ request :: after ∧
      (∀ earlier ∈ before, (dispatcher.answer? earlier).isSome) ∧
      dispatcher.answer? request = none := by
  have hfind : (requests.find? fun request ↦ (dispatcher.answer? request).isNone).isSome := by
    obtain ⟨request, hmem, hnone⟩ := h
    exact List.find?_isSome.2 ⟨request, hmem, Option.isNone_iff_eq_none.2 hnone⟩
  obtain ⟨request, hfirst⟩ := Option.isSome_iff_exists.1 hfind
  obtain ⟨hnone, before, after, hsplit, hall⟩ := List.find?_eq_some_iff_append.1 hfirst
  refine ⟨before, request, after, hsplit, fun earlier hmem ↦ ?_, Option.isNone_iff_eq_none.1 hnone⟩
  have hearlier := hall earlier hmem
  rwa [Bool.not_eq_eq_eq_not, Bool.not_true, Option.isNone_eq_false_iff] at hearlier

/-- Nothing is owed for a request without an answer, nor for those behind it. -/
theorem answers_append_cons {before after : List Frame}
    (hall : ∀ earlier ∈ before, (dispatcher.answer? earlier).isSome)
    (hnone : dispatcher.answer? request = none) :
    dispatcher.answers (before ++ request :: after) = dispatcher.answers before := by
  rw [answers_append hall, answers_cons_of_none hnone, List.append_nil]

theorem answers_append_of_unanswered
    (h : ∃ request ∈ requests, dispatcher.answer? request = none) (more : List Frame) :
    dispatcher.answers (requests ++ more) = dispatcher.answers requests := by
  obtain ⟨before, request, after, rfl, hall, hnone⟩ := exists_first_unanswered h
  rw [List.append_assoc, List.cons_append, answers_append_cons hall hnone,
    answers_append_cons hall hnone]

/-- The first request without an answer is the one behind those that are answered. -/
theorem exists_unanswered_take (h : ∃ request ∈ requests, dispatcher.answer? request = none) :
    ∃ request ∈ requests.take ((dispatcher.answers requests).length + 1),
      dispatcher.answer? request = none := by
  obtain ⟨before, request, after, rfl, hall, hnone⟩ := exists_first_unanswered h
  refine ⟨request, ?_, hnone⟩
  rw [answers_append_cons hall hnone, length_answers hall, List.take_length_add_append,
    List.take_succ_cons]
  exact List.mem_append_right _ List.mem_cons_self

/-- A request without an answer is what ends the connection. -/
theorem closing_of_unanswered (h : ∃ request ∈ requests, dispatcher.answer? request = none)
    (rest : Bytes) : dispatcher.closing rest requests = .handlerPanic := by
  obtain ⟨before, request, after, rfl, hall, hnone⟩ := exists_first_unanswered h
  rw [closing_append hall, closing_cons_of_none hnone]

end Unanswered

/-! ### Pure handlers -/

/-- No handler asks the server to shut down. -/
def IsPure : Dispatcher → Prop
  | byPath registry => ∀ entry ∈ registry.entries, ∀ body, (entry.2 body).beginsShutdown = false
  | byCode registry =>
    ∀ entry ∈ registry.entries, ∀ code body, (entry.2 code body).beginsShutdown = false

private theorem exists_mem_of_get? {κ η : Type} [BEq κ] [LawfulBEq κ] {registry : Registry κ η}
    {key : κ} {handler : η} (h : registry.get? key = some handler) :
    ∃ entry ∈ registry.entries, entry.2 = handler := by
  obtain ⟨before, after, hentries, -⟩ := List.lookup_eq_some_iff.1 h
  exact ⟨(key, handler), by simp [hentries], rfl⟩

theorem beginsShutdown_dispatch (hpure : dispatcher.IsPure) (request : Frame) :
    (dispatcher.dispatch request).beginsShutdown = false := by
  cases dispatcher with
  | byPath registry =>
    simp only [dispatch]
    split
    · rfl
    · split
      · rfl
      · rename_i handler hget
        obtain ⟨entry, hmem, rfl⟩ := exists_mem_of_get? hget
        exact hpure entry hmem _
  | byCode registry =>
    simp only [dispatch]
    split
    · rfl
    · rename_i handler hget
      obtain ⟨entry, hmem, rfl⟩ := exists_mem_of_get? hget
      exact hpure entry hmem _ _

end Dispatcher

end FramedExchange
