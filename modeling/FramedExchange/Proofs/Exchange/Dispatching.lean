import FramedExchange.Proofs.Envelope.RoundTrip
import FramedExchange.Proofs.Exchange.CodeConvention

/-!
# How requests are dispatched

Which handler a request is given to depends on the registrations and on nothing else: it is the one
that was registered last for exactly the key of the request (`Registry.IsLast`). What the dispatcher
makes of a request is a law for each convention:

* `PathRegistry.Governs`: bytes that are no envelope, a path without a handler, and the answer of a
  handler are each reported in an envelope that the peer can read, however long the answer is;
* `CodeRegistry.Governs`: a code without a handler is reported by a text, and the answer of a
  handler is passed on as it is.

In both of them the code 0 of a reply means that a handler has been run and has returned.
-/

namespace FramedExchange

/-! ### Registrations -/

namespace Registry

variable {κ η : Type} {registrations : List (κ × η)} {key : κ} {handler : η}

/-- The handler of the last registration for a key. -/
def IsLast (registrations : List (κ × η)) (key : κ) (handler : η) : Prop :=
  ∃ before after, registrations = before ++ (key, handler) :: after ∧ ∀ entry ∈ after, entry.1 ≠ key

variable [BEq κ] [LawfulBEq κ]

theorem lookup_reverse_eq_some_iff :
    registrations.reverse.lookup key = some handler ↔ IsLast registrations key handler := by
  rw [List.lookup_eq_some_iff]
  constructor
  · rintro ⟨later, earlier, hsplit, hlater⟩
    refine ⟨earlier.reverse, later.reverse, ?_, fun entry hmem hkey ↦ ?_⟩
    · rw [← List.reverse_reverse registrations, hsplit, List.reverse_append, List.reverse_cons,
        List.append_assoc]
      rfl
    · have hne := hlater entry (List.mem_reverse.1 hmem)
      rw [hkey, bne_self_eq_false] at hne
      cases hne
  · rintro ⟨before, after, rfl, hafter⟩
    refine ⟨after.reverse, before.reverse, ?_, fun entry hmem ↦ ?_⟩
    · rw [List.reverse_append, List.reverse_cons, List.append_assoc]
      rfl
    · exact bne_iff_ne.2 (hafter entry (List.mem_reverse.1 hmem)).symm

theorem lookup_reverse_eq_none_iff :
    registrations.reverse.lookup key = none ↔ ∀ entry ∈ registrations, entry.1 ≠ key := by
  rw [List.lookup_eq_none_iff]
  constructor
  · intro h entry hmem hkey
    have hne := h entry (List.mem_reverse.2 hmem)
    rw [hkey, bne_self_eq_false] at hne
    cases hne
  · intro h entry hmem
    exact bne_iff_ne.2 (h entry (List.mem_reverse.1 hmem)).symm

/-- Either nothing was registered for a key, or there is a last registration for it. -/
theorem exists_isLast_of_mem (h : ∃ entry ∈ registrations, entry.1 = key) :
    ∃ handler, IsLast registrations key handler := by
  rcases hlookup : registrations.reverse.lookup key with - | handler
  · obtain ⟨entry, hmem, hkey⟩ := h
    exact absurd hkey (lookup_reverse_eq_none_iff.1 hlookup entry hmem)
  · exact ⟨handler, lookup_reverse_eq_some_iff.1 hlookup⟩

/-- The handlers that have been registered, in this order. -/
def ofRegistrations (registrations : List (κ × η)) : Registry κ η :=
  registrations.foldl (fun registry entry ↦ registry.register entry.1 entry.2) .empty

/-- **The last registration of a key counts.** -/
theorem get?_ofRegistrations (registrations : List (κ × η)) (key : κ) :
    (ofRegistrations registrations).get? key = registrations.reverse.lookup key := by
  induction registrations using List.reverseRecOn with
  | nil => rfl
  | append_singleton registrations entry ih =>
    rw [ofRegistrations, List.foldl_append]
    show (register entry.1 entry.2 (ofRegistrations registrations)).get? key = _
    rw [get?_register, ih, List.reverse_append, List.reverse_singleton, List.singleton_append,
      List.lookup_cons]
    cases key == entry.1 <;> rfl

end Registry

/-! ### The path convention -/

/-- A reply with a code that carries a response, and what the peer reads from it. -/
structure Reply.Carries (code : UInt16) (response : Response) (reply : Reply) : Prop where
  code_eq : reply.code = code
  body_eq : reply.body = response.encode
  /-- The response is read back however long it is, also where it fits into no frame. -/
  decode_body : response.payloadLength < 2 ^ 32 → Response.decode reply.body = .ok response

theorem Reply.carries_ofResponse (code : UInt16) (response : Response) :
    (ofResponse code response).Carries code response where
  code_eq := rfl
  body_eq := rfl
  decode_body := Response.decode_encode

namespace PathRegistry

/-- A handler that was registered last for the path of a request has been run for it and has
returned. -/
def Returns (registrations : List (String × PathHandler)) (request : Frame)
    (answer : Except String Bytes) : Prop :=
  ∃ envelope handler, Request.decode request.body = .ok envelope ∧
    Registry.IsLast registrations envelope.path handler ∧
    (handler envelope.body).result = .ok answer

/-- **The law of dispatching by path**, for any bytes and any header. -/
structure Governs (registrations : List (String × PathHandler)) (request : Frame)
    (run : HandlerRun Reply) : Prop where
  undecodable : ∀ error, Request.decode request.body = .error error →
    ∃ reply : Reply, run = .answer reply ∧ reply.Carries 1001 (.failure "invalid request")
  unregistered : ∀ envelope, Request.decode request.body = .ok envelope →
    (∀ entry ∈ registrations, entry.1 ≠ envelope.path) →
    ∃ reply : Reply, run = .answer reply ∧ reply.Carries 1002 (.failure "invalid path")
  /-- The handler that was registered last for the path is run, on the bytes of the envelope. -/
  handled : ∀ envelope handler, Request.decode request.body = .ok envelope →
    Registry.IsLast registrations envelope.path handler →
    run.beginsShutdown = (handler envelope.body).beginsShutdown ∧
      (∀ answer, (handler envelope.body).result = .ok answer →
        ∃ reply : Reply, run.result = .ok reply ∧ reply.Carries 0 (.ofAnswer answer)) ∧
      ∀ panic, (handler envelope.body).result = .error panic → run.result = .error panic

variable {registrations : List (String × PathHandler)} {request : Frame}

/-- **Requests are dispatched by path as the law says.** -/
theorem governs_dispatch (registrations : List (String × PathHandler)) (request : Frame) :
    Governs registrations request
      ((Dispatcher.byPath (.ofRegistrations registrations)).dispatch request) where
  undecodable error hdecode := by
    refine ⟨_, ?_, Reply.carries_ofResponse 1001 _⟩
    simp only [Dispatcher.dispatch, hdecode]
    rfl
  unregistered envelope hdecode hnever := by
    refine ⟨_, ?_, Reply.carries_ofResponse 1002 _⟩
    simp only [Dispatcher.dispatch, hdecode, Registry.get?_ofRegistrations,
      Registry.lookup_reverse_eq_none_iff.2 hnever]
    rfl
  handled envelope handler hdecode hlast := by
    have hrun : (Dispatcher.byPath (.ofRegistrations registrations)).dispatch request =
        (handler envelope.body).map fun answer ↦ .ofResponse 0 (.ofAnswer answer) := by
      simp only [Dispatcher.dispatch, hdecode, Registry.get?_ofRegistrations,
        Registry.lookup_reverse_eq_some_iff.2 hlast]
    rw [hrun]
    refine ⟨rfl, fun answer hanswer ↦ ⟨_, ?_, Reply.carries_ofResponse 0 _⟩, fun panic hpanic ↦ ?_⟩
    · rw [HandlerRun.map, hanswer]
      rfl
    · rw [HandlerRun.map, hpanic]
      rfl

example : ((Dispatcher.byPath (.ofRegistrations
    [("/a", .echo), ("/b", .fail "no"), ("/a", .reverse)])).dispatch
      (Frame.ofBody (.make 5 0) (Request.encode ⟨"/a", [1, 2]⟩))).result =
    .ok (.ofResponse 0 (.success [2, 1])) := by
  decide +kernel

/-- What the law says covers every request: only a handler that returns makes for the code 0. -/
theorem Governs.succeeds_iff {run : HandlerRun Reply} (h : Governs registrations request run) :
    (∃ reply, run.result = .ok reply ∧ reply.code = 0) ↔
      ∃ answer, Returns registrations request answer := by
  constructor
  · rintro ⟨reply, hresult, hcode⟩
    rcases hdecode : Request.decode request.body with error | envelope
    · obtain ⟨status, rfl, hstatus⟩ := h.undecodable error hdecode
      obtain rfl : status = reply := Except.ok.inj hresult
      exact absurd (hstatus.code_eq.symm.trans hcode) (by decide)
    · by_cases hmem : ∃ entry ∈ registrations, entry.1 = envelope.path
      · obtain ⟨handler, hlast⟩ := Registry.exists_isLast_of_mem hmem
        rcases hrun : (handler envelope.body).result with panic | answer
        · have hpanic := (h.handled envelope handler hdecode hlast).2.2 panic hrun
          cases hpanic.symm.trans hresult
        · exact ⟨answer, envelope, handler, hdecode, hlast, hrun⟩
      · have hnever : ∀ entry ∈ registrations, entry.1 ≠ envelope.path := fun entry hentry hkey ↦
          hmem ⟨entry, hentry, hkey⟩
        obtain ⟨status, rfl, hstatus⟩ := h.unregistered envelope hdecode hnever
        obtain rfl : status = reply := Except.ok.inj hresult
        exact absurd (hstatus.code_eq.symm.trans hcode) (by decide)
  · rintro ⟨answer, envelope, handler, hdecode, hlast, hanswer⟩
    obtain ⟨reply, hresult, hcarries⟩ := (h.handled envelope handler hdecode hlast).2.1
      answer hanswer
    exact ⟨reply, hresult, hcarries.code_eq⟩

end PathRegistry

/-! ### The code convention -/

namespace CodeRegistry

/-- A handler that was registered last for the code of a request has been run for it and has
returned. -/
def Returns (registrations : List (UInt16 × CodeHandler)) (request : Frame)
    (output : Bytes) : Prop :=
  request.header.code ≠ 0 ∧ ∃ handler, Registry.IsLast registrations request.header.code handler ∧
    (handler request.header.code request.body).result = .ok output

/-- **The law of dispatching by code**, for any header and any body. -/
structure Governs (registrations : List (UInt16 × CodeHandler)) (request : Frame)
    (run : HandlerRun Reply) : Prop where
  /-- No registration for the code 0 counts. -/
  unregistered : (request.header.code = 0 ∨ ∀ entry ∈ registrations,
      entry.1 ≠ request.header.code) →
    run = .answer ⟨1003, Bytes.ofString "invalid action"⟩
  /-- The handler that was registered last for the code is run, on the code and the body. -/
  handled : ∀ handler, request.header.code ≠ 0 →
    Registry.IsLast registrations request.header.code handler →
    run.beginsShutdown = (handler request.header.code request.body).beginsShutdown ∧
      (∀ output, (handler request.header.code request.body).result = .ok output →
        run.result = .ok ⟨0, output⟩) ∧
      ∀ panic, (handler request.header.code request.body).result = .error panic →
        run.result = .error panic

variable {registrations : List (UInt16 × CodeHandler)} {request : Frame}

/-- **Requests are dispatched by code as the law says.** -/
theorem governs_dispatch (registrations : List (UInt16 × CodeHandler)) (request : Frame) :
    Governs registrations request
      ((Dispatcher.byCode (.ofRegistrations registrations)).dispatch request) where
  unregistered hnone := by
    have hget : (ofRegistrations registrations).get? request.header.code = none := by
      rw [get?_ofRegistrations]
      split
      · rfl
      · rename_i hcode
        exact Registry.lookup_reverse_eq_none_iff.2 (hnone.resolve_left hcode)
    simp only [Dispatcher.dispatch, hget]
    rfl
  handled handler hcode hlast := by
    have hget : (ofRegistrations registrations).get? request.header.code = some handler := by
      rw [get?_ofRegistrations, if_neg hcode, Registry.lookup_reverse_eq_some_iff.2 hlast]
    have hrun : (Dispatcher.byCode (.ofRegistrations registrations)).dispatch request =
        (handler request.header.code request.body).map fun body ↦ ⟨0, body⟩ := by
      simp only [Dispatcher.dispatch, hget]
    rw [hrun]
    refine ⟨rfl, fun output houtput ↦ ?_, fun panic hpanic ↦ ?_⟩
    · rw [HandlerRun.map, houtput]
      rfl
    · rw [HandlerRun.map, hpanic]
      rfl

/-- What the law says covers every request: only a handler that returns makes for the code 0. -/
theorem Governs.succeeds_iff {run : HandlerRun Reply} (h : Governs registrations request run) :
    (∃ reply, run.result = .ok reply ∧ reply.code = 0) ↔
      ∃ output, Returns registrations request output := by
  constructor
  · rintro ⟨reply, hresult, hcode⟩
    have hanswered : ¬(request.header.code = 0 ∨
        ∀ entry ∈ registrations, entry.1 ≠ request.header.code) := by
      intro hnone
      rw [h.unregistered hnone] at hresult
      cases hresult
      cases hcode
    obtain ⟨hnonzero, hmem⟩ := not_or.1 hanswered
    obtain ⟨handler, hlast⟩ := Registry.exists_isLast_of_mem (by simpa using hmem)
    rcases hrun : (handler request.header.code request.body).result with panic | output
    · have hpanic := (h.handled handler hnonzero hlast).2.2 panic hrun
      cases hpanic.symm.trans hresult
    · exact ⟨output, hnonzero, handler, hlast, hrun⟩
  · rintro ⟨output, hnonzero, handler, hlast, houtput⟩
    exact ⟨_, (h.handled handler hnonzero hlast).2.1 output houtput, rfl⟩

end CodeRegistry

/-! ### Both -/

/-- No status has the code 0. -/
theorem Dispatcher.code_status_ne_zero (dispatcher : Dispatcher) (status : Status) :
    (dispatcher.status status).code ≠ 0 := by
  cases dispatcher <;> cases status <;> exact nofun

theorem Dispatcher.code_ne_zero_of_recover? {dispatcher : Dispatcher} {reply : Reply}
    (h : dispatcher.recover? = some reply) : reply.code ≠ 0 := by
  cases dispatcher with
  | byPath registry =>
    obtain rfl := Option.some.inj h
    exact code_status_ne_zero (.byPath registry) .internal
  | byCode registry => cases h

/-- **What becomes of a request is a law of the registrations**: of any handlers, registered in any
order and any number of times, for any bytes and any header. A reply has the code 0 exactly when a
handler has been run for the request and has returned, also among the replies that are owed after a
panic. -/
theorem Dispatcher.governs_ofRegistrations (paths : List (String × PathHandler))
    (codes : List (UInt16 × CodeHandler)) (request : Frame) :
    let byPath := Dispatcher.byPath (.ofRegistrations paths)
    let byCode := Dispatcher.byCode (.ofRegistrations codes)
    PathRegistry.Governs paths request (byPath.dispatch request) ∧
    CodeRegistry.Governs codes request (byCode.dispatch request) ∧
    ((∃ reply, (byPath.dispatch request).result = .ok reply ∧ reply.code = 0) ↔
      ∃ answer, PathRegistry.Returns paths request answer) ∧
    ((∃ reply, (byCode.dispatch request).result = .ok reply ∧ reply.code = 0) ↔
      ∃ output, CodeRegistry.Returns codes request output) ∧
    (∀ reply, byPath.recover? = some reply → reply.code ≠ 0) ∧ byCode.recover? = none := by
  intro byPath byCode
  have hpath := PathRegistry.governs_dispatch paths request
  have hcode := CodeRegistry.governs_dispatch codes request
  exact ⟨hpath, hcode, hpath.succeeds_iff, hcode.succeeds_iff,
    fun reply ↦ Dispatcher.code_ne_zero_of_recover?, rfl⟩

end FramedExchange
