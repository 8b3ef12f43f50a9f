import FramedExchange.Proofs.Exchange.Attribution
import FramedExchange.Proofs.Stream.ReadingTime
import FramedExchange.Proofs.Stream.WriteOutcome

/-!
# One deadline bounds a whole call

A call writes a request and reads a reply, and one deadline covers both. What the time is spent on
does not matter: by each moment it shows what has become of the request and what has been received,
and so what has become of the call (`Call.Shows`). The call comes out with what shows first, or at
the deadline if nothing has shown by then (`Call.IsTimed`), however slowly the request is taken and
in whatever pieces the reply comes in.

The reading of a frame tells a deadline that passes before the first byte from one that passes
later. A call does not, because a reply is owed (`Client.exists_follows_readReply`).
-/

namespace FramedExchange

/-- What counts as a result when the deadline passes may be changed with the others. -/
theorem Timed.map_settle {α β : Type} (f : α → β) (late : α) (t : Timed α) :
    (t.settle late).map f = (t.map f).settle (f late) := by
  obtain ⟨result | - | -, time⟩ := t <;> rfl

/-- The deadline of something that begins now is not in the past. -/
theorem deadlineFrom_deadlineAfter (now timeout : Time) :
    deadlineFrom now (deadlineAfter now timeout) = deadlineAfter now timeout := by
  rw [deadlineAfter]
  split
  · rfl
  · exact congrArg some (Nat.max_eq_right (Nat.le_add_right ..))

namespace Reader

/-! ### How much one read may bring never changes -/

theorem burst_fetch (limits : Limits) (n : ℕ) (now : Time) (r : Reader) :
    (r.fetch limits n now).2.source.burst = r.source.burst := by
  fun_induction Reader.fetch limits n now r with
  | case1 => rfl
  | case2 now r _ _ _ _ _ _ hread ih => exact ih.trans (congrArg (·.2.burst) hread).symm
  | case3 | case4 | case5 | case6 =>
    rename_i hread
    exact (congrArg (·.2.burst) hread).symm

theorem burst_take (limits : Limits) (n : ℕ) (now : Time) (r : Reader) :
    (r.take limits n now).2.source.burst = r.source.burst := by
  have hburst := r.burst_fetch limits n now
  rw [take]
  rcases hfetch : r.fetch limits n now with ⟨⟨(error | done) | - | -, time⟩, after⟩
  all_goals
    rw [hfetch] at hburst
    exact hburst

theorem burst_readFrame (limits : Limits) (now : Time) (r : Reader) :
    (r.readFrame limits now).2.source.burst = r.source.burst := by
  have hburst := r.burst_take limits Header.size now
  rw [readFrame]
  rcases htake : r.take limits Header.size now with ⟨⟨(error | raw) | - | -, time⟩, after⟩
  all_goals rw [htake] at hburst
  case done.ok =>
    rcases hdecode : Header.decode raw with error | header
    all_goals simp only [hdecode]
    · exact hburst
    · exact (after.burst_take limits header.length.toNat time).trans hburst
  all_goals exact hburst

end Reader

namespace Client

variable {client : Client} {deadline : Option Time} {now : Time}

/-- **The reading of a reply ends as soon as it is decided about the reply**, or with a timeout
exactly at the deadline, whether a byte of the reply has come in or not. -/
theorem exists_follows_readReply (hburst : 0 < client.reader.source.burst)
    (hnow : Limits.allows deadline now) :
    ∃ t, Timed.Follows deadline now
        (fun moment ↦ (client.reader.frameBy? moment).map fun result ↦ result.mapError .frame) t ∧
      (client.readReply ⟨deadline, none⟩ now).1 = t.settle (.error (.frame .timeout)) := by
  obtain ⟨t, hfollows, hread⟩ := Reader.exists_follows_readFrame hburst hnow
  refine ⟨_, hfollows.map fun result ↦ result.mapError ClientError.frame, ?_⟩
  rw [readReply]
  rcases hframe : client.reader.readFrame ⟨deadline, none⟩ now with ⟨settled, reader⟩
  rw [hframe] at hread
  obtain rfl : settled = _ := hread
  cases hfollows with
  | done hle htime hdecided hbefore =>
    rename_i time result
    rcases result with error | reply
    · have hidle : error ≠ .idle := by
        rintro rfl
        cases Received.frame?_eq_some_iff.1 hdecided
      simp only [Timed.settle, Timed.map, if_neg hidle]
      rfl
    · rfl
  | elapsed hle hdeadline hundecided =>
    simp only [Timed.settle, Timed.map, Reader.lateness]
    split <;> rfl
  | hanging => rfl

/-- What is decided by a moment about an exchange. -/
def exchangeBy? (client : Client) (request : Frame) (moment : Time) :
    Option (Except ClientError Frame) :=
  match client.writer.frameBy? request moment with
  | none => none
  | some (.error error) => some (.error (.frame error))
  | some (.ok ()) => (client.reader.frameBy? moment).map fun result ↦ result.mapError .frame

theorem isLasting_exchangeBy? (client : Client) (request : Frame) :
    IsLasting (client.exchangeBy? request) := by
  intro moment later hle result hresult
  rw [exchangeBy?] at hresult ⊢
  rcases hwritten : client.writer.frameBy? request moment with - | error | done
  · rw [hwritten] at hresult
    cases hresult
  · rw [hwritten] at hresult
    rw [client.writer.isLasting_frameBy? request hle hwritten]
    exact hresult
  · rw [hwritten] at hresult
    rw [client.writer.isLasting_frameBy? request hle hwritten]
    obtain ⟨reply, hreply, rfl⟩ := Option.map_eq_some_iff.1 hresult
    exact congrArg (Option.map _) (client.reader.isLasting_frameBy? hle hreply)

/-- **An exchange ends as soon as it is decided**, or with a timeout exactly at the deadline: the
time that is spent on the request is taken from the reply. -/
theorem exists_follows_exchange (hopen : client.isBroken = false) {body : Bytes}
    (hfits : body.length ≤ Frame.maxBody) (hburst : 0 < client.reader.source.burst) (code : UInt16)
    (now : Time) :
    ∃ t, Timed.Follows (deadlineAfter now client.timeout) now
        (client.exchangeBy? (Frame.ofBody (Header.make code 0) body)) t ∧
      (client.exchange none code body now).1 = t.settle (.error (.frame .timeout)) := by
  have hnow : Limits.allows (deadlineAfter now client.timeout) now :=
    allows_deadlineAfter_iff.2 (.inr (Nat.le_add_right ..))
  have hundecided {moment : Time}
      (h : client.writer.frameBy? (Frame.ofBody (Header.make code 0) body) moment = none) :
      client.exchangeBy? (Frame.ofBody (Header.make code 0) body) moment = none := by
    rw [exchangeBy?, h]
  obtain ⟨t, hfollows, hwritten⟩ :=
    Writer.exists_follows_writeFrame hnow (Header.make code 0) hfits client.writer
  simp only [exchange, hopen, Bool.false_eq_true, if_false]
  rcases hwrite : client.writer.writeFrame ⟨deadlineAfter now client.timeout, none⟩
      (Header.make code 0) body now with ⟨settled, writer⟩
  rw [hwrite] at hwritten
  obtain rfl : settled = _ := hwritten
  cases hfollows with
  | done hle htime hdecided hbefore =>
    rename_i time result
    rcases result with error | done
    · refine ⟨⟨.done (.error (.frame error)), time⟩, .done hle htime ?_ fun moment hge hlt ↦
        hundecided (hbefore moment hge hlt), rfl⟩
      rw [exchangeBy?, hdecided]
    · -- from now on the request is written, and what is received decides
      let after : Client := { client with writer, isBroken := false }
      have hkept : 0 < after.reader.source.burst := hburst
      obtain ⟨t, hreply, hread⟩ := exists_follows_readReply hkept htime
      refine ⟨t, (hreply.congr fun moment hge ↦ ?_).goOn hle fun moment hge hlt ↦
        hundecided (hbefore moment hge hlt), hread⟩
      rw [exchangeBy?, client.writer.isLasting_frameBy? _ hge hdecided]
  | elapsed hle hdeadline hsilent =>
    exact ⟨_, .elapsed hle hdeadline fun moment hge hlast ↦
      hundecided (hsilent moment hge hlast), rfl⟩
  | hanging time hdeadline hsilent =>
    exact ⟨_, .hanging time hdeadline fun moment hge ↦ hundecided (hsilent moment hge), rfl⟩

end Client

/-! ### Calls -/

namespace Call

variable {client : Client} {call : Call} {moment : Time}

/-- What has become of a call by a moment. -/
inductive Shows (client : Client) (call : Call) (moment : Time) : Except ClientError Answer → Prop
  /-- The request could not be written. -/
  | notWritten {error : FrameError}
      (hwritten : client.writer.sink.Shows call.request.encode moment (.error error)) :
      Shows client call moment (.error (.frame error))
  /-- The request has been written, and the reply could not be read. -/
  | notRead {error : FrameError}
      (hwritten : client.writer.sink.Shows call.request.encode moment (.ok ()))
      (hread : (client.reader.receivedBy moment).Shows (.error error)) :
      Shows client call moment (.error (.frame error))
  /-- The request has been written, and the reply is there. -/
  | replied {reply : Frame}
      (hwritten : client.writer.sink.Shows call.request.encode moment (.ok ()))
      (hread : (client.reader.receivedBy moment).Shows (.ok reply)) :
      Shows client call moment (call.read reply)

/-- What is decided by a moment about a call. -/
def callBy? (client : Client) (call : Call) (moment : Time) : Option (Except ClientError Answer) :=
  (client.exchangeBy? call.request moment).map fun outcome ↦
    outcome.bind fun reply ↦ call.read reply

/-- **What shows is what is decided about the call.** -/
theorem callBy?_eq_some_iff {result : Except ClientError Answer} :
    call.callBy? client moment = some result ↔ call.Shows client moment result := by
  constructor
  · intro h
    obtain ⟨outcome, houtcome, rfl⟩ := Option.map_eq_some_iff.1 h
    rw [Client.exchangeBy?] at houtcome
    rcases hwritten : client.writer.frameBy? call.request moment with - | error | done
    all_goals rw [hwritten] at houtcome
    · cases houtcome
    · cases houtcome
      exact .notWritten (Writer.frameBy?_eq_some_iff.1 hwritten)
    · obtain ⟨error | reply, hread, rfl⟩ := Option.map_eq_some_iff.1 houtcome
      · exact .notRead (Writer.frameBy?_eq_some_iff.1 hwritten)
          (Received.frame?_eq_some_iff.1 hread)
      · exact .replied (Writer.frameBy?_eq_some_iff.1 hwritten)
          (Received.frame?_eq_some_iff.1 hread)
  · intro h
    cases h with
    | notWritten hwritten =>
      rw [callBy?, Client.exchangeBy?, Writer.frameBy?_eq_some_iff.2 hwritten]
      rfl
    | notRead hwritten hread | replied hwritten hread =>
      rw [callBy?, Client.exchangeBy?, Writer.frameBy?_eq_some_iff.2 hwritten, Reader.frameBy?,
        Received.frame?_eq_some_iff.2 hread]
      rfl

theorem isLasting_callBy? (client : Client) (call : Call) : IsLasting (call.callBy? client) := by
  intro moment later hle result hresult
  obtain ⟨outcome, houtcome, rfl⟩ := Option.map_eq_some_iff.1 hresult
  exact congrArg (Option.map _) (client.isLasting_exchangeBy? call.request hle houtcome)

/-- What is read from a reply is no failure of the exchange. -/
theorem read_ne_frame (call : Call) (reply : Frame) (error : FrameError) :
    call.read reply ≠ .error (.frame error) := by
  intro herror
  have hexchanged := Done.isExchanged_read call reply
  rw [herror] at hexchanged
  cases hexchanged

/-- What shows is never a timeout. -/
theorem Shows.ne_timeout {result : Except ClientError Answer}
    (h : call.Shows client moment result) :
    result ≠ .error (.frame .timeout) := by
  cases h with
  | notWritten hwritten =>
    rintro ⟨⟩
    cases hwritten
  | notRead hwritten hread =>
    rintro ⟨⟩
    cases hread
  | replied hwritten hread => exact call.read_ne_frame _ _

/-- **A call ends as soon as it is decided**, or with a timeout exactly at the deadline, on a client
in order and if the request fits. -/
theorem exists_follows_perform (hopen : client.isBroken = false)
    (hfits : call.payload.length ≤ Frame.maxBody) (hburst : 0 < client.reader.source.burst)
    (now : Time) :
    ∃ t, Timed.Follows (deadlineAfter now client.timeout) now (call.callBy? client) t ∧
      (call.perform none now client).1 = t.settle (.error (.frame .timeout)) := by
  obtain ⟨t, hfollows, hexchange⟩ :=
    client.exists_follows_exchange hopen hfits hburst call.headerCode now
  have hcall := hfollows.map fun outcome ↦ outcome.bind fun reply ↦ call.read reply
  refine ⟨_, hcall, ?_⟩
  rw [perform_eq, hexchange, Timed.map_settle]
  rfl

/-! ### What comes of a call in time -/

/-- What it means for a call that one deadline bounds it. -/
structure IsTimed (timeout now : Time) (client : Client) (call : Call)
    (performed : Settled (Except ClientError Answer) × Client) : Prop where
  /-- The result is what shows first of the request and the reply, or else the deadline that
  passes. -/
  comesOut : performed.1.ComesOut (deadlineAfter now timeout) now (call.Shows client) fun _ ↦
    .error (.frame .timeout)
  /-- Whatever comes of it, it does so in its window. -/
  inWindow : 0 < timeout → performed.1.result?.isSome ∧ performed.1.time ≤ now + timeout
  /-- If by the end of the window neither a failure of the writing shows nor anything of a reply,
  the call fails with a timeout exactly then. -/
  late : 0 < timeout →
    (∀ error, ¬client.writer.sink.Shows call.request.encode (now + timeout) (.error error)) →
    (∀ result, ¬(client.reader.receivedBy (now + timeout)).Shows result) →
    performed.1 = ⟨some (.error (.frame .timeout)), now + timeout⟩ ∧ performed.2.isBroken = true
  /-- So it does if the request has not been written by then, whatever has been received. -/
  unwritten : 0 < timeout →
    (∀ result, ¬client.writer.sink.Shows call.request.encode (now + timeout) result) →
    performed.1 = ⟨some (.error (.frame .timeout)), now + timeout⟩ ∧ performed.2.isBroken = true
  /-- If the request is written and the reply comes in, both in the window, the call succeeds when
  the later of the two is done. -/
  answered : ∀ written received reply,
    FirstShows (client.writer.sink.Shows call.request.encode) written (.ok ()) →
    FirstShows (fun moment ↦ (client.reader.receivedBy moment).Shows) received (.ok reply) →
    (timeout = 0 ∨ max written received ≤ now + timeout) →
    performed.1 = ⟨some (call.read reply), max now (max written received)⟩ ∧
      performed.2.isBroken = false
  /-- A failure of the exchange breaks the client. -/
  broken : ∀ error, performed.1.result? = some (.error (.frame error)) → performed.2.isBroken = true

/-- What has become of a request stays so. -/
theorem shows_written_mono {later : Time} (hle : moment ≤ later) {result : Except FrameError Unit}
    (h : client.writer.sink.Shows call.request.encode moment result) :
    client.writer.sink.Shows call.request.encode later result :=
  Writer.frameBy?_eq_some_iff.1
    (client.writer.isLasting_frameBy? call.request hle (Writer.frameBy?_eq_some_iff.2 h))

/-- So does what has become of a reply. -/
theorem shows_received_mono {later : Time} (hle : moment ≤ later) {result : Except FrameError Frame}
    (h : (client.reader.receivedBy moment).Shows result) :
    (client.reader.receivedBy later).Shows result :=
  Received.frame?_eq_some_iff.1
    (client.reader.isLasting_frameBy? hle (Received.frame?_eq_some_iff.2 h))

/-- **The reply to a call shows when the request is written and the reply is there**, whichever
is the later. -/
theorem firstShows_replied {written received : Time} {reply : Frame}
    (hwritten : FirstShows (client.writer.sink.Shows call.request.encode) written (.ok ()))
    (hreceived : FirstShows (fun moment ↦ (client.reader.receivedBy moment).Shows) received
      (.ok reply)) :
    FirstShows (call.Shows client) (max written received) (call.read reply) := by
  refine ⟨.replied (shows_written_mono (Nat.le_max_left ..) hwritten.shows)
    (shows_received_mono (Nat.le_max_right ..) hreceived.shows),
    fun moment hearly other hother ↦ ?_⟩
  -- one of the two has not shown by then
  rcases lt_max_iff.1 hearly with hlt | hlt
  · cases hother with
    | notWritten hshows | notRead hshows | replied hshows =>
      exact hwritten.first moment hlt _ hshows
  · cases hother with
    | notRead _ hshows | replied _ hshows => exact hreceived.first moment hlt _ hshows
    | notWritten hshows =>
      rcases Nat.lt_or_ge moment written with hlt | hge
      · exact hwritten.first moment hlt _ hshows
      · have hok := Writer.frameBy?_eq_some_iff.2 (shows_written_mono hge hwritten.shows)
        cases hok.symm.trans (Writer.frameBy?_eq_some_iff.2 hshows)

/-- **One deadline bounds a call** on a client in order, if the request fits. -/
theorem isTimed_of_isBroken_eq_false (hopen : client.isBroken = false)
    (hfits : call.payload.length ≤ Frame.maxBody) (hburst : 0 < client.reader.source.burst)
    (now : Time) : call.IsTimed client.timeout now client (call.perform none now client) := by
  obtain ⟨t, hfollows, hsettled⟩ := exists_follows_perform hopen hfits hburst now
  have hinTime := hfollows.isInTime (isLasting_callBy? client call) (.error (.frame .timeout))
  have hout := (deadlineFrom_deadlineAfter now client.timeout ▸ hfollows).comesOut
    (isLasting_callBy? client call) (fun _ _ ↦ callBy?_eq_some_iff) fun _ ↦ .error (.frame .timeout)
  -- both say what they say of the call as it was performed
  rw [← hsettled] at hinTime hout
  rcases hperform : call.perform none now client with ⟨⟨result?, time⟩, after⟩
  rw [hperform] at hinTime hout
  have hnone {moment : Time} (hnothing : ∀ result, ¬call.Shows client moment result) :
      call.callBy? client moment = none :=
    Option.eq_none_iff_forall_ne_some.2 fun result hresult ↦
      hnothing result (callBy?_eq_some_iff.1 hresult)
  have hbroken (error : FrameError) (herror : result? = some (.error (.frame error))) :
      after.isBroken = true := by
    subst herror
    rcases Client.perform_cases hopen hfits hperform with ⟨reply, hread, -⟩ | ⟨-, -, -, hafter⟩
    · exact absurd hread.symm (call.read_ne_frame reply error)
    · exact hafter
  have hlate (hpos : 0 < client.timeout)
      (hnothing : ∀ result, ¬call.Shows client (now + client.timeout) result) :
      (⟨result?, time⟩ : Settled (Except ClientError Answer)) =
          ⟨some (.error (.frame .timeout)), now + client.timeout⟩ ∧ after.isBroken = true := by
    have hresult := hinTime.undecided hpos (hnone hnothing)
    exact ⟨hresult, hbroken _ (congrArg Settled.result? hresult)⟩
  refine ⟨hout, hinTime.inWindow, fun hpos hwriting hreading ↦ hlate hpos ?_,
    fun hpos hwriting ↦ hlate hpos ?_, fun written received reply hwritten hreceived hwithin ↦ ?_,
    hbroken⟩
  · rintro _ (hfailed | ⟨-, hread⟩ | ⟨-, hread⟩)
    · exact hwriting _ hfailed
    · exact hreading _ hread
    · exact hreading _ hread
  · rintro _ (hshows | ⟨hshows, -⟩ | ⟨hshows, -⟩) <;> exact hwriting _ hshows
  · -- the reply is in time, so it is what the call returns, and the client stays in order
    have hfirst := firstShows_replied hwritten hreceived
    have hresult := hinTime.decided _ _ (callBy?_eq_some_iff.2 hfirst.shows)
      (fun moment hearly ↦ hnone (hfirst.first moment hearly)) hwithin
    refine ⟨hresult, ?_⟩
    cases hresult
    rcases Client.perform_cases hopen hfits hperform with ⟨-, -, hafter, -⟩ | ⟨error, hread, -, -⟩
    · exact hafter
    · exact absurd hread (call.read_ne_frame reply error)

end Call

/-! ### Every client -/

namespace Client

variable {client : Client}

theorem readReply_keeps (limits : Limits) (now : Time) (client : Client) :
    (client.readReply limits now).2.timeout = client.timeout ∧
      (client.readReply limits now).2.reader.source.burst = client.reader.source.burst := by
  have hburst := client.reader.burst_readFrame limits now
  rw [readReply]
  rcases hread : client.reader.readFrame limits now with ⟨⟨- | error | reply, time⟩, reader⟩
  all_goals
    rw [hread] at hburst
    exact ⟨rfl, hburst⟩

theorem exchange_keeps (horizon : Option Time) (code : UInt16) (body : Bytes) (now : Time)
    (client : Client) :
    (client.exchange horizon code body now).2.timeout = client.timeout ∧
      (client.exchange horizon code body now).2.reader.source.burst =
        client.reader.source.burst := by
  rw [exchange]
  split
  · exact ⟨rfl, rfl⟩
  · dsimp only
    rcases client.writer.writeFrame ⟨deadlineAfter now client.timeout, horizon⟩
      (Header.make code 0) body now with ⟨⟨- | error | ⟨⟩, time⟩, writer⟩
    · exact ⟨rfl, rfl⟩
    · exact ⟨rfl, rfl⟩
    · exact readReply_keeps _ time { client with writer }

/-- A call changes neither the timeout of a client nor how much one of its reads may bring. -/
theorem perform_keeps (call : Call) (horizon : Option Time) (now : Time) (client : Client) :
    (call.perform horizon now client).2.timeout = client.timeout ∧
      (call.perform horizon now client).2.reader.source.burst = client.reader.source.burst := by
  rw [Call.perform_eq]
  exact exchange_keeps horizon call.headerCode call.payload now client

/-- So no history does. -/
theorem Reachable.keeps {start : Client} {history : List Done}
    (h : Reachable start history client) :
    client.timeout = start.timeout ∧ client.reader.source.burst = start.reader.source.burst := by
  induction h with
  | start => exact ⟨rfl, rfl⟩
  | @call _ client _ call horizon now _ _ _ hperform ih =>
    have hkeeps := perform_keeps call horizon now client
    rw [hperform] at hkeeps
    exact ⟨hkeeps.1.trans ih.1, hkeeps.2.trans ih.2⟩

/-- Without a timeout no call is late. -/
theorem perform_ne_timeout (hburst : 0 < client.reader.source.burst) (hzero : client.timeout = 0)
    (call : Call) (now : Time) :
    (call.perform none now client).1.result? ≠ some (.error (.frame .timeout)) := by
  rcases hopen : client.isBroken with - | -
  · rcases Nat.lt_or_ge Frame.maxBody call.payload.length with hlong | hfits
    · rw [perform_of_lt hopen hlong]
      exact nofun
    · have hout := (Call.isTimed_of_isBroken_eq_false hopen hfits hburst now).comesOut
      rcases hout.cases with ⟨due, result, hshows, -, hresult⟩ | ⟨last, hlast, -⟩ | ⟨-, -, hnone⟩
      · rw [hresult]
        exact fun heq ↦ hshows.shows.ne_timeout (Option.some.inj heq)
      · rw [deadlineAfter_eq_none_iff.2 hzero] at hlast
        cases hlast
      · rw [hnone]
        exact nofun
  · rw [perform_of_isBroken hopen]
    exact nofun

/-- **One deadline bounds every call**, whatever the peer sends and when, and however the request is
taken. After every history a call on a client that is in order returns in its window, if the request
fits: with the answer as soon as the request is written and the reply is there, and otherwise with a
timeout at the end of the window, and then the client is broken. Without a window no call is ever
late. -/
theorem isTimed_perform {source : Source} (hburst : 0 < source.burst) (sink : Sink) (timeout : Time)
    {history : List Done} (hreach : Reachable (ofStream source sink timeout) history client)
    (call : Call) (now : Time) :
    (client.isBroken = false → call.payload.length ≤ Frame.maxBody →
      call.IsTimed timeout now client (call.perform none now client)) ∧
    (timeout = 0 →
      (call.perform none now client).1.result? ≠ some (.error (.frame .timeout))) := by
  obtain ⟨htimeout, hkept⟩ := hreach.keeps
  have hpos : 0 < client.reader.source.burst := hkept.symm ▸ hburst
  obtain rfl : client.timeout = timeout := htimeout
  exact ⟨fun hopen hfits ↦ Call.isTimed_of_isBroken_eq_false hopen hfits hpos now,
    fun hzero ↦ perform_ne_timeout hpos hzero call now⟩

/-- A peer that takes the request in two pieces and answers a first call in time. To a second one it
sends the header of a reply and falls silent. -/
theorem isTimed_perform_silent :
    let reply := Frame.ofBody (.make 0 0) [5]
    let source := Source.ofScript [⟨2, .data (reply.encode.take 4)⟩,
      ⟨9, .data (reply.encode.drop 4)⟩, ⟨15, .data (reply.encode.take 10)⟩, ⟨16, .stall⟩]
    let sink := Sink.ofScripts [⟨3, .take 4⟩, ⟨6, .take 100⟩] [⟨7, .success⟩] []
    let start := ofStream source sink 10
    let call := Call.toCode 7 [1]
    let first := call.perform none 0 start
    let second := call.perform none 12 first.2
    0 < source.burst ∧ first.1 = ⟨some (.ok (.coded 0 [5])), 9⟩ ∧ first.2.isBroken = false ∧
      second.1 = ⟨some (.error (.frame .timeout)), 22⟩ ∧ second.2.isBroken = true := by
  intro reply source sink start call first second
  have hburst : 0 < source.burst := by decide
  have hfits : call.payload.length ≤ Frame.maxBody := by decide
  have hwritten : FirstShows (start.writer.sink.Shows call.request.encode) 7 (.ok ()) := by
    have hnone : ∀ moment, moment < 7 → start.writer.frameBy? call.request moment = none := by
      decide +kernel
    refine ⟨Writer.frameBy?_eq_some_iff.1 (by decide +kernel), fun moment hlt other hother ↦ ?_⟩
    cases (hnone moment hlt).symm.trans (Writer.frameBy?_eq_some_iff.2 hother)
  have hreceived : FirstShows (fun moment ↦ (start.reader.receivedBy moment).Shows)
      9 (.ok reply) := by
    have hnone : ∀ moment, moment < 9 → (start.reader.receivedBy moment).frame? = none := by
      decide +kernel
    refine ⟨Received.frame?_eq_some_iff.1 (by decide +kernel), fun moment hlt other hother ↦ ?_⟩
    cases (hnone moment hlt).symm.trans (Received.frame?_eq_some_iff.2 hother)
  obtain ⟨hfirst, hopen⟩ := ((isTimed_perform hburst sink 10 .start call 0).1 rfl hfits).answered
    7 9 reply hwritten hreceived (.inr (by decide))
  have hreach : Reachable start [⟨call, .ok (.coded 0 [5])⟩] first.2 :=
    .call call .start (Prod.ext hfirst rfl)
  have hwriting (error : FrameError) :
      ¬first.2.writer.sink.Shows call.request.encode 22 (.error error) := fun herror ↦ by
    have hok : first.2.writer.frameBy? call.request 22 = some (.ok ()) := by decide +kernel
    cases hok.symm.trans (Writer.frameBy?_eq_some_iff.2 herror)
  have hreading (result : Except FrameError Frame) :
      ¬(first.2.reader.receivedBy 22).Shows result := fun hresult ↦ by
    have hnone : (first.2.reader.receivedBy 22).frame? = none := by decide +kernel
    cases hnone.symm.trans (Received.frame?_eq_some_iff.2 hresult)
  obtain ⟨hsecond, hbroken⟩ := ((isTimed_perform hburst sink 10 hreach call 12).1 hopen hfits).late
    (by decide) hwriting hreading
  exact ⟨hburst, hfirst, hopen, hsecond, hbroken⟩

end Client

end FramedExchange
