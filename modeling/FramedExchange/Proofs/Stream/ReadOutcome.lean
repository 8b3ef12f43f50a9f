import FramedExchange.Proofs.Stream.Outcome
import FramedExchange.Proofs.Stream.ReadingTime

/-!
# How the reading of a frame comes out

What has been received by a moment shows what becomes of the frame that is read (`Received.Shows`).
The reading comes out with what shows first, unless its deadline passes before; then it depends on
whether any byte of the frame has been received by the deadline (`Reader.endsAsReceived_readFrame`).
Nothing is assumed of the stream or of what was left in the buffer before.

A deadline that passes before the first byte is the only failure that leaves the stream in order.
The reader then comes to the same in every later reading as if it had not tried
(`Reader.resumes_of_idle`).
-/

namespace FramedExchange

/-- A stream that fails says nothing about the header. -/
theorem FrameError.ofIo_ne_malformedHeader (error : IoError) (magic : UInt32) (version : UInt16) :
    ofIo error ≠ .malformedHeader magic version := by
  rw [ofIo]
  split <;> rintro ⟨⟩

namespace Reader

variable {limits : Limits} {deadline : Option Time} {now time : Time} {r r' : Reader}

/-! ### What is taken -/

theorem readBody_ne_malformedHeader {header : Header} {magic : UInt32} {version : UInt16} :
    (r.readBody limits header now).1.result? ≠ some (.error (.malformedHeader magic version)) := by
  rw [readBody]
  rcases r.take limits header.length.toNat now with ⟨⟨(error | raw) | _ | _, moment⟩, taken⟩
  · intro h
    exact FrameError.ofIo_ne_malformedHeader error magic version
      (Except.error.inj (Option.some.inj h))
  · rintro ⟨⟩
  · rintro ⟨⟩
  · rintro ⟨⟩

/-- **Of a frame of another protocol the header is taken and nothing else.** -/
theorem readFrame_eq_malformedHeader {magic : UInt32} {version : UInt16}
    (h : r.readFrame limits now = (⟨some (.error (.malformedHeader magic version)), time⟩, r')) :
    ∃ header : Header, r.unread = header.encode ++ r'.unread ∧ header.magic = magic ∧
      header.version = version := by
  rw [readFrame] at h
  rcases htake : r.take limits Header.size now with ⟨⟨(error | raw) | _ | _, moment⟩, taken⟩
  all_goals rw [htake] at h
  · have hresult := congrArg (·.1.result?) h
    exact absurd (Except.error.inj (Option.some.inj hresult))
      (FrameError.ofIo_ne_malformedHeader error magic version)
  · obtain ⟨hsize, hraw, hleft⟩ := take_eq_ok htake
    obtain ⟨header, rfl⟩ := Header.exists_encode_eq (hraw ▸ List.length_take_of_le hsize)
    have hunread : r.unread = header.encode ++ taken.unread := by
      rw [hraw, hleft, List.take_append_drop]
    by_cases hours : header.IsOurs
    · simp only [Header.decode_encode hours] at h
      exact absurd (congrArg (·.1.result?) h) readBody_ne_malformedHeader
    · simp only [Header.decode_encode_eq, if_neg hours] at h
      cases h
      exact ⟨header, hunread, rfl, rfl⟩
  · simp only [Prod.mk.injEq, Settled.mk.injEq] at h
    obtain ⟨⟨hresult, -⟩, -⟩ := h
    split at hresult <;> cases hresult
  · cases h

/-! ### Later readings -/

/-- Read one frame after another. Each reading begins some time after the one before it has ended,
and has a deadline of its own. -/
def readLater : Time → List (Time × Option Time) → Reader →
    List (Settled (Except FrameError Frame))
  | _, [], _ => []
  | time, (pause, deadline) :: readings, r =>
    let (read, after) := r.readFrame ⟨deadline, none⟩ (time + pause)
    read :: readLater read.time readings after

/-- A reader that has passed over what brings nothing reads what it would have read. -/
theorem Resumes.readLater (h : r.Resumes time r') (readings : List (Time × Option Time)) :
    r.readLater time readings = r'.readLater time readings := by
  induction readings generalizing time r r' with
  | nil => rfl
  | cons reading readings ih =>
    obtain ⟨pause, deadline⟩ := reading
    obtain ⟨hread, hafter⟩ :=
      fetchesAlike_resumes.readFrame (h.mono (Nat.le_add_right time pause)) ⟨deadline, none⟩
    simp only [Reader.readLater, ← hread, ih hafter]

/-- **A reading whose deadline passes before the first byte of a frame has made no difference.** -/
theorem resumes_of_idle (hburst : 0 < r.source.burst)
    (h : r.readFrame limits now = (⟨some (.error .idle), time⟩, r')) : r.Resumes time r' := by
  rw [readFrame] at h
  rcases htake : r.take limits Header.size now with ⟨⟨(error | raw) | _ | _, moment⟩, taken⟩
  all_goals rw [htake] at h
  -- only a deadline that passes while the header is awaited is not of the kind that breaks
  · have hbroken := FrameError.isBroken_ofIo error
    have hresult := congrArg (·.1.result?) h
    rw [Except.error.inj (Option.some.inj hresult)] at hbroken
    cases hbroken
  · rcases hdecode : Header.decode raw with error | header
    · simp only [hdecode] at h
      cases h
      cases Header.isBroken_of_decode hdecode
    · simp only [hdecode] at h
      cases isBroken_of_readBody h
  · simp only [Prod.mk.injEq, Settled.mk.injEq] at h
    obtain ⟨⟨hresult, rfl⟩, rfl⟩ := h
    split at hresult
    · rename_i hnothing
      exact (take_elapsed hburst htake).2 (List.length_eq_zero_iff.1 hnothing)
    · cases hresult
  · cases h

/-! ### How a reading comes out -/

/-- How the reading of a frame that begins `now` ends, and what it leaves. -/
structure EndsAsReceived (deadline : Option Time) (now : Time) (r : Reader)
    (read : Settled (Except FrameError Frame) × Reader) : Prop where
  /-- The result is what shows first, or else a deadline that passes before or after the first byte
  of the frame. -/
  comesOut : read.1.ComesOut deadline now (fun moment ↦ (r.receivedBy moment).Shows)
    fun moment ↦ .error (if (r.receivedBy moment).bytes = [] then .idle else .timeout)
  /-- A frame that is read is the first of the bytes that were not taken before, and what follows it
  is left. -/
  frame : ∀ frame, read.1.result? = some (.ok frame) →
    frame.IsValid ∧ r.unread = frame.encode ++ read.2.unread
  /-- Of a frame of another protocol the ten bytes of its header are taken. -/
  malformed : ∀ magic version, read.1.result? = some (.error (.malformedHeader magic version)) →
    ∃ header : Header, r.unread = header.encode ++ read.2.unread ∧ header.magic = magic ∧
      header.version = version
  /-- The stream is of further use only if the deadline has passed before the first byte. -/
  broken : ∀ error, read.1.result? = some (.error error) → (error.isBroken = false ↔ error = .idle)
  /-- Then nothing has been taken or lost, and what is read later is what would have been read. -/
  unharmed : read.1.result? = some (.error .idle) → read.2.unread = r.unread ∧
    ∀ readings, read.2.readLater read.1.time readings = r.readLater read.1.time readings

/-- **The reading of a frame comes out as what has been received tells**, whatever was left in the
buffer, whatever the stream brings and whatever the deadline is. -/
theorem endsAsReceived_readFrame (hburst : 0 < r.source.burst) (deadline : Option Time)
    (now : Time) : r.EndsAsReceived deadline now (r.readFrame ⟨deadline, none⟩ now) := by
  obtain ⟨t, hfollows, hread⟩ :=
    exists_follows_readFrame hburst (allows_deadlineFrom now deadline)
  have hout := hfollows.comesOut r.isLasting_frameBy?
    (fun _ _ ↦ Received.frame?_eq_some_iff) fun moment ↦ .error (r.lateness moment)
  rw [← hread, readFrame_agreeFrom (agreeFrom_deadlineFrom now deadline)] at hout
  rcases hresult : r.readFrame ⟨deadline, none⟩ now with ⟨⟨result?, time⟩, after⟩
  rw [hresult] at hout
  refine ⟨hout, fun frame hframe ↦ ?_, fun magic version hmalformed ↦ ?_,
    fun error herror ↦ ?_, fun hidle ↦ ?_⟩
  · obtain rfl : result? = _ := hframe
    exact Frame.eq_append_of_first? (readFrame_eq_ok hresult)
  · obtain rfl : result? = _ := hmalformed
    exact readFrame_eq_malformedHeader hresult
  · obtain rfl : result? = _ := herror
    constructor
    · intro hunbroken
      rcases readFrame_eq_error hresult with hbroken | ⟨hidle, -⟩
      · rw [hunbroken] at hbroken
        cases hbroken
      · exact hidle
    · rintro rfl
      rfl
  · obtain rfl : result? = _ := hidle
    rcases readFrame_eq_error hresult with hbroken | ⟨-, hunread⟩
    · cases hbroken
    · exact ⟨hunread, fun readings ↦ ((resumes_of_idle hburst hresult).readLater readings).symm⟩

/-- A frame comes in after the deadline of a first reading, and is what a second one reads. -/
theorem endsAsReceived_readFrame_idle :
    let frame := Frame.ofBody (Header.make 7 0) [104, 105]
    let reader : Reader := ⟨.withCapacity 64, .ofScript [⟨9, .data frame.encode⟩]⟩
    let read := reader.readFrame ⟨some 5, none⟩ 0
    0 < reader.source.burst ∧ read.1 = ⟨some (.error .idle), 5⟩ ∧
      read.2.readLater read.1.time [(0, none)] = [⟨some (.ok frame), 9⟩] := by
  intro frame reader read
  have hburst : 0 < reader.source.burst := by decide
  have hends := endsAsReceived_readFrame hburst (some 5) 0
  have hnothing (result : Except FrameError Frame) : ¬(reader.receivedBy 5).Shows result :=
    fun hshows ↦ nomatch Received.frame?_eq_some_iff.2 hshows
  have hread : read.1 = ⟨some (.error .idle), 5⟩ := hends.comesOut.late 5 rfl hnothing
  obtain ⟨-, hlater⟩ := hends.unharmed (congrArg Settled.result? hread)
  refine ⟨hburst, hread, (hlater [(0, none)]).trans ?_⟩
  rw [hread]
  decide +kernel

end Reader

end FramedExchange
