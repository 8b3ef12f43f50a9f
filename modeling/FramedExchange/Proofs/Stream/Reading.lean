import FramedExchange.Stream.Reader
import FramedExchange.Proofs.Wire.FrameCut

/-!
# Reading loses no byte

What a reader has not taken yet is in its buffer or still with its source (`Reader.unread`). A read
moves bytes from the source to the buffer and, only when it succeeds, takes some from the front:

* `unread_fetch`: fetching never changes what is unread, however it ends;
* `take_eq_ok`: a read of `n` bytes that succeeds takes the first `n` unread bytes;
* `readFrame_eq_ok`: a frame that is read is the first frame of the unread bytes, and what follows
  it is left;
* `readFrame_eq_error`: a frame that is not read leaves the stream in order only if nothing was
  taken.

Nothing is assumed of the source: its script may hold delays, errors, ends and stalls in any order,
and the limits may be any.
-/

namespace FramedExchange

namespace Buffer

@[simp]
theorem bytes_consume (n : ℕ) (b : Buffer) : (b.consume n).bytes = b.bytes.drop n := by
  rcases Nat.le_total n b.bytes.length with hle | hge
  · simp [consume, length, Nat.min_eq_left hle]
  · simp [consume, length, Nat.min_eq_right hge, List.drop_of_length_le hge]

end Buffer

namespace Source

/-- The bytes that a script still holds, in order. -/
def bytesOf (script : List (Scheduled Arrival)) : Bytes :=
  script.flatMap fun item ↦ item.event.bytes

@[simp]
theorem bytesOf_nil : bytesOf [] = [] := rfl

@[simp]
theorem bytesOf_cons (item : Scheduled Arrival) (rest : List (Scheduled Arrival)) :
    bytesOf (item :: rest) = item.event.bytes ++ bytesOf rest := rfl

/-- The bytes that one read has brought. -/
def gained (result : Timed (Except IoError Bytes)) : Bytes :=
  match result.outcome with
  | .done (.ok bytes) => bytes
  | _ => []

private theorem gained_giveUp (limits : Limits) (now : Time) : gained (giveUp limits now) = [] := by
  unfold giveUp
  split
  · split <;> rfl
  · rfl
  · rfl
  · rfl

/-- **One read brings the bytes that it takes off the script**, and leaves the others in their
order. -/
theorem gained_append_readScript (limits : Limits) (space : ℕ) (now : Time)
    (script : List (Scheduled Arrival)) :
    gained (readScript limits space now script).1 ++
      bytesOf (readScript limits space now script).2.1 = bytesOf script := by
  induction script generalizing now with
  | nil => simp [readScript, gained_giveUp]
  | cons item rest ih =>
    obtain ⟨due, event⟩ := item
    unfold readScript
    rcases await limits now (dueOf ⟨due, event⟩) with ⟨outcome, time⟩
    cases outcome with
    | elapsed => simp [gained]
    | hanging => simp [gained]
    | done result =>
      cases event with
      | data bytes =>
        cases bytes with
        | nil => simpa [Arrival.bytes] using ih time
        | cons byte bytes =>
          rcases hleft : (byte :: bytes).drop space with - | ⟨first, left⟩
          · simp [hleft, gained, Arrival.bytes]
          · -- what does not fit into the space stays at the front of the script
            have hjoin : (byte :: bytes).take space ++ first :: left = byte :: bytes := by
              rw [← hleft, List.take_append_drop]
            simpa [hleft, gained, Arrival.bytes] using congrArg (· ++ bytesOf rest) hjoin
      | eof => simp [gained]
      | failure error => simp [gained, Arrival.bytes]
      | signal => simpa [Arrival.bytes] using ih time
      | stall => simp [gained_giveUp]

theorem gained_append_read (limits : Limits) (now : Time) (space : ℕ) (source : Source) :
    gained (source.read limits now space).1 ++ (source.read limits now space).2.remaining =
      source.remaining :=
  gained_append_readScript limits (min space source.burst) now source.script

end Source

namespace Reader

variable {limits : Limits} {n : ℕ} {now time : Time} {r r' : Reader}

/-! ### Fetching -/

/-- A read behind the buffered bytes splits what is unread in three: the buffered bytes, those that
the read has brought, and those that the source still holds. -/
theorem unread_eq_of_read {space : ℕ} {result : Timed (Except IoError Bytes)} {source : Source}
    (hread : r.source.read limits now space = (result, source)) :
    r.buffer.bytes ++ (Source.gained result ++ source.remaining) = r.unread := by
  have hkeep := Source.gained_append_read limits now space r.source
  rw [hread] at hkeep
  rw [hkeep, unread]

/-- **Fetching never changes what is unread.** -/
theorem unread_fetch (limits : Limits) (n : ℕ) (now : Time) (r : Reader) :
    (r.fetch limits n now).2.unread = r.unread := by
  fun_induction fetch limits n now r with
  | case1 => rfl
  | case2 now r hfew buffer byte bytes time source hread ih =>
    rw [ih, ← unread_eq_of_read hread]
    simp [unread, Source.gained, buffer]
  | case3 now r hfew buffer time source hread =>
    simpa [unread, Source.gained, buffer] using unread_eq_of_read hread
  | case4 now r hfew buffer error time source hread =>
    simpa [unread, Source.gained, buffer] using unread_eq_of_read hread
  | case5 now r hfew buffer time source hread =>
    simpa [unread, Source.gained, buffer] using unread_eq_of_read hread
  | case6 now r hfew buffer time source hread =>
    simpa [unread, Source.gained, buffer] using unread_eq_of_read hread

/-- Fetching that succeeds has put enough bytes into the buffer. -/
theorem le_buffered_of_fetch (h : r.fetch limits n now = (⟨.done (.ok ()), time⟩, r')) :
    n ≤ r'.buffered := by
  fun_induction fetch limits n now r with
  | case1 now r henough =>
    cases h
    exact henough
  | case2 now r hfew buffer byte bytes time source hread ih => exact ih h
  | case3 | case4 | case5 | case6 => cases h

/-! ### Taking -/

/-- **A read of `n` bytes that succeeds takes the first `n` unread bytes.** -/
theorem take_eq_ok {raw : Bytes} (h : r.take limits n now = (⟨.done (.ok raw), time⟩, r')) :
    n ≤ r.unread.length ∧ raw = r.unread.take n ∧ r'.unread = r.unread.drop n := by
  unfold take at h
  have hkeep := r.unread_fetch limits n now
  split at h
  · rename_i after fetched hfetch
    have henough := le_buffered_of_fetch hfetch
    have hle : n ≤ fetched.buffer.bytes.length := henough
    have hsame : fetched.unread = r.unread := by rw [← hkeep, hfetch]
    cases h
    rw [← hsame, unread, unread, List.length_append, List.take_append_of_le_length hle,
      List.drop_append_of_le_length hle, Buffer.bytes_consume]
    exact ⟨by omega, rfl, rfl⟩
  · cases h
  · cases h
  · cases h

/-- A read that does not succeed takes nothing. -/
theorem unread_take_of_ne_ok {result : Timed (Except IoError Bytes)}
    (h : r.take limits n now = (result, r')) (hfail : ∀ raw, result.outcome ≠ .done (.ok raw)) :
    r'.unread = r.unread := by
  unfold take at h
  have hkeep := r.unread_fetch limits n now
  split at h
  · cases h
    exact absurd rfl (hfail _)
  all_goals
    rename_i hfetch
    rw [hfetch] at hkeep
    cases h
    exact hkeep

/-! ### Frames -/

/-- A body that is read is the one that the header announces. -/
theorem readBody_eq_ok {header : Header} {frame : Frame}
    (h : r.readBody limits header now = (⟨some (.ok frame), time⟩, r')) :
    header.length.toNat ≤ r.unread.length ∧
      frame = ⟨header, r.unread.take header.length.toNat⟩ ∧
      r'.unread = r.unread.drop header.length.toNat := by
  unfold readBody at h
  rcases htake : r.take limits header.length.toNat now with ⟨⟨outcome, after⟩, taken⟩
  rw [htake] at h
  cases outcome with
  | elapsed => cases h
  | hanging => cases h
  | done result =>
    cases result with
    | error error => cases h
    | ok raw =>
      cases h
      obtain ⟨hle, rfl, hleft⟩ := take_eq_ok htake
      exact ⟨hle, rfl, hleft⟩

theorem isBroken_of_readBody {header : Header} {error : FrameError}
    (h : r.readBody limits header now = (⟨some (.error error), time⟩, r')) :
    error.isBroken = true := by
  unfold readBody at h
  rcases htake : r.take limits header.length.toNat now with ⟨⟨outcome, after⟩, taken⟩
  rw [htake] at h
  cases outcome with
  | elapsed =>
    cases h
    rfl
  | hanging => cases h
  | done result =>
    cases result with
    | error failure =>
      cases h
      exact FrameError.isBroken_ofIo failure
    | ok raw => cases h

/-- **A frame that is read is the first frame of the unread bytes**, and what follows it stays
unread. -/
theorem readFrame_eq_ok {frame : Frame}
    (h : r.readFrame limits now = (⟨some (.ok frame), time⟩, r')) :
    Frame.first? r.unread = some (frame, r'.unread) := by
  unfold readFrame at h
  split at h
  · rename_i raw after taken htake
    obtain ⟨hsize, rfl, hleft⟩ := take_eq_ok htake
    split at h
    · cases h
    · rename_i header hdecode
      obtain ⟨hbody, rfl, hrest⟩ := readBody_eq_ok h
      -- the body was taken from what the header had left
      rw [hleft] at hbody hrest
      have hfull : ¬ r.unread.length - Header.size < header.length.toNat := by
        rw [List.length_drop] at hbody
        omega
      unfold Frame.first?
      rw [if_neg (by omega), hdecode]
      show (if r.unread.length - Header.size < header.length.toNat then none else some (_, _)) = _
      rw [if_neg hfull, hleft, hrest, List.drop_drop]
  · cases h
  · cases h
  · cases h

/-- **The only failure to read a frame that leaves the stream in order** is a deadline that passes
before the first byte of the frame. Nothing has been taken then. -/
theorem readFrame_eq_error {error : FrameError}
    (h : r.readFrame limits now = (⟨some (.error error), time⟩, r')) :
    error.isBroken = true ∨ error = .idle ∧ r'.unread = r.unread := by
  unfold readFrame at h
  split at h
  · rename_i raw after taken htake
    split at h
    · rename_i hdecode
      cases h
      exact .inl (Header.isBroken_of_decode hdecode)
    · exact .inl (isBroken_of_readBody h)
  · rename_i failure after taken htake
    cases h
    exact .inl (FrameError.isBroken_ofIo failure)
  · rename_i after taken htake
    have hkeep := unread_take_of_ne_ok htake nofun
    cases h
    -- the deadline has passed, and it depends on the buffer whether a frame had begun
    split
    · exact .inr ⟨rfl, hkeep⟩
    · exact .inl rfl
  · cases h

/-- However a read ends, what is unread after it is the rest of what was unread before. -/
theorem unread_take_suffix (limits : Limits) (n : ℕ) (now : Time) (r : Reader) :
    (r.take limits n now).2.unread <:+ r.unread := by
  rcases htake : r.take limits n now with ⟨⟨(error | raw) | _ | _, time⟩, taken⟩
  case done.ok =>
    obtain ⟨-, -, hleft⟩ := take_eq_ok htake
    exact hleft ▸ List.drop_suffix ..
  all_goals exact unread_take_of_ne_ok htake nofun ▸ List.suffix_refl _

theorem unread_readFrame_suffix (limits : Limits) (now : Time) (r : Reader) :
    (r.readFrame limits now).2.unread <:+ r.unread := by
  have hheader := unread_take_suffix limits Header.size now r
  rw [readFrame]
  rcases htake : r.take limits Header.size now with ⟨⟨(error | raw) | _ | _, time⟩, taken⟩
  all_goals rw [htake] at hheader
  · exact hheader
  · rcases hdecode : Header.decode raw with error | header
    · simp only [hdecode]
      exact hheader
    · simp only [hdecode]
      exact (unread_take_suffix limits header.length.toNat time taken).trans hheader
  · exact hheader
  · exact hheader

end Reader

end FramedExchange
