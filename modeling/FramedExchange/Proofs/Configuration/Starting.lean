import FramedExchange.Startup
import FramedExchange.Proofs.Configuration.Precedence

/-!
# Which configurations a server can be started with

The checks of a configuration keep the number of connections and the size of buffers within what the
server can make (`Configuration.exists_merge_eq_ok_iff`). They let every size of the pool through,
although its list of idle buffers is made with the server. So a server is started with an accepted
configuration if and only if that list can be made (`Configuration.isLaunched_of_merge`); with a
larger pool it panics (`Configuration.launch_of_large_pool`).
-/

namespace FramedExchange

/-- There are never more slots than there can be. -/
theorem AcceptLoop.allocate_eq_ok (settings : ServerSettings) :
    allocate settings = .ok (start settings) := if_neg (Nat.not_lt.2 (Nat.min_le_right _ _))

/-- A number of connections that is within the limit has its slots. -/
theorem AcceptLoop.slotsOf_of_le {settings : ServerSettings}
    (h : settings.maxConnections ≤ slotLimit) :
    slotsOf settings = settings.maxConnections := Nat.min_eq_left h

/-- **Whether a server can be launched** depends on the list of its pool alone. -/
theorem Server.launch_eq (settings : ServerSettings) (dispatcher : Dispatcher) :
    launch settings dispatcher = (Allocation.reserve Pool.entrySize settings.poolCapacity).map
      fun () ↦ (start settings dispatcher, AcceptLoop.start settings) := by
  rw [launch, allocate, Pool.allocate, AcceptLoop.allocate_eq_ok]
  cases Allocation.reserve Pool.entrySize settings.poolCapacity <;> rfl

namespace Configuration

variable {line : CommandLine} {file : SettingsFile} {configuration : Configuration}

/-- What the checks of a configuration look at. -/
structure IsAdmissible (line : CommandLine) (file : SettingsFile) : Prop where
  listen : (SocketAddress.parse? (line.listen?.getD file.listen)).isSome
  maxConnections : 1 ≤ line.maxConnections?.getD file.maxConnections ∧
    line.maxConnections?.getD file.maxConnections ≤ maxConnectionsLimit
  bufferSize : 1 ≤ file.bufferSize ∧ file.bufferSize ≤ bufferSizeLimit

/-- **Just the admissible settings make a configuration.** -/
theorem exists_merge_eq_ok_iff :
    (∃ configuration, merge line file = .ok configuration) ↔ IsAdmissible line file := by
  constructor
  · rintro ⟨configuration, h⟩
    unfold merge at h
    extract_lets listen maxConnections at h
    split at h
    · cases h
    rename_i address haddress
    split at h
    · cases h
    rename_i hpos
    split at h
    · cases h
    rename_i hmost
    split at h
    · cases h
    rename_i hfilled
    split at h
    · cases h
    rename_i hsmall
    exact ⟨Option.isSome_of_eq_some haddress, ⟨Nat.pos_of_ne_zero hpos, Nat.le_of_not_lt hmost⟩,
      Nat.pos_of_ne_zero hfilled, Nat.le_of_not_lt hsmall⟩
  · rintro ⟨hlisten, ⟨hpos, hmost⟩, hfilled, hsmall⟩
    obtain ⟨address, haddress⟩ := Option.isSome_iff_exists.1 hlisten
    have hsome : line.maxConnections?.getD file.maxConnections ≠ 0 := Nat.pos_iff_ne_zero.1 hpos
    have hroom : file.bufferSize ≠ 0 := Nat.pos_iff_ne_zero.1 hfilled
    unfold merge
    simp only [haddress, if_neg hsome, if_neg (Nat.not_lt.2 hmost), if_neg hroom,
      if_neg (Nat.not_lt.2 hsmall)]
    exact ⟨_, rfl⟩

/-- How a server starts that has been configured. -/
structure IsLaunched (configuration : Configuration) : Prop where
  maxConnections : 1 ≤ configuration.maxConnections ∧
    configuration.maxConnections ≤ AcceptLoop.slotLimit
  bufferSize : 1 ≤ configuration.bufferSize ∧ configuration.bufferSize ≤ 64 * 1024 * 1024
  /-- New buffers can be made. -/
  buffer : Buffer.allocate configuration.bufferSize = .ok (.withCapacity configuration.bufferSize)
  /-- The accept loop has a slot for every connection. -/
  slots : AcceptLoop.allocate configuration.serverSettings =
    .ok ⟨configuration.maxConnections, .seekingSlot, [], 1⟩
  /-- The server starts if the list of its pool can be made. -/
  launched : Pool.entrySize * configuration.poolCapacity ≤ Allocation.limit → ∀ dispatcher,
    Server.launch configuration.serverSettings dispatcher =
      .ok (.start configuration.serverSettings dispatcher, .start configuration.serverSettings)
  /-- Otherwise it panics: nothing has refused so large a pool. -/
  panicked : Allocation.limit < Pool.entrySize * configuration.poolCapacity → ∀ dispatcher,
    Server.launch configuration.serverSettings dispatcher = .error (.text "capacity overflow")

/-- **Starting a server that has been configured**: settings make a configuration just if they are
admissible, and then the server starts unless its pool is too large. -/
theorem isLaunched_of_merge (line : CommandLine) (file : SettingsFile) :
    ((∃ configuration, merge line file = .ok configuration) ↔ IsAdmissible line file) ∧
      ∀ configuration, merge line file = .ok configuration → configuration.IsLaunched := by
  refine ⟨exists_merge_eq_ok_iff, fun configuration h ↦ ?_⟩
  obtain ⟨-, hconnections, hfilled, hsmall⟩ := exists_merge_eq_ok_iff.1 ⟨configuration, h⟩
  obtain ⟨address, -, rfl⟩ := merge_eq_ok h
  have hroom : file.bufferSize ≤ Allocation.limit := hsmall.trans (by decide)
  refine ⟨hconnections, ⟨hfilled, hsmall⟩, Buffer.allocate_of_le hroom, ?_,
    fun hpool dispatcher ↦ ?_, fun hpool dispatcher ↦ ?_⟩
  · rw [AcceptLoop.allocate_eq_ok, AcceptLoop.start, AcceptLoop.slotsOf_of_le hconnections.2]
    rfl
  · rw [Server.launch_eq, serverSettings, Allocation.reserve_of_le hpool]
    rfl
  · rw [Server.launch_eq, serverSettings, Allocation.reserve_of_lt hpool]
    rfl

/-- The greatest numbers that are let through, with a pool that is as large as it can be. -/
theorem isLaunched_of_merge_greatest :
    let line := { CommandLine.empty with maxConnections? := some 0x1fffffffffffffff }
    let file := { SettingsFile.default with
      bufferSize := 67108864, poolCapacity := 288230376151711743 }
    ∃ configuration, merge line file = .ok configuration ∧
      configuration.maxConnections = AcceptLoop.slotLimit ∧
      Pool.entrySize * configuration.poolCapacity ≤ Allocation.limit ∧
      configuration.IsLaunched := by
  intro line file
  let configuration : Configuration :=
    ⟨.v4 #v[127, 0, 0, 1] 7070, .path, 0, 0, 0, true, 0x1fffffffffffffff, 67108864,
      288230376151711743, "info"⟩
  have h : merge line file = .ok configuration := by decide +kernel
  exact ⟨configuration, h, rfl, by decide, (isLaunched_of_merge line file).2 configuration h⟩

/-- A settings file may ask for a pool with which no server starts. -/
theorem launch_of_large_pool :
    let contentsAt := fun _ ↦ .ok (Bytes.ofString "[buffers]\npool_capacity = 288230376151711744\n")
    let line := { CommandLine.empty with file? := some "settings.toml" }
    ∃ configuration, resolve contentsAt line = .ok configuration ∧ ∀ dispatcher,
      Server.launch configuration.serverSettings dispatcher =
        .error (.text "capacity overflow") := by
  intro contentsAt line
  let configuration : Configuration :=
    ⟨.v4 #v[127, 0, 0, 1] 7070, .path, 0, 0, 0, true, 10000, 8192, 288230376151711744, "info"⟩
  have h : resolve contentsAt line = .ok configuration := by decide +kernel
  refine ⟨configuration, h, fun dispatcher ↦ ?_⟩
  rw [Server.launch_eq, Allocation.reserve_of_lt (by decide)]
  rfl

end Configuration

end FramedExchange
