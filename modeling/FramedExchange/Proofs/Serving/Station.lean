import FramedExchange.Proofs.Serving.Alike
import FramedExchange.Proofs.Serving.Course

/-!
# The stations of serving

Serving goes from one phase to the next, and each of them begins at a certain moment, with the
connection and the server as they are then (`Station`). The stations that serving passes are
determined by the first one (`Station.Passes`), and if serving comes to its end the last of them is
the closing (`Passes.exists_closing_of_runFrom`).

On the way the settings and the handlers stay what they are, and the link stays one on which reading
does not depend on how much is fetched at a time (`Passes.agree`).
-/

namespace FramedExchange

/-- A connection that is served, at the beginning of a phase. -/
structure Station where
  phase : Phase
  /-- The moment at which the phase begins. -/
  since : Time
  connection : Connection
  server : Server

namespace Station

variable (horizon : Option Time)

/-- The run of the phase of a station. -/
def run (station : Station) : PhaseRun :=
  station.phase.run station.server.settings station.server.dispatcher horizon station.since
    station.connection.link

/-- The station at which a phase begins that follows the one before. -/
def next (phase : Phase) (station : Station) : Station where
  phase := phase
  since := (station.run horizon).time
  connection := station.connection.leftBy (station.run horizon)
  server := station.server.after station.connection.name (station.run horizon)

/-- The stations that serving passes from a first one on. -/
inductive Passes (first : Station) : Station → Prop
  | first : Passes first first
  | next {station : Station} {phase : Phase} (hpasses : Passes first station)
      (hnext : Connection.progressOf (station.next horizon phase).server
        (station.run horizon).ending = .next phase) :
      Passes first (station.next horizon phase)

variable {horizon} {first station : Station}

theorem Passes.settings (h : first.Passes horizon station) :
    station.server.settings = first.server.settings := by
  induction h with
  | first => rfl
  | next _ _ ih => exact (Server.settings_after ..).trans ih

/-- **The link agrees with itself** at every station: if there is anything to be read, a read gets
something of it. -/
theorem Passes.agree (h : first.Passes horizon station)
    (hfirst : first.connection.link.Agree first.connection.link first.since) :
    station.connection.link.Agree station.connection.link station.since := by
  induction h with
  | first => exact hfirst
  | @next station phase _ _ ih =>
    have hrun : (station.run horizon).Agree (station.run horizon) :=
      Phase.run_agree ⟨rfl, rfl, rfl, rfl⟩ ih _ _ _
    exact ⟨hrun.link.reader.clearSignals, rfl⟩

/-- **Serving that comes to its end has passed the closing**, and ends with it. -/
theorem Passes.exists_closing_of_runFrom {fuel : ℕ} {reason : CloseReason}
    (h : first.Passes horizon station)
    (hresult : (station.connection.runFrom horizon fuel station.phase station.since
      station.server).1.result? = some reason) :
    ∃ last, first.Passes horizon last ∧ last.phase = .closing reason ∧
      (station.connection.runFrom horizon fuel station.phase station.since station.server).1.time =
        (last.run horizon).time := by
  induction fuel generalizing station with
  | zero => cases hresult
  | succ fuel ih =>
    have hrun : station.connection.runOf horizon station.phase station.since station.server =
        station.run horizon := rfl
    rcases hprogress : Connection.progressOf
        (station.server.after station.connection.name (station.run horizon))
        (station.run horizon).ending with phase | other | -
    · rw [Connection.runFrom_of_next hrun hprogress] at hresult ⊢
      exact ih (h.next hprogress) hresult
    · have hend := Connection.progressOf_eq_closed_iff.1 hprogress
      rw [Connection.runFrom_of_closed hrun hend] at hresult ⊢
      obtain rfl : other = reason := Option.some.inj hresult
      exact ⟨station, h, Phase.run_eq_closed hend, rfl⟩
    · have hend := Connection.progressOf_eq_abandoned_iff.1 hprogress
      rw [Connection.runFrom_of_hanging hrun hend] at hresult
      cases hresult

end Station

end FramedExchange
