import Mathlib.Tactic.Common
import SensorRelay.Wait

/-! # Waiting with nobody else about

A consumer that nobody wakes ends its wait at once, at its deadline, or never.
-/
namespace SensorRelay

/-- Whether a wait that begins at clock zero has no deadline. -/
def Timeout.isEndless : Timeout → Bool
  | .poll => false
  | .after d => decide (Nanoseconds.endOfTime ≤ d)
  | .infinite => true

namespace Wait
variable {σ : Type}

/-- A state that is not pending is never waited for. -/
theorem run_alone_of_ready {pending : σ → Bool} {s : σ} (h : pending s = false) (timeout : Timeout) :
    run pending timeout (timeout.alone s) = .ready s := by
  simp [run, Timeout.alone, watch, h]

/-- Alone with a pending state, the wait ends without data or not at all. -/
theorem run_alone_of_pending {pending : σ → Bool} {s : σ} (h : pending s = true)
    (timeout : Timeout) :
    run pending timeout (timeout.alone s) = if timeout.isEndless then .asleep else .expired := by
  cases timeout with
  | poll => simp [run, Timeout.alone, watch, h, Timeout.isEndless]
  | infinite => simp [run, Timeout.alone, Timeout.deadline, watch, h, Timeout.isEndless]
  | after d =>
    by_cases hd : d < Nanoseconds.endOfTime
    · have hle : ¬ Nanoseconds.endOfTime ≤ d := Nat.not_le.mpr hd
      simp [run, Timeout.alone, Timeout.deadline, watch, h, Timeout.isEndless, hd, hle]
    · have hle : Nanoseconds.endOfTime ≤ d := Nat.not_lt.mp hd
      simp [run, Timeout.alone, Timeout.deadline, watch, h, Timeout.isEndless, hd, hle]

theorem run_alone_cases (pending : σ → Bool) (s : σ) (timeout : Timeout) :
    (pending s = false ∧ run pending timeout (timeout.alone s) = .ready s) ∨
      run pending timeout (timeout.alone s) = .expired ∨
      run pending timeout (timeout.alone s) = .asleep := by
  cases hpending : pending s with
  | false => exact .inl ⟨rfl,run_alone_of_ready hpending timeout⟩
  | true =>
    rw [run_alone_of_pending hpending]
    cases timeout.isEndless with
    | true => exact .inr (.inr rfl)
    | false => exact .inr (.inl rfl)

end Wait
end SensorRelay
