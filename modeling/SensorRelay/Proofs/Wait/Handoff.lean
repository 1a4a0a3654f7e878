import SensorRelay.Proofs.Wait.Schedule

/-! # A consumer beside one other thread

While the consumer sleeps, another thread wakes it. Whatever the consumer's looks, the two calls come to
what they would come to one after the other: the consumer's call goes first where it finds the state no
longer pending at once, and last where the other call makes the state so and notifies.
-/
namespace SensorRelay

/-- When a consumer looks at the state: at least once before the call of another thread, and after it at
least once if that call notifies. Further looks are wakes that nobody asked for. -/
structure Looks (notified : Bool) where
  before : List Nanoseconds
  after : List Nanoseconds
  starts : before ≠ []
  woken : notified = true → after ≠ []

/-- The looks of a consumer that only the other call wakes, at `moment`. -/
def Timeout.looks (timeout : Timeout) (moment : Nanoseconds) (notified : Bool) : Looks notified where
  before := timeout.clocksBefore moment
  after := timeout.clocksFrom moment
  starts := by simp [Timeout.clocksBefore]
  woken _ := List.cons_ne_nil _ _

section Sequential
variable {σ ρ ω : Type}

/-- A call of the consumer, then one of the other thread: the two results and the state in the end. -/
def takeThenWake (take : σ → Except Failure ρ × σ) (wake : σ → ω × σ) (s : σ) :
    Except Failure ρ × ω × σ :=
  let (taken, s) := take s
  let (woke, s) := wake s
  (taken, woke, s)

/-- The same with the calls in the other order. -/
def wakeThenTake (take : σ → Except Failure ρ × σ) (wake : σ → ω × σ) (s : σ) :
    Except Failure ρ × ω × σ :=
  let (woke, s) := wake s
  let (taken, s) := take s
  (taken, woke, s)

/-- What `both` calls come to when made side by side: what they come to with the consumer in front, or
behind if the state is `empty`, where it gets what the other call delivers. -/
structure IsSequential (take : σ → Except Failure ρ × σ) (wake : σ → ω × σ) (s : σ) (empty : Prop)
    (delivered : Except Failure ρ) (both : Option (Except Failure ρ × ω × σ)) : Prop where
  ahead : ¬ empty → both = some (takeThenWake take wake s)
  behind : empty → both = some (wakeThenTake take wake s)
  delivers : empty → (wakeThenTake take wake s).1 = delivered

end Sequential

namespace Wait
variable {σ ρ ω : Type}

/-- What a call gives at the end of its wait, where `get` takes from a state that is not pending. -/
def outcome (get : σ → Except Failure (ρ × σ)) : Wait σ → Option (Except Failure (ρ × σ))
  | .ready s => some (get s)
  | .expired => some (.error .timeout)
  | .asleep => none

variable {pending : σ → Bool} {timeout : Timeout} {s : σ} {notified : Bool}

theorem run_cons_of_ready {now : Sight σ} (h : pending now.state = false) (later : List (Sight σ)) :
    run pending timeout (now :: later) = .ready now.state :=
  since_cons_of_ready h

/-- A wait ends at a look that found a state to take from. -/
theorem ready_of_run {sights : List (Sight σ)} (h : run pending timeout sights = .ready s) :
    pending s = false ∧ ∃ now ∈ sights, now.state = s := by
  cases sights with
  | nil => cases h
  | cons first rest =>
    have hsince : since first.clock pending timeout (first :: rest) = .ready s := h
    obtain ⟨before,now,after,hsights,-,hready,rfl⟩ := since_eq_ready_iff.mp hsince
    exact ⟨hready,now,hsights ▸ List.mem_append_right _ List.mem_cons_self,rfl⟩

/-- While the state is pending, a consumer that has time left sleeps. -/
theorem run_asleep_of_pending {clocks : List Nanoseconds} (h : pending s = true)
    (hlive : run pending timeout (clocks.map (⟨s,·⟩)) ≠ .expired) :
    run pending timeout (clocks.map (⟨s,·⟩)) = .asleep := by
  cases hrun : run pending timeout (clocks.map (⟨s,·⟩)) with
  | asleep => rfl
  | expired => exact absurd hrun hlive
  | ready t =>
    obtain ⟨hready,now,hnow,rfl⟩ := ready_of_run hrun
    obtain ⟨clock,-,rfl⟩ := List.mem_map.mp hnow
    cases h.symm.trans hready

/-- The deadline of a longer wait is that of its beginning, so sleep there leads on to the rest. -/
theorem run_append_of_asleep {before : List (Sight σ)} (h : run pending timeout before = .asleep)
    {now : Sight σ} (hnow : pending now.state = false) (later : List (Sight σ)) :
    run pending timeout (before ++ now :: later) = .ready now.state := by
  cases before with
  | nil => exact run_cons_of_ready hnow later
  | cons first rest =>
    have happend : run pending timeout (first :: rest ++ now :: later) =
        since first.clock pending timeout (now :: later) := since_append_of_asleep h _
    exact happend.trans (since_cons_of_ready hnow)

variable {take : List (Sight σ) → Option (Except Failure (ρ × σ))} {wake : σ → ω × σ}
  {get : σ → Except Failure (ρ × σ)} {poll : σ → Except Failure ρ × σ}

/-- With nothing to wait for, the consumer is served at its first look. -/
theorem interleave_of_ready (htake : ∀ sights, take sights = (run pending timeout sights).outcome get)
    (hpoll : poll s = settle s (some (get s))) (hready : pending s = false) (looks : Looks notified) :
    interleave take wake looks.before looks.after s = some (takeThenWake poll wake s) := by
  obtain ⟨first,rest,hbefore⟩ := List.exists_cons_of_ne_nil looks.starts
  have hfirst : take (looks.before.map (⟨s,·⟩)) = some (get s) := by
    rw [htake, hbefore, List.map_cons, run_cons_of_ready hready]
    rfl
  simp only [interleave, hfirst, takeThenWake, hpoll]

/-- A sleeper that is notified is served from the state that the other call leaves. -/
theorem interleave_of_woken (htake : ∀ sights, take sights = (run pending timeout sights).outcome get)
    (hpoll : poll (wake s).2 = settle (wake s).2 (some (get (wake s).2)))
    (hpending : pending s = true) (hready : pending (wake s).2 = false) (looks : Looks notified)
    (hnotified : notified = true)
    (hlive : run pending timeout (looks.before.map (⟨s,·⟩)) ≠ .expired) :
    interleave take wake looks.before looks.after s = some (wakeThenTake poll wake s) := by
  have hasleep := run_asleep_of_pending hpending hlive
  have hfirst : take (looks.before.map (⟨s,·⟩)) = none := by
    rw [htake, hasleep]
    rfl
  obtain ⟨next,rest,hafter⟩ := List.exists_cons_of_ne_nil (looks.woken hnotified)
  have hsecond : take (looks.before.map (⟨s,·⟩) ++ looks.after.map (⟨(wake s).2,·⟩)) =
      some (get (wake s).2) := by
    rw [htake, hafter, List.map_cons, run_append_of_asleep hasleep hready]
    rfl
  simp only [interleave, hfirst, hsecond, Option.map_some, wakeThenTake, hpoll]

/-- What a waiting call needs of the call that wakes it: that it notifies and leaves a state that is no
longer pending. -/
theorem interleave_isSequential {empty : Prop} {delivered : Except Failure ρ}
    (htake : ∀ sights, take sights = (run pending timeout sights).outcome get)
    (hempty : empty ↔ pending s = true)
    (hpoll : pending s = false → poll s = settle s (some (get s)))
    (hwake : pending s = true → notified = true ∧ pending (wake s).2 = false ∧
      poll (wake s).2 = settle (wake s).2 (some (get (wake s).2)) ∧ (poll (wake s).2).1 = delivered)
    (looks : Looks notified) (hlive : run pending timeout (looks.before.map (⟨s,·⟩)) ≠ .expired) :
    IsSequential poll wake s empty delivered (interleave take wake looks.before looks.after s) where
  ahead hne := by
    have hready : pending s = false := by
      rw [← Bool.not_eq_true, ← hempty]
      exact hne
    exact interleave_of_ready htake (hpoll hready) hready looks
  behind he := by
    have hpending := hempty.mp he
    obtain ⟨hnotified,hready,hserved,-⟩ := hwake hpending
    exact interleave_of_woken htake hserved hpending hready looks hnotified hlive
  delivers he := (hwake (hempty.mp he)).2.2.2

end Wait
end SensorRelay
