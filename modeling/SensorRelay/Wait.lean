import SensorRelay.Failure

/-! # Waiting for a queue to have data

A consumer waits while the state is pending. It looks at the state when it is called and after every
wake, whatever woke it, and compares the clock with a deadline that is set once. What it sees at each
look is a list, so that a wait is a function of everything that other threads and the clock do. -/
namespace SensorRelay

/-- A length of time, or a clock reading, in nanoseconds. -/
abbrev Nanoseconds := Nat

namespace Nanoseconds

def perSecond : Nat := 1000000000

def ofMillis (ms : Nat) : Nanoseconds := ms * 1000000

def ofParts (seconds nanos : Nat) : Nanoseconds := seconds * perSecond + nanos

/-- The longest length of time that can be given. -/
def longest : Nanoseconds := ofParts (UInt64.size - 1) 999999999

/-- The first clock reading that cannot be expressed. -/
def endOfTime : Nanoseconds := ofParts 0x8000000000000000 0

end Nanoseconds

/-- How long a consumer may wait. -/
inductive Timeout where
  /-- Not at all. -/
  | poll
  | after (duration : Nanoseconds)
  /-- Until there is data or the queue is closed. -/
  | infinite
deriving DecidableEq

namespace Timeout

/-- The number of milliseconds that stands for an infinite wait. -/
def infiniteMillis : UInt32 := 0xffffffff

def ofMillis (ms : UInt32) : Timeout :=
  if ms = 0 then .poll
  else if ms = infiniteMillis then .infinite
  else .after (.ofMillis ms.toNat)

def ofDuration (d : Nanoseconds) : Timeout := if d = 0 then .poll else .after d

/-- When a wait that began at `start` ends: never for an infinite wait, nor for one whose end is past
the clock's range. -/
def deadline (start : Nanoseconds) : Timeout → Option Nanoseconds
  | .after d => if start + d < .endOfTime then some (start + d) else none
  | .poll | .infinite => none

end Timeout

/-- One look at the state under its lock. -/
structure Sight (σ : Type) where
  state : σ
  clock : Nanoseconds

/-- How a wait stands after the looks so far. -/
inductive Wait (σ : Type) where
  /-- The state is no longer pending. -/
  | ready (state : σ)
  | expired
  /-- The consumer sleeps: there was no further wake. -/
  | asleep

namespace Wait
variable {σ : Type}

/-- The looks of a wait with a fixed deadline. -/
def watch (pending : σ → Bool) (timeout : Timeout) (deadline : Option Nanoseconds) :
    List (Sight σ) → Wait σ
  | [] => .asleep
  | now :: later =>
    if pending now.state then
      match timeout, deadline with
      | .poll, _ => .expired
      | .after _, some d => if d ≤ now.clock then .expired else watch pending timeout deadline later
      | _, _ => watch pending timeout deadline later
    else .ready now.state

/-- A wait that begins at the first look. -/
def run (pending : σ → Bool) (timeout : Timeout) (sights : List (Sight σ)) : Wait σ :=
  watch pending timeout (sights.head?.bind fun now => timeout.deadline now.clock) sights

end Wait

namespace Timeout
variable {σ : Type}

/-- The looks of a consumer at a state that nobody changes: one at once, one at the deadline. -/
def alone (timeout : Timeout) (s : σ) : List (Sight σ) :=
  ⟨s, 0⟩ :: (timeout.deadline 0).toList.map (⟨s, ·⟩)

/-- When a consumer that nobody wakes looks before `moment`. -/
def clocksBefore (timeout : Timeout) (moment : Nanoseconds) : List Nanoseconds :=
  (0 :: (timeout.deadline 0).toList).filter fun clock => clock = 0 || clock < moment

/-- When a consumer that is woken at `moment` looks from then on. -/
def clocksFrom (timeout : Timeout) (moment : Nanoseconds) : List Nanoseconds :=
  moment :: (timeout.deadline 0).toList.map (max · moment)

end Timeout

/-- The result of a call made alone, and the state that it leaves: a failed call leaves the state
alone. A call that would sleep for ever counts as one whose time has run out. -/
def settle {σ ρ : Type} (s : σ) : Option (Except Failure (ρ × σ)) → Except Failure ρ × σ
  | some (.ok (result, t)) => (.ok result, t)
  | some (.error f) => (.error f, s)
  | none => (.error .timeout, s)

/-- What happens when a consumer calls `take` first and another thread runs `wake` between its looks at
the clock readings `before` and those `after`: the two results and the state in the end. If the
consumer's call ends before that, `wake` runs on the state that it leaves. There is no result while the
consumer still sleeps. -/
def interleave {σ ρ ω : Type} (take : List (Sight σ) → Option (Except Failure (ρ × σ)))
    (wake : σ → ω × σ) (before after : List Nanoseconds) (s : σ) :
    Option (Except Failure ρ × ω × σ) :=
  let looks := before.map (⟨s, ·⟩)
  match take looks with
  | some ended =>
    let (taken, s) := settle s (some ended)
    let (woke, s) := wake s
    some (taken, woke, s)
  | none =>
    let (woke, t) := wake s
    (take (looks ++ after.map (⟨t, ·⟩))).map fun ended =>
      let (taken, t) := settle t (some ended)
      (taken, woke, t)

/-- The same when `wake` runs at `moment`, and nothing else wakes the consumer. -/
def overtake {σ ρ ω : Type} (take : List (Sight σ) → Option (Except Failure (ρ × σ)))
    (wake : σ → ω × σ) (timeout : Timeout) (moment : Nanoseconds) (s : σ) :
    Option (Except Failure ρ × ω × σ) :=
  interleave take wake (timeout.clocksBefore moment) (timeout.clocksFrom moment) s

end SensorRelay
