import SensorRelay.Proofs.ByteQueue.Fifo
import SensorRelay.Proofs.Machine.Steps

/-! # The steps of a queue of bytes

The traced operations give what the operations give. An open queue has a ring whose sums stay in a
word and a storage of the ring's size, so that the two parts of every run lie inside; a closed one
refuses every call before it comes to a step.
-/
namespace SensorRelay
namespace ByteQueue

open Traced

/-! ## Traced operations -/

/-- The end of a run that is longer than the queue, or else the whole run. -/
def keptTraced (capacity : UInt64) (bytes : List UInt8) : Traced (List UInt8) :=
  if capacity.toNat < bytes.length then do
    check (.difference bytes.length capacity.toNat)
    sliceFrom bytes (bytes.length - capacity.toNat)
  else return bytes

def enqueueTraced (q : ByteQueue) (bytes : List UInt8) : Traced (Except Failure ByteQueue) :=
  if q.closed then return .error .invalidState
  else if bytes.isEmpty then return .ok q
  else do
    let kept ← keptTraced q.capacity bytes
    let n := UInt64.ofNat kept.length
    let run ← q.ring.runTraced q.ring.next n
    let storage ← run.writeTraced q.storage kept
    let ring ← q.ring.advanceTraced n
    return .ok { q with storage, ring }

def takeIntoTraced (q : ByteQueue) (buffer : List UInt8) :
    Traced (Except Failure (Nat × List UInt8 × ByteQueue)) :=
  if q.closed then return .error .invalidState
  else do
    let taken := UInt64.ofNat (min buffer.length q.ring.count.toNat)
    let start ← q.ring.oldestTraced
    let run ← q.ring.runTraced start taken
    let bytes ← run.readTraced q.storage buffer
    let ring ← q.ring.retireTraced taken
    return .ok (taken.toNat, bytes ++ buffer.drop taken.toNat, { q with ring })

def dequeueIntoTraced (q : ByteQueue) (buffer : List UInt8) (timeout : Timeout) :
    Traced (Option (Except Failure (Nat × List UInt8 × ByteQueue))) :=
  if buffer.isEmpty then return some (.error .invalidParameter)
  else match Wait.run pending timeout (timeout.alone q) with
    | .ready q => some <$> q.takeIntoTraced buffer
    | .expired => return some (.error .timeout)
    | .asleep => return none

def dequeueTraced (q : ByteQueue) (max : Nat) (timeout : Timeout) :
    Traced (Option (Except Failure (List UInt8 × ByteQueue))) :=
  if max = 0 then return some (.error .invalidParameter)
  else do
    let result ← q.dequeueIntoTraced (List.replicate (min max q.capacity.toNat) 0) timeout
    return result.map fun result => result.map fun (taken, buffer, left) => (buffer.take taken, left)

def performTraced (q : ByteQueue) : Call → Traced (Answer × ByteQueue)
  | .enqueue bytes => do
    match ← q.enqueueTraced bytes with
    | .error f => return (.done (.error f), q)
    | .ok left => return (.done (.ok ()), left)
  | .dequeue max timeout => do
    match ← q.dequeueTraced max timeout with
    | none => return (.taken none, q)
    | some (.error f) => return (.taken (some (.error f)), q)
    | some (.ok (bytes, left)) => return (.taken (some (.ok bytes)), left)
  | .dequeueInto buffer timeout => do
    match ← q.dequeueIntoTraced buffer timeout with
    | none => return (.filled none buffer, q)
    | some (.error f) => return (.filled (some (.error f)) buffer, q)
    | some (.ok (taken, buffer, left)) => return (.filled (some (.ok taken)) buffer, left)
  | .size => return (.number q.size, q)
  | .close => return match q.close with
    | .error f => (.done (.error f), q)
    | .ok left => (.done (.ok ()), left)

def runTraced (q : ByteQueue) : List Call → Traced (List Answer × ByteQueue)
  | [] => return ([], q)
  | call :: later => do
    let (answer, left) ← q.performTraced call
    let (answers, last) ← left.runTraced later
    return (answer :: answers, last)

/-! ## The same values -/

@[simp] theorem keptTraced_value (capacity : UInt64) (bytes : List UInt8) :
    (keptTraced capacity bytes).value = bytes.drop (bytes.length - capacity.toNat) := by
  rw [keptTraced]
  split
  · rfl
  · next hle =>
    rw [Nat.sub_eq_zero_of_le (Nat.le_of_not_lt hle)]
    rfl

@[simp] theorem enqueueTraced_value (q : ByteQueue) (bytes : List UInt8) :
    (q.enqueueTraced bytes).value = q.enqueue bytes := by
  rw [enqueueTraced, enqueue]
  split
  · rfl
  · split
    · rfl
    · simp

@[simp] theorem takeIntoTraced_value (q : ByteQueue) (buffer : List UInt8) :
    (q.takeIntoTraced buffer).value = q.takeInto buffer := by
  rw [takeIntoTraced, takeInto]
  split
  · rfl
  · simp

@[simp] theorem dequeueIntoTraced_value (q : ByteQueue) (buffer : List UInt8) (timeout : Timeout) :
    (q.dequeueIntoTraced buffer timeout).value = q.dequeueInto buffer timeout := by
  rw [dequeueIntoTraced, dequeueInto, dequeueIntoSeeing]
  split
  · rfl
  · cases Wait.run pending timeout (timeout.alone q) with
    | ready q => simp
    | expired => rfl
    | asleep => rfl

@[simp] theorem dequeueTraced_value (q : ByteQueue) (max : Nat) (timeout : Timeout) :
    (q.dequeueTraced max timeout).value = q.dequeue max timeout := by
  by_cases hmax : max = 0
  · rw [dequeueTraced, dequeue, dequeueSeeing, if_pos hmax, if_pos hmax]
    rfl
  · rw [dequeueTraced, if_neg hmax, dequeue_eq_dequeueInto hmax]
    simp

@[simp] theorem performTraced_value (q : ByteQueue) (call : Call) :
    (q.performTraced call).value = q.perform call := by
  cases call with
  | enqueue bytes =>
    simp only [performTraced, perform, bind_value, enqueueTraced_value]
    cases q.enqueue bytes with
    | error f => rfl
    | ok left => rfl
  | dequeue max timeout =>
    simp only [performTraced, perform, bind_value, dequeueTraced_value]
    rcases q.dequeue max timeout with _ | _ | _
    · rfl
    · rfl
    · rfl
  | dequeueInto buffer timeout =>
    simp only [performTraced, perform, bind_value, dequeueIntoTraced_value]
    rcases q.dequeueInto buffer timeout with _ | _ | _
    · rfl
    · rfl
    · rfl
  | size => rfl
  | close => rfl

theorem runTraced_value (q : ByteQueue) (calls : List Call) :
    (q.runTraced calls).value = q.run calls := by
  induction calls generalizing q with
  | nil => rfl
  | cons call later ih => simp [runTraced, run, ih]

/-! ## Safety -/

variable {q : ByteQueue} {l : Fifo} {bytes : List UInt8}

theorem keptTraced_safe (capacity : UInt64) (bytes : List UInt8) : (keptTraced capacity bytes).Safe := by
  rw [keptTraced]
  split
  · next hlt => exact .bind (.singleton hlt.le) (sliceFrom_safe (Nat.sub_le _ _))
  · exact .pure _

theorem Holds.enqueueTraced_safe (h : q.Holds bytes) (data : List UInt8) :
    (q.enqueueTraced data).Safe := by
  rw [enqueueTraced, h.opened, if_neg Bool.false_ne_true]
  split
  · exact .pure _
  · have hlt := h.ring.capacity_lt
    have hcap : q.ring.capacity.toNat = q.capacity.toNat := congrArg UInt64.toNat h.capacity
    have hkept : (data.drop (data.length - q.capacity.toNat)).length ≤ q.capacity.toNat := by
      rw [List.length_drop]
      omega
    have hword : (UInt64.ofNat (data.drop (data.length - q.capacity.toNat)).length).toNat =
        (data.drop (data.length - q.capacity.toNat)).length :=
      UInt64.toNat_ofNat_of_lt' (by change _ < 2 ^ 64; omega)
    refine .bind (keptTraced_safe _ _) ?_
    rw [keptTraced_value]
    obtain ⟨hinside,hparts⟩ := Ring.run_inside h.ring h.size h.ring.next_lt.le
      (n := .ofNat (data.drop (data.length - q.capacity.toNat)).length) (by omega)
    exact .bind (Ring.runTraced_safe h.ring.next_lt.le)
      (.bind (hinside.writeTraced_safe (hparts.trans hword))
        (.bind (h.ring.advanceTraced_safe (by omega)) (.pure _)))

theorem Holds.takeIntoTraced_safe (h : q.Holds bytes) (buffer : List UInt8) :
    (q.takeIntoTraced buffer).Safe := by
  have hcount := h.ring.count_le
  have hword : (UInt64.ofNat (min buffer.length q.ring.count.toNat)).toNat =
      min buffer.length q.ring.count.toNat :=
    UInt64.toNat_ofNat_of_lt' (lt_of_le_of_lt (Nat.min_le_right _ _) q.ring.count.toNat_lt)
  have hold : q.ring.oldest.toNat ≤ q.ring.capacity.toNat := by
    rw [h.ring.oldest_toNat]
    exact (h.ring.position_lt 0).le
  obtain ⟨hinside,hparts⟩ := Ring.run_inside h.ring h.size hold
    (n := .ofNat (min buffer.length q.ring.count.toNat)) (by omega)
  rw [takeIntoTraced, h.opened, if_neg Bool.false_ne_true]
  exact .bind h.ring.oldestTraced_safe
    (.bind (Ring.runTraced_safe hold) (.bind (hinside.readTraced_safe (by omega))
      (.bind (Ring.retireTraced_safe (by omega)) (.pure _))))

/-- A call alone comes to the queue itself, or does not come to it at all. -/
theorem dequeueIntoTraced_safe (h : ∀ buffer, (q.takeIntoTraced buffer).Safe) (buffer : List UInt8)
    (timeout : Timeout) : (q.dequeueIntoTraced buffer timeout).Safe := by
  rw [dequeueIntoTraced]
  split
  · exact .pure _
  · rcases Wait.run_alone_cases pending q timeout with ⟨-,hrun⟩ | hrun | hrun
    · rw [hrun]
      exact (h buffer).map _
    · rw [hrun]
      exact .pure _
    · rw [hrun]
      exact .pure _

theorem dequeueTraced_safe (h : ∀ buffer, (q.takeIntoTraced buffer).Safe) (max : Nat)
    (timeout : Timeout) : (q.dequeueTraced max timeout).Safe := by
  rw [dequeueTraced]
  split
  · exact .pure _
  · exact .bind (dequeueIntoTraced_safe h _ timeout) (.pure _)

/-! ## A closed queue -/

theorem dequeueIntoTraced_of_closed (h : q.closed = true) (buffer : List UInt8) (timeout : Timeout) :
    ∃ f, q.dequeueIntoTraced buffer timeout = pure (some (.error f)) := by
  have hready : q.pending = false := by simp [pending, h]
  have htake : q.takeIntoTraced buffer = pure (.error .invalidState) := if_pos h
  rw [dequeueIntoTraced, Wait.run_alone_of_ready hready]
  split
  · exact ⟨.invalidParameter,rfl⟩
  · exact ⟨.invalidState,congrArg (some <$> ·) htake⟩

theorem dequeueTraced_of_closed (h : q.closed = true) (max : Nat) (timeout : Timeout) :
    ∃ f, q.dequeueTraced max timeout = pure (some (.error f)) := by
  rw [dequeueTraced]
  split
  · exact ⟨.invalidParameter,rfl⟩
  · obtain ⟨f,hf⟩ :=
      dequeueIntoTraced_of_closed h (List.replicate (min max q.capacity.toNat) 0) timeout
    exact ⟨f,by rw [hf]; rfl⟩

/-- A call on a closed queue comes to no step. -/
theorem performTraced_of_closed (h : q.closed = true) (call : Call) :
    ∃ answer, q.performTraced call = pure (answer,q) := by
  cases call with
  | enqueue bytes => exact ⟨.done (.error .invalidState),by rw [performTraced, enqueueTraced, if_pos h]; rfl⟩
  | dequeue max timeout =>
    obtain ⟨f,hf⟩ := dequeueTraced_of_closed h max timeout
    exact ⟨.taken (some (.error f)),by rw [performTraced, hf]; rfl⟩
  | dequeueInto buffer timeout =>
    obtain ⟨f,hf⟩ := dequeueIntoTraced_of_closed h buffer timeout
    exact ⟨.filled (some (.error f)) buffer,by rw [performTraced, hf]; rfl⟩
  | size => exact ⟨.number q.size,rfl⟩
  | close => exact ⟨.done (.error .invalidState),by rw [performTraced, close, if_pos h]⟩

theorem runTraced_of_closed (h : q.closed = true) (calls : List Call) :
    (q.runTraced calls).steps = [] := by
  induction calls with
  | nil => rfl
  | cons call later ih =>
    obtain ⟨answer,hcall⟩ := performTraced_of_closed h call
    rw [runTraced, hcall]
    simpa using ih

/-! ## A whole run -/

theorem Implements.performTraced_safe (h : Implements q l) (call : Call) :
    (q.performTraced call).Safe := by
  cases h with
  | closed hq hl hpos =>
    obtain ⟨answer,hcall⟩ := performTraced_of_closed hq call
    rw [hcall]
    exact .pure _
  | opened holds hopen capacity =>
    cases call with
    | enqueue bytes =>
      refine .bind (holds.enqueueTraced_safe bytes) ?_
      split
      · exact .pure _
      · exact .pure _
    | dequeue max timeout =>
      refine .bind (dequeueTraced_safe holds.takeIntoTraced_safe max timeout) ?_
      split
      · exact .pure _
      · exact .pure _
      · exact .pure _
    | dequeueInto buffer timeout =>
      refine .bind (dequeueIntoTraced_safe holds.takeIntoTraced_safe buffer timeout) ?_
      split
      · exact .pure _
      · exact .pure _
      · exact .pure _
    | size => exact .pure _
    | close => exact .pure _

theorem Implements.runTraced_safe (h : Implements q l) (calls : List Call) :
    (q.runTraced calls).Safe := by
  induction calls generalizing q l with
  | nil => exact .pure _
  | cons call later ih =>
    refine .bind (h.performTraced_safe call) ?_
    rw [performTraced_value]
    exact .bind (ih (h.perform call).2) (.pure _)

/-- A run of calls gives what it gives in sound steps, and once the queue is closed there are no more
steps. -/
structure Faultless (q : ByteQueue) (calls : List Call) : Prop where
  value : (q.runTraced calls).value = q.run calls
  safe : (q.runTraced calls).Safe
  silent : (q.run calls).2.closed = true → ∀ later, ((q.run calls).2.runTraced later).steps = []

theorem Implements.faultless (h : Implements q l) (calls : List Call) : q.Faultless calls where
  value := q.runTraced_value calls
  safe := h.runTraced_safe calls
  silent := runTraced_of_closed

end ByteQueue
end SensorRelay
