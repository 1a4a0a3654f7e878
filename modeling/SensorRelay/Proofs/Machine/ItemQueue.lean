import SensorRelay.Proofs.ItemQueue.Poisoning
import SensorRelay.Proofs.Machine.ByteQueue

/-! # The steps of a queue of items

For the steps it does not matter what the slots hold. A queue that takes calls has a ring whose sums
stay in a word and as many slots as the ring counts; every call keeps that or closes the queue,
whatever the destructor does.
-/
namespace SensorRelay
namespace ItemQueue

open Traced

variable {α : Type}

/-! ## Traced operations -/

/-- The item in a slot, and the slots without it. -/
def takeSlot (slots : Array (Option α)) (slot : UInt64) : Traced (Option α × Array (Option α)) :=
  ⟨(item? slots slot,vacate slots slot),[.slot slot.toNat slots.size]⟩

def putSlot (slots : Array (Option α)) (slot : UInt64) (item : α) : Traced (Array (Option α)) :=
  ⟨slots.setIfInBounds slot.toNat (some item),[.slot slot.toNat slots.size]⟩

def drainFromTraced (destructor : Option (Destructor α)) (ring : Ring) :
    Nat → UInt64 → Array (Option α) → Traced (Drained α)
  | 0, _, slots => return ⟨slots, [], none⟩
  | n + 1, k, slots => do
    let slot ← ring.slotAtTraced k
    let (item, vacated) ← takeSlot slots slot
    let next ← add k 1
    match item with
    | none => drainFromTraced destructor ring n next slots
    | some item =>
      let (destroyed, failed) := discard destructor item
      if failed then return ⟨vacated, destroyed, some item⟩
      else
        let rest ← drainFromTraced destructor ring n next vacated
        return { rest with destroyed := destroyed ++ rest.destroyed }

def drainTraced (q : ItemQueue α) : Traced (Effect α Unit) := do
  let drained ← drainFromTraced q.destructor q.ring q.ring.count.toNat 0 q.slots
  match drained.failedOn with
  | some item =>
    return ⟨.failedOn item, drained.destroyed, { q with slots := drained.slots, poisoned := true }⟩
  | none =>
    return ⟨.returned (), drained.destroyed, { q with slots := drained.slots, ring := q.ring.reset }⟩

def storeTraced (q : ItemQueue α) (item : α) : Traced (ItemQueue α) := do
  let slots ← putSlot q.slots q.ring.next item
  let ring ← q.ring.advanceTraced 1
  return { q with slots, ring }

def evictTraced (q : ItemQueue α) : Traced (Effect α Unit) := do
  let slot ← q.ring.oldestTraced
  let (item, vacated) ← takeSlot q.slots slot
  match item with
  | none =>
    let ring ← q.ring.retireTraced 1
    return .returning { q with ring } ()
  | some item =>
    let (destroyed, failed) := discard q.destructor item
    if failed then
      return ⟨.failedOn item, destroyed, { q with slots := vacated, poisoned := true }⟩
    else
      let ring ← q.ring.retireTraced 1
      return ⟨.returned (), destroyed, { q with slots := vacated, ring }⟩

def enqueueTraced (q : ItemQueue α) (item : α) : Traced (Effect α (Except (Refusal α) Unit)) :=
  if q.isClosed then return .returning q (.error ⟨.invalidState, item⟩)
  else if q.ring.isFull then
    match q.overflow with
    | .avoidDrop => return .returning q (.error ⟨.queueFull, item⟩)
    | .dropOldest => do
      let evicted ← q.evictTraced
      match evicted.ending with
      | .failedOn oldest => return ⟨.failedOn oldest, evicted.destroyed, evicted.queue⟩
      | .returned () =>
        let left ← evicted.queue.storeTraced item
        return ⟨.returned (.ok ()), evicted.destroyed, left⟩
  else do
    let left ← q.storeTraced item
    return .returning left (.ok ())

def takeTraced (q : ItemQueue α) : Traced (Except Failure (Option α × ItemQueue α)) :=
  if q.isClosed then return .error .invalidState
  else do
    let slot ← q.ring.oldestTraced
    let (item, vacated) ← takeSlot q.slots slot
    let ring ← q.ring.retireTraced 1
    return .ok (item, { q with slots := vacated, ring })

def dequeueTraced (q : ItemQueue α) (timeout : Timeout) :
    Traced (Option (Except Failure (Option α × ItemQueue α))) :=
  match Wait.run pending timeout (timeout.alone q) with
  | .ready q => some <$> q.takeTraced
  | .expired => return some (.error .timeout)
  | .asleep => return none

def clearTraced (q : ItemQueue α) : Traced (Effect α (Except Failure Nat)) :=
  if q.isClosed then return .returning q (.error .invalidState)
  else do
    let drained ← q.drainTraced
    match drained.ending with
    | .failedOn item => return ⟨.failedOn item, drained.destroyed, drained.queue⟩
    | .returned () => return ⟨.returned (.ok q.ring.count.toNat), drained.destroyed, drained.queue⟩

def closeTraced (q : ItemQueue α) : Traced (Effect α (Except Failure Unit)) :=
  if q.isClosed then return .returning q (.error .invalidState)
  else do
    let drained ← q.drainTraced
    match drained.ending with
    | .failedOn item => return ⟨.failedOn item, drained.destroyed, drained.queue⟩
    | .returned () =>
      return ⟨.returned (.ok ()), drained.destroyed,
        { drained.queue with slots := #[], closed := true }⟩

def releaseTraced (q : ItemQueue α) : Traced (Effect α Unit) :=
  if q.isClosed then return .returning q () else q.drainTraced

def dequeueEffectTraced (q : ItemQueue α) (timeout : Timeout) :
    Traced (Effect α (Option (Except Failure α))) := do
  match ← q.dequeueTraced timeout with
  | none => return .returning q none
  | some (.error f) => return .returning q (some (.error f))
  | some (.ok (item, left)) => return .returning left (some (delivered (.ok item)))

def performTraced (q : ItemQueue α) : Call α → Traced (Effect α (Answer α))
  | .enqueue item => Effect.map .stored <$> q.enqueueTraced item
  | .dequeue timeout => Effect.map .taken <$> q.dequeueEffectTraced timeout
  | .clear => Effect.map .number <$> q.clearTraced
  | .size => return .returning q (.number q.size)
  | .isClosed => return .returning q (.flag q.isClosed)
  | .close => Effect.map .done <$> q.closeTraced

def runTraced (q : ItemQueue α) : List (Call α) → Traced (List (Event α) × ItemQueue α)
  | [] => return ([], q)
  | call :: later => do
    let effect ← q.performTraced call
    let (events, left) ← effect.queue.runTraced later
    return (⟨call, effect.ending, effect.destroyed⟩ :: events, left)

/-! ## The same values -/

@[simp] theorem drainFromTraced_value (destructor : Option (Destructor α)) (ring : Ring) (n : Nat)
    (k : UInt64) (slots : Array (Option α)) :
    (drainFromTraced destructor ring n k slots).value = drainFrom destructor ring n k slots := by
  induction n generalizing k slots with
  | zero => rfl
  | succ n ih =>
    simp only [drainFromTraced, drainFrom, takeSlot, bind_value, Ring.slotAtTraced_value, add_value]
    cases item? slots (ring.slotAt k) with
    | none => exact ih _ _
    | some item =>
      cases hfailed : (discard destructor item).2 with
      | true => simp [hfailed]
      | false => simp [hfailed, ih]

@[simp] theorem drainTraced_value (q : ItemQueue α) : q.drainTraced.value = q.drain := by
  simp only [drainTraced, drain, bind_value, drainFromTraced_value]
  cases (drainFrom q.destructor q.ring q.ring.count.toNat 0 q.slots).failedOn with
  | none => rfl
  | some item => rfl

@[simp] theorem storeTraced_value (q : ItemQueue α) (item : α) :
    (q.storeTraced item).value = q.store item := rfl

@[simp] theorem evictTraced_value (q : ItemQueue α) : q.evictTraced.value = q.evict := by
  simp only [evictTraced, evict, takeSlot, bind_value, Ring.oldestTraced_value]
  cases item? q.slots q.ring.oldest with
  | none => rfl
  | some item =>
    cases hfailed : (discard q.destructor item).2 with
    | true => simp [hfailed]
    | false => simp [hfailed]

@[simp] theorem enqueueTraced_value (q : ItemQueue α) (item : α) :
    (q.enqueueTraced item).value = q.enqueue item := by
  rw [enqueueTraced, enqueue]
  split
  · rfl
  · split
    · cases q.overflow with
      | avoidDrop => rfl
      | dropOldest =>
        simp only [bind_value, evictTraced_value]
        cases q.evict.ending with
        | failedOn oldest => rfl
        | returned done => rfl
    · rfl

@[simp] theorem takeTraced_value (q : ItemQueue α) : q.takeTraced.value = q.take := by
  rw [takeTraced, take]
  split
  · rfl
  · rfl

@[simp] theorem dequeueTraced_value (q : ItemQueue α) (timeout : Timeout) :
    (q.dequeueTraced timeout).value = q.dequeue timeout := by
  rw [dequeueTraced, dequeue, dequeueSeeing]
  cases Wait.run pending timeout (timeout.alone q) with
  | ready q => simp
  | expired => rfl
  | asleep => rfl

@[simp] theorem clearTraced_value (q : ItemQueue α) : q.clearTraced.value = q.clear := by
  rw [clearTraced, clear]
  split
  · rfl
  · simp only [bind_value, drainTraced_value]
    cases q.drain.ending with
    | failedOn item => rfl
    | returned done => rfl

@[simp] theorem closeTraced_value (q : ItemQueue α) : q.closeTraced.value = q.close := by
  rw [closeTraced, close]
  split
  · rfl
  · simp only [bind_value, drainTraced_value]
    cases q.drain.ending with
    | failedOn item => rfl
    | returned done => rfl

@[simp] theorem releaseTraced_value (q : ItemQueue α) : q.releaseTraced.value = q.release := by
  rw [releaseTraced, release]
  split
  · rfl
  · exact q.drainTraced_value

@[simp] theorem dequeueEffectTraced_value (q : ItemQueue α) (timeout : Timeout) :
    (q.dequeueEffectTraced timeout).value = q.dequeueEffect timeout := by
  simp only [dequeueEffectTraced, dequeueEffect, bind_value, dequeueTraced_value]
  rcases q.dequeue timeout with _ | _ | _
  · rfl
  · rfl
  · rfl

@[simp] theorem performTraced_value (q : ItemQueue α) (call : Call α) :
    (q.performTraced call).value = q.perform call := by
  cases call with
  | enqueue item => simp [performTraced, perform]
  | dequeue timeout => simp [performTraced, perform]
  | clear => simp [performTraced, perform]
  | size => rfl
  | isClosed => rfl
  | close => simp [performTraced, perform]

theorem runTraced_value (q : ItemQueue α) (calls : List (Call α)) :
    (q.runTraced calls).value = q.run calls := by
  induction calls generalizing q with
  | nil => rfl
  | cons call later ih => simp [runTraced, run, ih]

/-! ## What every call keeps -/

/-- A ring and the slots that belong to it. -/
structure Fitted (q : ItemQueue α) : Prop where
  ring : q.ring.WellFormed
  size : q.slots.size = q.ring.capacity.toNat

variable {q : ItemQueue α}

theorem vacate_size (slots : Array (Option α)) (slot : UInt64) : (vacate slots slot).size = slots.size :=
  Array.size_setIfInBounds

theorem drainFrom_size (destructor : Option (Destructor α)) (ring : Ring) (n : Nat) (k : UInt64)
    (slots : Array (Option α)) :
    (drainFrom destructor ring n k slots).slots.size = slots.size := by
  induction n generalizing k slots with
  | zero => rfl
  | succ n ih =>
    rw [drainFrom]
    cases item? slots (ring.slotAt k) with
    | none => exact ih _ _
    | some item =>
      cases hfailed : (discard destructor item).2 with
      | true => simp [hfailed, vacate_size]
      | false => simp [hfailed, ih, vacate_size]

theorem Fitted.drain (h : q.Fitted) : q.drain.queue.Fitted := by
  have hsize := (drainFrom_size q.destructor q.ring q.ring.count.toNat 0 q.slots).trans h.size
  rw [ItemQueue.drain]
  cases (drainFrom q.destructor q.ring q.ring.count.toNat 0 q.slots).failedOn with
  | none => exact ⟨h.ring.reset,hsize⟩
  | some item => exact ⟨h.ring,hsize⟩

theorem Fitted.store (h : q.Fitted) (item : α) : (q.store item).Fitted :=
  ⟨h.ring.advance h.ring.capacity_pos,Array.size_setIfInBounds.trans h.size⟩

theorem Fitted.evict (h : q.Fitted) : q.evict.queue.Fitted := by
  have hsize := (vacate_size q.slots q.ring.oldest).trans h.size
  rw [ItemQueue.evict]
  cases item? q.slots q.ring.oldest with
  | none => exact ⟨h.ring.retire 1,h.size⟩
  | some item =>
    cases hfailed : (discard q.destructor item).2 with
    | true =>
      simp only [hfailed, ↓reduceIte]
      exact ⟨h.ring,hsize⟩
    | false =>
      simp only [hfailed, Bool.false_eq_true, ↓reduceIte]
      exact ⟨h.ring.retire 1,hsize⟩

theorem Fitted.enqueue (h : q.Fitted) (item : α) : (q.enqueue item).queue.Fitted := by
  rw [ItemQueue.enqueue]
  split
  · exact h
  · split
    · cases q.overflow with
      | avoidDrop => exact h
      | dropOldest =>
        cases hending : q.evict.ending with
        | failedOn oldest =>
          simp only [hending]
          exact h.evict
        | returned done =>
          simp only [hending]
          exact h.evict.store item
    · exact h.store item

theorem Fitted.take (h : q.Fitted) {item : Option α} {left : ItemQueue α}
    (htake : q.take = .ok (item,left)) : left.Fitted := by
  rw [ItemQueue.take] at htake
  split at htake
  · cases htake
  · cases htake
    exact ⟨h.ring.retire 1,(vacate_size _ _).trans h.size⟩

theorem Fitted.dequeueEffect (h : q.Fitted) (timeout : Timeout) :
    (q.dequeueEffect timeout).queue.Fitted := by
  rw [ItemQueue.dequeueEffect]
  split
  · exact h
  · exact h
  · next hdequeue => exact h.take (take_of_dequeue hdequeue)

theorem Fitted.clear (h : q.Fitted) : q.clear.queue.Fitted := by
  rw [ItemQueue.clear]
  split
  · exact h
  · dsimp only
    split
    · exact h.drain
    · exact h.drain

/-- Fitted, or closed to all calls. -/
def Intact (q : ItemQueue α) : Prop := q.isClosed = true ∨ q.Fitted

theorem Fitted.close (h : q.Fitted) : q.close.queue.Intact := by
  rw [ItemQueue.close]
  split
  · exact .inr h
  · dsimp only
    split
    · exact .inr h.drain
    · exact .inl (Bool.or_true _)

theorem Intact.perform (h : q.Intact) (call : Call α) : (q.perform call).queue.Intact := by
  rcases h with h | h
  · rw [perform_of_isClosed h]
    exact .inl h
  · cases call with
    | enqueue item => exact .inr (h.enqueue item)
    | dequeue timeout => exact .inr (h.dequeueEffect timeout)
    | clear => exact .inr h.clear
    | size => exact .inr h
    | isClosed => exact .inr h
    | close => exact h.close

theorem Intact.run (h : q.Intact) (calls : List (Call α)) : (q.run calls).2.Intact := by
  induction calls generalizing q with
  | nil => exact h
  | cons call later ih => exact ih (h.perform call)

/-! ## Safety -/

theorem takeSlot_safe {slots : Array (Option α)} {slot : UInt64} (h : slot.toNat < slots.size) :
    (takeSlot slots slot).Safe := .singleton h

theorem drainFromTraced_safe (destructor : Option (Destructor α)) {ring : Ring}
    (hring : ring.WellFormed) (n : Nat) (k : UInt64) (hk : k.toNat + n ≤ ring.count.toNat)
    {slots : Array (Option α)} (hsize : slots.size = ring.capacity.toNat) :
    (drainFromTraced destructor ring n k slots).Safe := by
  -- What is left to drain and the place it starts from stay within the count, which keeps the sums of
  -- `slotAt` in a word.
  induction n generalizing k slots with
  | zero => exact .pure _
  | succ n ih =>
    have hcount := hring.count_le
    have hmax := hring.capacity_lt
    have hslot : (ring.slotAt k).toNat < slots.size := by
      rw [hring.slotAt_toNat (by omega), hsize]
      exact hring.position_lt _
    have hnext : (k + 1).toNat = k.toNat + 1 := by
      rw [UInt64.toNat_add]
      exact Nat.mod_eq_of_lt (by change k.toNat + 1 < _; omega)
    refine .bind (hring.slotAtTraced_safe (by omega) (by omega)) (.bind (takeSlot_safe hslot)
      (.bind (.singleton (by change k.toNat + 1 < 2 ^ 64; omega)) ?_))
    simp only [Ring.slotAtTraced_value, takeSlot, add_value]
    cases item? slots (ring.slotAt k) with
    | none => exact ih (k + 1) (by omega) hsize
    | some item =>
      have hrest := ih (k + 1) (by omega) ((vacate_size slots (ring.slotAt k)).trans hsize)
      cases hfailed : (discard destructor item).2 with
      | true =>
        simp only [hfailed, ↓reduceIte]
        exact .pure _
      | false =>
        simp only [hfailed, Bool.false_eq_true, ↓reduceIte]
        exact .bind hrest (.pure _)

theorem Fitted.drainTraced_safe (h : q.Fitted) : q.drainTraced.Safe := by
  refine .bind (drainFromTraced_safe q.destructor h.ring _ 0 (Nat.zero_add _).le h.size) ?_
  split
  · exact .pure _
  · exact .pure _

theorem Fitted.storeTraced_safe (h : q.Fitted) (item : α) : (q.storeTraced item).Safe :=
  .bind (.singleton (h.size ▸ h.ring.next_lt))
    (.bind (h.ring.advanceTraced_safe h.ring.capacity_pos) (.pure _))

theorem Fitted.oldest_lt (h : q.Fitted) : q.ring.oldest.toNat < q.slots.size := by
  rw [h.ring.oldest_toNat, h.size]
  exact h.ring.position_lt 0

theorem Fitted.evictTraced_safe (h : q.Fitted) (hcount : 0 < q.ring.count.toNat) :
    q.evictTraced.Safe := by
  refine .bind h.ring.oldestTraced_safe (.bind (takeSlot_safe h.oldest_lt) ?_)
  have hretire : (q.ring.retireTraced 1).Safe := Ring.retireTraced_safe hcount
  simp only [takeSlot]
  split
  · exact .bind hretire (.pure _)
  · split
    · exact .pure _
    · exact .bind hretire (.pure _)

theorem Fitted.enqueueTraced_safe (h : q.Fitted) (item : α) : (q.enqueueTraced item).Safe := by
  rw [enqueueTraced]
  split
  · exact .pure _
  · split
    · next hfull =>
      have hcount : 0 < q.ring.count.toNat := by
        rw [q.ring.isFull_iff.mp hfull]
        exact h.ring.capacity_pos
      cases q.overflow with
      | avoidDrop => exact .pure _
      | dropOldest =>
        refine .bind (h.evictTraced_safe hcount) ?_
        rw [evictTraced_value]
        split
        · exact .pure _
        · exact .bind (h.evict.storeTraced_safe item) (.pure _)
    · exact .bind (h.storeTraced_safe item) (.pure _)

theorem Fitted.takeTraced_safe (h : q.Fitted) (hready : q.pending = false) : q.takeTraced.Safe := by
  rw [takeTraced]
  split
  · exact .pure _
  · next hopen =>
    have hcount : 0 < q.ring.count.toNat := by
      refine Nat.pos_of_ne_zero fun hzero => ?_
      simp [pending, hopen, q.ring.isEmpty_iff.mpr hzero] at hready
    exact .bind h.ring.oldestTraced_safe (.bind (takeSlot_safe h.oldest_lt)
      (.bind (Ring.retireTraced_safe hcount) (.pure _)))

theorem Fitted.dequeueTraced_safe (h : q.Fitted) (timeout : Timeout) : (q.dequeueTraced timeout).Safe := by
  rw [dequeueTraced]
  rcases Wait.run_alone_cases pending q timeout with ⟨hready,hrun⟩ | hrun | hrun
  · rw [hrun]
    exact (h.takeTraced_safe hready).map _
  · rw [hrun]
    exact .pure _
  · rw [hrun]
    exact .pure _

theorem Fitted.clearTraced_safe (h : q.Fitted) : q.clearTraced.Safe := by
  rw [clearTraced]
  split
  · exact .pure _
  · refine .bind h.drainTraced_safe ?_
    split
    · exact .pure _
    · exact .pure _

theorem Fitted.closeTraced_safe (h : q.Fitted) : q.closeTraced.Safe := by
  rw [closeTraced]
  split
  · exact .pure _
  · refine .bind h.drainTraced_safe ?_
    split
    · exact .pure _
    · exact .pure _

theorem Fitted.performTraced_safe (h : q.Fitted) (call : Call α) : (q.performTraced call).Safe := by
  cases call with
  | enqueue item => exact (h.enqueueTraced_safe item).map _
  | dequeue timeout =>
    refine Safe.map (.bind (h.dequeueTraced_safe timeout) ?_) _
    split
    · exact .pure _
    · exact .pure _
    · exact .pure _
  | clear => exact h.clearTraced_safe.map _
  | size => exact .pure _
  | isClosed => exact .pure _
  | close => exact h.closeTraced_safe.map _

/-! ## A closed queue -/

/-- A call on a closed queue comes to no step. -/
theorem performTraced_steps_of_isClosed (h : q.isClosed = true) (call : Call α) :
    (q.performTraced call).steps = [] := by
  have hready : q.pending = false := by simp [pending, h]
  cases call with
  | enqueue item => simp [performTraced, enqueueTraced, h]
  | dequeue timeout =>
    simp [performTraced, dequeueEffectTraced, dequeueTraced, Wait.run_alone_of_ready hready, takeTraced, h]
  | clear => simp [performTraced, clearTraced, h]
  | size => rfl
  | isClosed => rfl
  | close => simp [performTraced, closeTraced, h]

theorem runTraced_steps_of_isClosed (h : q.isClosed = true) (calls : List (Call α)) :
    (q.runTraced calls).steps = [] := by
  induction calls with
  | nil => rfl
  | cons call later ih =>
    have hleft : (q.perform call).queue = q := by
      rw [perform_of_isClosed h]
      rfl
    simp [runTraced, performTraced_steps_of_isClosed h, hleft, ih]

/-! ## A whole run -/

theorem Intact.performTraced_safe (h : q.Intact) (call : Call α) : (q.performTraced call).Safe := by
  rcases h with h | h
  · exact .of_steps_eq_nil (performTraced_steps_of_isClosed h call)
  · exact h.performTraced_safe call

theorem Intact.runTraced_safe (h : q.Intact) (calls : List (Call α)) : (q.runTraced calls).Safe := by
  induction calls generalizing q with
  | nil => exact .pure _
  | cons call later ih =>
    refine .bind (h.performTraced_safe call) ?_
    rw [performTraced_value]
    exact .bind (ih (h.perform call)) (.pure _)

theorem Intact.releaseTraced_safe (h : q.Intact) : q.releaseTraced.Safe := by
  rw [releaseTraced]
  split
  · exact .pure _
  · next hopen =>
    rcases h with h | h
    · exact absurd h hopen
    · exact h.drainTraced_safe

theorem fresh_fitted {capacity : UInt64} (hpos : 0 < capacity.toNat) (hlt : capacity.toNat < 2 ^ 63)
    (overflow : Overflow) (destructor : Option (Destructor α)) :
    (fresh capacity overflow destructor).Fitted :=
  ⟨Ring.empty_wellFormed hpos hlt,Array.size_replicate⟩

/-- A run of calls and the release of the queue after it give what they give in sound steps, and once
the queue is closed there are no more steps. -/
structure Faultless (q : ItemQueue α) (calls : List (Call α)) : Prop where
  value : (q.runTraced calls).value = q.run calls
  safe : (q.runTraced calls).Safe
  release_value : (q.run calls).2.releaseTraced.value = (q.run calls).2.release
  release_safe : (q.run calls).2.releaseTraced.Safe
  silent : (q.run calls).2.isClosed = true →
    (∀ later, ((q.run calls).2.runTraced later).steps = []) ∧ (q.run calls).2.releaseTraced.steps = []

theorem Intact.faultless (h : q.Intact) (calls : List (Call α)) : q.Faultless calls where
  value := q.runTraced_value calls
  safe := h.runTraced_safe calls
  release_value := releaseTraced_value _
  release_safe := (h.run calls).releaseTraced_safe
  silent := by
    intro hclosed
    refine ⟨runTraced_steps_of_isClosed hclosed,?_⟩
    rw [releaseTraced, if_pos hclosed]
    rfl

end ItemQueue

/-! ## Both queues -/

/-- In every run of calls of a queue of bytes or of items, of any capacity that can be allocated, every
index and slice is in range, every sum and difference fits a word and every assertion holds. -/
theorem queues_faultless {capacity : UInt64} (hpos : 0 < capacity.toNat)
    (hlt : capacity.toNat < 2 ^ 63) :
    (∃ q, ByteQueue.create capacity = .ok q ∧ ∀ calls, q.Faultless calls) ∧
    ∀ (α : Type) (overflow : Overflow) (destructor : Option (Destructor α)),
      ∃ q, ItemQueue.create capacity overflow destructor = .ok q ∧ ∀ calls, q.Faultless calls := by
  constructor
  · refine ⟨_,ByteQueue.create_eq_ok hpos hlt,?_⟩
    intro calls
    have himplements : (ByteQueue.fresh capacity).Implements { capacity := capacity.toNat } :=
      .opened (ByteQueue.fresh_holds hpos hlt) rfl rfl
    exact himplements.faultless calls
  · intro α overflow destructor
    refine ⟨_,ItemQueue.create_eq_ok hpos hlt overflow destructor,?_⟩
    intro calls
    have hintact : (ItemQueue.fresh capacity overflow destructor).Intact :=
      .inr (ItemQueue.fresh_fitted hpos hlt overflow destructor)
    exact hintact.faultless calls

/-- Two slots: a cut run, a write round the end and an eviction, and calls after the close. What a call
that adds and one that takes come to is written out. -/
theorem queues_faultless_two_slots :
    (0 < (2 : UInt64).toNat ∧ (2 : UInt64).toNat < 2 ^ 63) ∧
    (∃ q, ByteQueue.create 2 = .ok q ∧
      q.Faultless [.enqueue [1, 2, 3], .dequeue 1 .poll, .enqueue [4], .dequeueInto [0, 0, 0] .poll,
        .close, .enqueue [5]] ∧
      (q.runTraced [.enqueue [1, 2, 3]]).steps =
        [.difference 3 2, .slice 1 3 3, .difference 2 0, .difference 2 2, .sum 0 2, .slice 0 2 2,
          .sum 0 2, .slice 0 2 2, .copy 2 2, .slice 2 2 2, .sum 0 0, .slice 0 0 2, .copy 0 0,
          .sum 0 2, .remainder 2, .sum 0 2] ∧
      ((q.run [.enqueue [1, 2, 3]]).2.runTraced [.dequeue 1 .poll]).steps =
        [.below 0 2, .sum 0 2, .difference 2 2, .sum 0 0, .remainder 2, .difference 2 0,
          .difference 1 1, .sum 0 1, .slice 0 1 2, .sum 0 1, .slice 0 1 1, .copy 1 1, .sum 0 0,
          .slice 0 0 2, .sum 1 0, .slice 1 1 1, .copy 0 0, .atMost 1 2, .difference 2 1]) ∧
    ∃ q : ItemQueue Nat, ItemQueue.create 2 .dropOldest none = .ok q ∧
      q.Faultless [.enqueue 1, .enqueue 2, .enqueue 3, .dequeue .poll, .clear, .enqueue 4, .close,
        .clear] ∧
      (q.runTraced [.enqueue 1]).steps = [.slot 0 2, .sum 0 1, .remainder 2, .sum 0 1] ∧
      ((q.run [.enqueue 1]).2.runTraced [.dequeue .poll]).steps =
        [.below 0 2, .sum 1 2, .difference 3 1, .sum 2 0, .remainder 2, .slot 0 2, .atMost 1 1,
          .difference 1 1] := by
  have hpos : 0 < (2 : UInt64).toNat := by decide
  have hlt : (2 : UInt64).toNat < 2 ^ 63 := by decide
  obtain ⟨⟨bytes,hbytes,hbytesRun⟩,hitems⟩ := queues_faultless hpos hlt
  obtain ⟨items,hcreate,hitemsRun⟩ := hitems Nat .dropOldest none
  have hfreshBytes : ByteQueue.fresh 2 = bytes :=
    Except.ok.inj ((ByteQueue.create_eq_ok hpos hlt).symm.trans hbytes)
  have hfreshItems : ItemQueue.fresh 2 .dropOldest none = items :=
    Except.ok.inj ((ItemQueue.create_eq_ok hpos hlt _ _).symm.trans hcreate)
  subst hfreshBytes hfreshItems
  refine ⟨⟨hpos,hlt⟩,⟨_,hbytes,hbytesRun _,?_,?_⟩,_,hcreate,hitemsRun _,?_,?_⟩
  all_goals decide +kernel

end SensorRelay
