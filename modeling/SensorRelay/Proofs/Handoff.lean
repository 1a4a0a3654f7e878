import SensorRelay.Frame
import SensorRelay.Proofs.ByteQueue.Buffer
import SensorRelay.Proofs.ItemQueue.Reachable
import SensorRelay.Proofs.Wait.Handoff

/-! # A blocked dequeue and the call that wakes it

A consumer may sleep in a dequeue while another thread puts something in or closes the queue. From every
state that a queue can reach, and whenever the consumer happens to look, the two calls answer and leave
the queue as they would one after the other. What has to hold of the queues for that is that each of
these calls notifies, and that it ends the condition on which the consumer sleeps.
-/
namespace SensorRelay

/-! ## Bytes -/

namespace ByteQueue

/-- The calls that wake a consumer of an empty queue. -/
inductive Wake where
  | enqueue (bytes : List UInt8) (nonempty : bytes ≠ [])
  | close

namespace Wake

def call : Wake → Call
  | .enqueue bytes _ => .enqueue bytes
  | .close => .close

def notifies (q : ByteQueue) : Wake → Bool
  | .enqueue bytes _ => q.enqueueNotifies bytes
  | .close => q.closeNotifies

/-- What the consumer gets that sleeps at an empty queue: of a long run, the first of the bytes kept. -/
def delivers (capacity : UInt64) (max : Nat) : Wake → Except Failure (List UInt8)
  | .enqueue bytes _ => .ok ((bytes.rtake capacity.toNat).take max)
  | .close => .error .invalidState

end Wake

/-- A dequeue of at most `max` bytes that does not have to wait. -/
def takeAtMost (capacity : UInt64) (max : Nat) (q : ByteQueue) :
    Except Failure (List UInt8 × ByteQueue) :=
  (q.takeInto (List.replicate (min max capacity.toNat) 0)).map fun (taken, buffer, left) =>
    (buffer.take taken, left)

def poll (max : Nat) (q : ByteQueue) : Except Failure (List UInt8) × ByteQueue :=
  settle q (q.dequeue max .poll)

variable {q : ByteQueue} {l : Fifo} {bytes : List UInt8} {max : Nat}

theorem dequeueSeeing_eq_outcome {capacity : UInt64} (hpos : 0 < capacity.toNat) (hmax : 0 < max)
    (timeout : Timeout) (sights : List (Sight ByteQueue)) :
    dequeueSeeing capacity max timeout sights =
      (Wait.run pending timeout sights).outcome (takeAtMost capacity max) := by
  have hbuffer : ¬ (List.replicate (min max capacity.toNat) (0 : UInt8)).isEmpty = true := by
    rw [List.isEmpty_iff_length_eq_zero, List.length_replicate]
    omega
  rw [dequeueSeeing, if_neg hmax.ne']
  simp only [dequeueIntoSeeing, if_neg hbuffer]
  cases Wait.run pending timeout sights with
  | ready q => rfl
  | expired => rfl
  | asleep => rfl

theorem poll_of_ready (hpos : 0 < q.capacity.toNat) (hmax : 0 < max) (h : q.pending = false) :
    q.poll max = settle q (some (q.takeAtMost q.capacity max)) := by
  rw [poll, dequeue, dequeueSeeing_eq_outcome hpos hmax, Wait.run_alone_of_ready h]
  rfl

theorem size_eq_zero_iff : q.size = .ok 0 ↔ q.pending = true := by
  rw [size, pending, Bool.and_eq_true, Ring.isEmpty_iff]
  cases q.closed with
  | true => simp
  | false => simp

theorem Implements.capacity_pos (h : Implements q l) : 0 < q.capacity.toNat := by
  cases h with
  | opened holds _ _ => exact holds.capacity_pos
  | closed _ _ hpos => exact hpos

theorem Implements.holds_nil (h : Implements q l) (hpending : q.pending = true) : q.Holds [] := by
  cases h with
  | opened holds hopen capacity =>
    have hnil : l.bytes = [] := List.isEmpty_iff.mp (holds.pending_iff.symm.trans hpending)
    exact hnil ▸ holds
  | closed hq hl hpos =>
    rw [pending, hq] at hpending
    cases hpending

theorem rtake_ne_nil {n : Nat} (hn : 0 < n) (hne : bytes ≠ []) : bytes.rtake n ≠ [] := by
  have hlength := List.length_pos_iff.mpr hne
  rw [List.rtake, Ne, List.drop_eq_nil_iff]
  omega

/-- A call that wakes a consumer of an empty queue notifies, and leaves something to take or to
refuse. -/
theorem Holds.wake (h : q.Holds []) (wake : Wake) (hmax : 0 < max) :
    wake.notifies q = true ∧ (q.perform wake.call).2.pending = false ∧
      (q.perform wake.call).2.capacity = q.capacity ∧
      ((q.perform wake.call).2.poll max).1 = wake.delivers q.capacity max := by
  cases wake with
  | enqueue data hne =>
    obtain ⟨left,henqueue,hleft,hcap⟩ := h.enqueue data
    rw [List.nil_append] at hleft
    have hkept := rtake_ne_nil h.capacity_pos hne
    have hnotifies : q.enqueueNotifies data = true := by
      simp [enqueueNotifies, henqueue, Except.isOk, Except.toBool, hne]
    obtain ⟨last,hdequeue,-⟩ := hleft.dequeue_some hkept hmax.ne' .poll
    rw [Wake.call, perform, henqueue]
    refine ⟨hnotifies,?_,hcap,?_⟩
    · rw [hleft.pending_iff, List.isEmpty_eq_false_iff]
      exact hkept
    · rw [poll, hdequeue]
      rfl
  | close =>
    obtain ⟨left,hclose,hclosed,hcap⟩ :
        ∃ left, q.close = .ok left ∧ left.closed = true ∧ left.capacity = q.capacity := by
      rw [close, h.opened]
      exact ⟨_,rfl,rfl,rfl⟩
    have hnotifies : q.closeNotifies = true := by
      rw [closeNotifies, hclose]
      rfl
    rw [Wake.call, perform, hclose]
    refine ⟨hnotifies,?_,hcap,?_⟩
    · simp [pending, hclosed]
    · rw [poll, dequeue_of_closed hclosed (hcap ▸ h.capacity_pos) hmax.ne']
      rfl

theorem Implements.handoff (h : Implements q l) (wake : Wake) (hmax : 0 < max) {timeout : Timeout}
    (looks : Looks (wake.notifies q))
    (hlive : Wait.run pending timeout (looks.before.map (⟨q,·⟩)) ≠ .expired) :
    IsSequential (poll max) (·.perform wake.call) q (q.size = .ok 0) (wake.delivers q.capacity max)
      (interleave (dequeueSeeing q.capacity max timeout) (·.perform wake.call) looks.before looks.after
        q) := by
  have hpos := h.capacity_pos
  refine Wait.interleave_isSequential (dequeueSeeing_eq_outcome hpos hmax timeout) size_eq_zero_iff
    (poll_of_ready hpos hmax) ?_ looks hlive
  intro hpending
  obtain ⟨hnotifies,hready,hcap,hdelivers⟩ := (h.holds_nil hpending).wake wake hmax
  have hserved := poll_of_ready (hcap ▸ hpos) hmax hready
  rw [hcap] at hserved
  exact ⟨hnotifies,hready,hserved,hdelivers⟩

end ByteQueue

/-! ## Items -/

namespace ItemQueue
variable {α : Type}

/-- The calls that wake a consumer of an empty queue. -/
inductive Wake (α : Type) where
  | enqueue (item : α)
  | close

namespace Wake

def call : Wake α → Call α
  | .enqueue item => .enqueue item
  | .close => .close

def notifies (q : ItemQueue α) : Wake α → Bool
  | .enqueue item => (q.enqueue item).ending.notifies
  | .close => q.close.ending.notifies

/-- What the consumer finds that sleeps at an empty queue. -/
def delivers : Wake α → Except Failure (Option α)
  | .enqueue item => .ok (some item)
  | .close => .error .invalidState

end Wake

def poll (q : ItemQueue α) : Except Failure (Option α) × ItemQueue α := settle q (q.dequeue .poll)

/-- A call as another thread makes it: all that it does, and the queue left. -/
def made (call : Call α) (q : ItemQueue α) : Effect α (Answer α) × ItemQueue α :=
  (q.perform call, (q.perform call).queue)

variable {q : ItemQueue α}

theorem dequeueSeeing_eq_outcome (timeout : Timeout) (sights : List (Sight (ItemQueue α))) :
    dequeueSeeing timeout sights = (Wait.run pending timeout sights).outcome take := by
  rw [dequeueSeeing]
  cases Wait.run pending timeout sights with
  | ready q => rfl
  | expired => rfl
  | asleep => rfl

theorem poll_of_ready (h : q.pending = false) : q.poll = settle q (some q.take) := by
  rw [poll, dequeue, dequeueSeeing_eq_outcome, Wait.run_alone_of_ready h]
  rfl

theorem size_eq_zero_iff : q.size = .ok 0 ↔ q.pending = true := by
  rw [size, pending, Bool.and_eq_true, Ring.isEmpty_iff]
  cases q.isClosed with
  | true => simp
  | false => simp

theorem Orderly.holds_nil (h : q.Orderly) (hpending : q.pending = true) : q.Holds [] := by
  have hopen : q.isClosed = false := by
    rw [pending, Bool.and_eq_true, Bool.not_eq_true'] at hpending
    exact hpending.1
  obtain ⟨items,hholds⟩ := h.holds hopen
  have hnil : items = [] := List.isEmpty_iff.mp (hholds.pending_iff.symm.trans hpending)
  exact hnil ▸ hholds

/-- A call that wakes a consumer of an empty queue notifies, and leaves something to take or to
refuse. The destructor has no part in it. -/
theorem Holds.wake (h : q.Holds []) (wake : Wake α) :
    wake.notifies q = true ∧ (q.perform wake.call).queue.pending = false ∧
      (q.perform wake.call).queue.poll.1 = wake.delivers := by
  cases wake with
  | enqueue item =>
    have hroom : ([] : List α).length < q.ring.capacity.toNat := h.ring.capacity_pos
    have henqueue := h.enqueue_room hroom item
    have hleft : (q.store item).Holds [item] := h.store hroom item
    have hnotifies : (q.enqueue item).ending.notifies = true := by
      rw [henqueue]
      rfl
    rw [Wake.call, perform, henqueue]
    refine ⟨hnotifies,hleft.pending_iff,?_⟩
    change (q.store item).poll.1 = _
    rw [poll, hleft.dequeue_cons]
    rfl
  | close =>
    obtain ⟨left,hdrain,-⟩ := h.drain_finished rfl
    have hclosed := h.close_isClosed
    have hnotifies : q.close.ending.notifies = true := by
      rw [close, h.isClosed, hdrain]
      rfl
    refine ⟨hnotifies,?_,?_⟩
    · change q.close.queue.pending = false
      rw [pending, hclosed]
      rfl
    · change q.close.queue.poll.1 = _
      rw [poll, dequeue_of_closed hclosed]
      rfl

theorem Orderly.handoff (h : q.Orderly) (wake : Wake α) {timeout : Timeout}
    (looks : Looks (wake.notifies q))
    (hlive : Wait.run pending timeout (looks.before.map (⟨q,·⟩)) ≠ .expired) :
    IsSequential poll (made wake.call) q (q.size = .ok 0) wake.delivers
      (interleave (dequeueSeeing timeout) (made wake.call) looks.before looks.after q) := by
  refine Wait.interleave_isSequential (dequeueSeeing_eq_outcome timeout) size_eq_zero_iff
    poll_of_ready ?_ looks hlive
  intro hpending
  obtain ⟨hnotifies,hready,hdelivers⟩ := (h.holds_nil hpending).wake wake
  exact ⟨hnotifies,hready,poll_of_ready hready,hdelivers⟩

end ItemQueue

/-! ## Every reachable state -/

/-- A blocked dequeue and an enqueue or a close that wakes it are sequential: from every state that a
queue of bytes or of items can reach, with every timeout that has not run out before the other call, and
at whatever moments the consumer looks. At a queue that is closed or stores something the dequeue comes
first. At an empty one it comes last and gets the item, the first of the bytes kept, or a refusal. -/
theorem blocked_dequeue_isSequential :
    (∀ (capacity : UInt64) (q₀ : ByteQueue), ByteQueue.create capacity = .ok q₀ →
      ∀ (calls : List ByteQueue.Call) (wake : ByteQueue.Wake) (max : Nat), 0 < max →
        ∀ timeout : Timeout,
          let q := (q₀.run calls).2
          ∀ looks : Looks (wake.notifies q),
            Wait.run ByteQueue.pending timeout (looks.before.map (⟨q, ·⟩)) ≠ .expired →
            IsSequential (ByteQueue.poll max) (·.perform wake.call) q (q.size = .ok 0)
              (wake.delivers q.capacity max)
              (interleave (ByteQueue.dequeueSeeing q.capacity max timeout) (·.perform wake.call)
                looks.before looks.after q)) ∧
    ∀ (α : Type) (capacity : UInt64) (overflow : Overflow) (destructor : Option (Destructor α))
      (q₀ : ItemQueue α), ItemQueue.create capacity overflow destructor = .ok q₀ →
      ∀ (calls : List (ItemQueue.Call α)) (wake : ItemQueue.Wake α) (timeout : Timeout),
        let q := (q₀.run calls).2
        ∀ looks : Looks (wake.notifies q),
          Wait.run ItemQueue.pending timeout (looks.before.map (⟨q, ·⟩)) ≠ .expired →
          IsSequential ItemQueue.poll (ItemQueue.made wake.call) q (q.size = .ok 0) wake.delivers
            (interleave (ItemQueue.dequeueSeeing timeout) (ItemQueue.made wake.call) looks.before
              looks.after q) := by
  constructor
  · intro capacity q₀ hq calls wake max hmax timeout q looks hlive
    obtain ⟨l,hl⟩ := ByteQueue.exists_implements_of_run hq calls
    exact hl.handoff wake hmax looks hlive
  · intro α capacity overflow destructor q₀ hq calls wake timeout q looks hlive
    exact (ItemQueue.orderly_of_run hq calls).handoff wake looks hlive

/-- A run of bytes longer than its queue at a consumer that asks for two, and a close at one that waits
for ever for a frame. -/
theorem blocked_dequeue_isSequential_long_run_and_close :
    ∃ bytes frames, ByteQueue.create 4 = .ok bytes ∧ FrameQueue.create 2 .dropOldest = .ok frames ∧
      (overtake (ByteQueue.dequeueSeeing 4 2 (.after 50)) (·.perform (.enqueue [1, 2, 3, 4, 5, 6]))
        (.after 50) 20 bytes).map (·.1) = some (.ok [3, 4]) ∧
      (overtake (ItemQueue.dequeueSeeing .infinite) (ItemQueue.made .close) .infinite 20 frames).map
        (·.1) = some (.error .invalidState) := by
  have hbytes : ByteQueue.create 4 = .ok (.fresh 4) := ByteQueue.create_eq_ok (by decide) (by decide)
  have hframes : ItemQueue.create 2 .dropOldest (some (⟨fun _ => false⟩ : Destructor Frame)) =
      .ok (.fresh 2 .dropOldest _) := ItemQueue.create_eq_ok (by decide) (by decide) _ _
  obtain ⟨hbyte,hitem⟩ := blocked_dequeue_isSequential
  have hrun := hbyte 4 _ hbytes [] (.enqueue [1, 2, 3, 4, 5, 6] (List.cons_ne_nil _ _)) 2
    (by decide) (.after 50) (Timeout.looks (.after 50) 20 _) (fun h => nomatch h)
  have hclose := hitem Frame 2 .dropOldest _ _ hframes [] .close .infinite
    (Timeout.looks .infinite 20 _) (fun h => nomatch h)
  refine ⟨_,_,hbytes,hframes,?_,?_⟩
  · exact (congrArg (Option.map (·.1)) (hrun.behind rfl)).trans (congrArg some (hrun.delivers rfl))
  · exact (congrArg (Option.map (·.1)) (hclose.behind rfl)).trans (congrArg some (hclose.delivers rfl))

end SensorRelay
