import Mathlib.Data.List.DropRight
import SensorRelay.ByteQueue
import SensorRelay.Proofs.Ring.Storage
import SensorRelay.Proofs.Wait

/-! # What a queue of bytes holds

Turned to the slot of the next write, the storage of an open queue is the list of the last bytes that
were ever written, of which the newest `count` are stored. An enqueue shifts this list and a dequeue
only changes the count, so that stale bytes stay in front of the stored ones.
-/
namespace SensorRelay
namespace ByteQueue

/-- An open queue that stores `bytes`, oldest first. -/
structure Holds (q : ByteQueue) (bytes : List UInt8) : Prop where
  opened : q.closed = false
  ring : q.ring.WellFormed
  capacity : q.ring.capacity = q.capacity
  size : q.storage.length = q.ring.capacity.toNat
  window : (q.storage.rotate q.ring.next.toNat).drop (q.ring.capacity.toNat - q.ring.count.toNat) = bytes

variable {q : ByteQueue} {bytes : List UInt8}

theorem Holds.count (h : q.Holds bytes) : q.ring.count.toNat = bytes.length := by
  have hle := h.ring.count_le
  rw [← h.window, List.length_drop, List.length_rotate, h.size]
  omega

theorem Holds.length_le (h : q.Holds bytes) : bytes.length ≤ q.capacity.toNat :=
  h.count ▸ h.capacity ▸ h.ring.count_le

theorem Holds.capacity_pos (h : q.Holds bytes) : 0 < q.capacity.toNat :=
  h.capacity ▸ h.ring.capacity_pos

def fresh (capacity : UInt64) : ByteQueue :=
  ⟨capacity, .empty capacity, List.replicate capacity.toNat 0, false⟩

theorem create_eq_ok {capacity : UInt64} (hpos : 0 < capacity.toNat)
    (hlt : capacity.toNat < 2 ^ 63) : create capacity = .ok (fresh capacity) := by
  rw [create, Ring.create_eq_ok hpos hlt]
  rfl

theorem create_eq_ok_iff {capacity : UInt64} :
    create capacity = .ok q ↔
      0 < capacity.toNat ∧ capacity.toNat < 2 ^ 63 ∧ fresh capacity = q := by
  constructor
  · intro h
    cases hring : Ring.create capacity with
    | error f =>
      rw [create, hring] at h
      cases h
    | ok ring =>
      obtain ⟨hpos,hlt,-⟩ := Ring.create_eq_ok_iff.mp hring
      exact ⟨hpos,hlt,Except.ok.inj ((create_eq_ok hpos hlt).symm.trans h)⟩
  · rintro ⟨hpos,hlt,rfl⟩
    exact create_eq_ok hpos hlt

theorem fresh_holds {capacity : UInt64} (hpos : 0 < capacity.toNat)
    (hlt : capacity.toNat < 2 ^ 63) : (fresh capacity).Holds [] where
  opened := rfl
  ring := Ring.empty_wellFormed hpos hlt
  capacity := rfl
  size := List.length_replicate
  window := by
    have hlen : ((fresh capacity).storage.rotate (fresh capacity).ring.next.toNat).length =
        capacity.toNat := by
      rw [List.length_rotate]
      exact List.length_replicate
    exact List.drop_eq_nil_of_le hlen.le

/-- Turned to the oldest slot, the storage starts with the stored bytes. -/
theorem Holds.read (h : q.Holds bytes) {n : UInt64} (hn : n.toNat ≤ bytes.length) :
    (q.ring.run q.ring.oldest n).read q.storage = bytes.take n.toNat := by
  have hle := h.ring.count_le
  have hcount := h.count
  have hold : q.ring.oldest.toNat =
      (q.ring.next.toNat + (q.ring.capacity.toNat - q.ring.count.toNat)) % q.storage.length := by
    rw [h.ring.oldest_toNat, h.size]
    rfl
  have hlt : q.ring.oldest.toNat ≤ q.ring.capacity.toNat := by
    rw [h.ring.oldest_toNat]
    exact (h.ring.position_lt 0).le
  have hgap : q.ring.capacity.toNat - q.ring.count.toNat ≤
      (q.storage.rotate q.ring.next.toNat).length := by
    rw [List.length_rotate, h.size]
    exact Nat.sub_le _ _
  rw [Ring.run_read h.size hlt (by omega), hold, List.rotate_mod, ← List.rotate_rotate,
    List.rotate_eq_drop_append_take hgap, h.window, List.take_append_of_le_length hn]

/-! ## Dequeue -/

def retired (q : ByteQueue) (n : UInt64) : ByteQueue := { q with ring := q.ring.retire n }

theorem Holds.retired (h : q.Holds bytes) {n : UInt64} (hn : n.toNat ≤ bytes.length) :
    (q.retired n).Holds (bytes.drop n.toNat) := by
  have hle := h.ring.count_le
  have hcount := h.count
  refine ⟨h.opened,h.ring.retire n,h.capacity,h.size,?_⟩
  change (q.storage.rotate q.ring.next.toNat).drop
    (q.ring.capacity.toNat - (q.ring.retire n).count.toNat) = _
  have hsum : q.ring.capacity.toNat - (q.ring.retire n).count.toNat =
      (q.ring.capacity.toNat - q.ring.count.toNat) + n.toNat := by
    rw [Ring.retire_count]
    omega
  rw [hsum, ← List.drop_drop, h.window]

theorem Holds.pending_iff (h : q.Holds bytes) : q.pending = bytes.isEmpty := by
  rw [pending, h.opened, Bool.not_false, Bool.true_and, Bool.eq_iff_iff, Ring.isEmpty_iff, h.count,
    List.isEmpty_iff, List.length_eq_zero_iff]

theorem Holds.taken_toNat (h : q.Holds bytes) (request : Nat) :
    (UInt64.ofNat (min request bytes.length)).toNat = min request bytes.length := by
  refine UInt64.toNat_ofNat_of_lt' (lt_of_le_of_lt (Nat.min_le_right _ _) ?_)
  rw [← h.count]
  exact q.ring.count.toNat_lt

/-- A buffer takes what is stored as far as it reaches, and keeps its rest. -/
theorem Holds.takeInto_eq (h : q.Holds bytes) (buffer : List UInt8) :
    q.takeInto buffer = .ok (min buffer.length bytes.length,
      bytes.take (min buffer.length bytes.length) ++ buffer.drop (min buffer.length bytes.length),
      q.retired (.ofNat (min buffer.length bytes.length))) := by
  have hword := h.taken_toNat buffer.length
  have hread := h.read (n := .ofNat (min buffer.length bytes.length)) (by omega)
  have hopen : ¬ q.closed = true := by simp [h.opened]
  rw [ByteQueue.takeInto, if_neg hopen, h.count]
  simp only [hread, hword]
  rfl

theorem Holds.takeInto (h : q.Holds bytes) (buffer : List UInt8) :
    ∃ left, q.takeInto buffer = .ok (min buffer.length bytes.length,
        bytes.take (min buffer.length bytes.length) ++ buffer.drop (min buffer.length bytes.length),
        left) ∧
      left.Holds (bytes.drop (min buffer.length bytes.length)) ∧ left.capacity = q.capacity := by
  have hword := h.taken_toNat buffer.length
  have hleft := h.retired (n := .ofNat (min buffer.length bytes.length)) (by omega)
  rw [hword] at hleft
  exact ⟨_,h.takeInto_eq buffer,hleft,rfl⟩

theorem dequeueInto_of_ready (h : q.pending = false) {buffer : List UInt8} (hb : 0 < buffer.length)
    (timeout : Timeout) : q.dequeueInto buffer timeout = some (q.takeInto buffer) := by
  have hne : ¬ buffer.isEmpty = true := by
    rw [List.isEmpty_iff_length_eq_zero]
    omega
  rw [dequeueInto, dequeueIntoSeeing, if_neg hne, Wait.run_alone_of_ready h]

/-- Nothing to take: the wait ends at its deadline or never. -/
theorem Holds.dequeueInto_nil (h : q.Holds []) {buffer : List UInt8} (hb : 0 < buffer.length)
    (timeout : Timeout) :
    q.dequeueInto buffer timeout = if timeout.isEndless then none else some (.error .timeout) := by
  have hne : ¬ buffer.isEmpty = true := by
    rw [List.isEmpty_iff_length_eq_zero]
    omega
  rw [dequeueInto, dequeueIntoSeeing, if_neg hne, Wait.run_alone_of_pending (h.pending_iff.trans rfl)]
  cases timeout.isEndless with
  | true => rfl
  | false => rfl

theorem Holds.dequeueInto_some (h : q.Holds bytes) (hne : bytes ≠ []) {buffer : List UInt8}
    (hb : 0 < buffer.length) (timeout : Timeout) :
    q.dequeueInto buffer timeout = some (q.takeInto buffer) := by
  have hready : q.pending = false := by
    rw [h.pending_iff, List.isEmpty_eq_false_iff]
    exact hne
  exact dequeueInto_of_ready hready hb timeout

theorem dequeueInto_of_closed (h : q.closed = true) {buffer : List UInt8} (hb : 0 < buffer.length)
    (timeout : Timeout) : q.dequeueInto buffer timeout = some (.error .invalidState) := by
  have hready : q.pending = false := by simp [pending, h]
  rw [dequeueInto_of_ready hready hb]
  simp [takeInto, h]

/-- A dequeue is one into a buffer that is no longer than the queue. -/
theorem dequeue_eq_dequeueInto {max : Nat} (hmax : max ≠ 0) (timeout : Timeout) :
    q.dequeue max timeout =
      (q.dequeueInto (List.replicate (min max q.capacity.toNat) 0) timeout).map fun result =>
        result.map fun (taken, buffer, left) => (buffer.take taken, left) := by
  rw [dequeue, dequeueSeeing, if_neg hmax]
  rfl

theorem request_length_pos {max : Nat} (hmax : max ≠ 0) (hpos : 0 < q.capacity.toNat) :
    0 < (List.replicate (min max q.capacity.toNat) (0 : UInt8)).length := by
  rw [List.length_replicate]
  omega

theorem Holds.dequeue_nil (h : q.Holds []) {max : Nat} (hmax : max ≠ 0) (timeout : Timeout) :
    q.dequeue max timeout = if timeout.isEndless then none else some (.error .timeout) := by
  rw [dequeue_eq_dequeueInto hmax, h.dequeueInto_nil (request_length_pos hmax h.capacity_pos)]
  cases timeout.isEndless with
  | true => rfl
  | false => rfl

theorem dequeue_of_closed (h : q.closed = true) (hpos : 0 < q.capacity.toNat) {max : Nat}
    (hmax : max ≠ 0) (timeout : Timeout) : q.dequeue max timeout = some (.error .invalidState) := by
  rw [dequeue_eq_dequeueInto hmax, dequeueInto_of_closed h (request_length_pos hmax hpos)]
  rfl

/-- The bound that the capacity sets to the buffer never shows: no more is stored. -/
theorem Holds.dequeue_some (h : q.Holds bytes) (hne : bytes ≠ []) {max : Nat} (hmax : max ≠ 0)
    (timeout : Timeout) :
    ∃ left, q.dequeue max timeout = some (.ok (bytes.take max, left)) ∧
      left.Holds (bytes.drop max) ∧ left.capacity = q.capacity := by
  have hle := h.length_le
  let buffer := List.replicate (min max q.capacity.toNat) (0 : UInt8)
  have hlen : buffer.length = min max q.capacity.toNat := List.length_replicate
  have hb : 0 < buffer.length := request_length_pos hmax h.capacity_pos
  obtain ⟨left,htake,hleft,hcap⟩ := h.takeInto buffer
  have hmin : min buffer.length bytes.length = min max bytes.length := by omega
  rw [hmin] at htake hleft
  have hlength : (bytes.take (min max bytes.length)).length = min max bytes.length := by
    rw [List.length_take]
    omega
  have htaken : bytes.take (min max bytes.length) = bytes.take max := by
    rw [List.take_eq_take_iff]
    omega
  have hrest : bytes.drop (min max bytes.length) = bytes.drop max := by
    rw [List.drop_eq_drop_iff]
    omega
  refine ⟨left,?_,hrest ▸ hleft,hcap⟩
  rw [dequeue_eq_dequeueInto hmax, h.dequeueInto_some hne hb, htake]
  change some (Except.ok ((bytes.take (min max bytes.length) ++ _).take (min max bytes.length), left)) = _
  rw [List.take_left' hlength, htaken]

/-! ## Enqueue -/

/-- A write of at most `capacity` bytes shifts the list of the last bytes written. -/
theorem Holds.write (h : q.Holds bytes) {kept : List UInt8} (hk : kept.length ≤ q.capacity.toNat) :
    Holds { q with
        storage := (q.ring.run q.ring.next (.ofNat kept.length)).write q.storage kept
        ring := q.ring.advance (.ofNat kept.length) }
      ((bytes ++ kept).rtake q.capacity.toNat) := by
  have hcap : q.ring.capacity.toNat = q.capacity.toNat := congrArg UInt64.toNat h.capacity
  have hlt := h.ring.capacity_lt
  have hword : (UInt64.ofNat kept.length).toNat = kept.length :=
    UInt64.toNat_ofNat_of_lt' (by change _ < 2 ^ 64; omega)
  have hfit : (UInt64.ofNat kept.length).toNat ≤ q.ring.capacity.toNat := by omega
  have hnext := h.ring.next_lt.le
  have hsize := Ring.run_write_length h.size hnext hword (by omega)
  refine ⟨h.opened,h.ring.advance hfit,h.capacity,hsize,?_⟩
  -- Turned to its start, the written storage begins with the new bytes; turned on behind them, it
  -- ends with them.
  have hturn : ((q.ring.run q.ring.next (.ofNat kept.length)).write q.storage kept).rotate
      (q.ring.advance (.ofNat kept.length)).next.toNat =
      (q.storage.rotate q.ring.next.toNat ++ kept).drop kept.length := by
    rw [h.ring.advance_next hfit, hword, ← hsize, List.rotate_mod, ← List.rotate_rotate,
      Ring.run_write_rotate h.size hnext hword (by omega), List.rotate_append_length_eq,
      List.drop_append_of_le_length (by rw [List.length_rotate, h.size]; omega)]
  have hcount := h.ring.advance_count hfit
  have hold := h.count
  have hle := h.ring.count_le
  have hgap : ((q.storage.rotate q.ring.next.toNat).take
      (q.ring.capacity.toNat - q.ring.count.toNat)).length =
      q.ring.capacity.toNat - q.ring.count.toNat := by
    rw [List.length_take, List.length_rotate, h.size]
    exact Nat.min_eq_left (Nat.sub_le _ _)
  have hsplit := List.take_append_drop (q.ring.capacity.toNat - q.ring.count.toNat)
    (q.storage.rotate q.ring.next.toNat)
  rw [h.window] at hsplit
  change (List.rotate _ (q.ring.advance (.ofNat kept.length)).next.toNat).drop
    (q.ring.capacity.toNat - (q.ring.advance (.ofNat kept.length)).count.toNat) = _
  rw [hturn, List.drop_drop, ← hsplit, List.append_assoc, List.drop_append, hgap,
    List.drop_eq_nil_of_le (by omega), List.nil_append, List.rtake, List.drop_eq_drop_iff,
    List.length_append]
  omega

/-- Cutting a run to its end first does not change the end of the whole. -/
theorem rtake_append_rtake (n : Nat) (front run : List UInt8) :
    (front ++ run.drop (run.length - n)).rtake n = (front ++ run).rtake n := by
  by_cases hle : run.length ≤ n
  · rw [Nat.sub_eq_zero_of_le hle, List.drop_zero]
  · have hfront : front.drop ((front ++ run).length - n) = [] :=
      List.drop_eq_nil_of_le (by rw [List.length_append]; omega)
    have hfront' : front.drop ((front ++ run.drop (run.length - n)).length - n) = [] :=
      List.drop_eq_nil_of_le (by rw [List.length_append, List.length_drop]; omega)
    rw [List.rtake, List.rtake, List.drop_append, List.drop_append, hfront, hfront', List.drop_drop,
      List.nil_append, List.nil_append, List.length_append, List.length_append, List.length_drop]
    congr 1
    omega

/-- The last `capacity` bytes of what was stored and what came are kept. -/
theorem Holds.enqueue (h : q.Holds bytes) (data : List UInt8) :
    ∃ left, q.enqueue data = .ok left ∧ left.Holds ((bytes ++ data).rtake q.capacity.toNat) ∧
      left.capacity = q.capacity := by
  have hopen : ¬ q.closed = true := by simp [h.opened]
  have hle := h.length_le
  rw [ByteQueue.enqueue, if_neg hopen]
  by_cases hnil : data.isEmpty = true
  · rw [if_pos hnil]
    have hdata : data = [] := List.isEmpty_iff.mp hnil
    refine ⟨q,rfl,?_,rfl⟩
    rw [hdata, List.append_nil, List.rtake, Nat.sub_eq_zero_of_le hle]
    exact h
  · rw [if_neg hnil]
    have hk : (data.drop (data.length - q.capacity.toNat)).length ≤ q.capacity.toNat := by
      rw [List.length_drop]
      omega
    have hwrite := h.write hk
    rw [rtake_append_rtake] at hwrite
    exact ⟨_,rfl,hwrite,rfl⟩

end ByteQueue
end SensorRelay
