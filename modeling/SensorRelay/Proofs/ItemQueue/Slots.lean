import SensorRelay.Proofs.ItemQueue.Reachable
import SensorRelay.Proofs.Ring.Slots
import SensorRelay.Proofs.Wait.Handoff

/-! # The slots that hold an item

In a queue that still answers, the slots with an item are those of the ring's entries, a slot of its
own for each. So no operation meets a slot that it does not count on: what an enqueue writes over is
vacant, and what is evicted, drained or dequeued is taken.
-/
namespace SensorRelay
namespace ItemQueue
variable {α : Type}

def IsTaken (slots : Array (Option α)) (slot : Nat) : Prop := ∃ item, slots[slot]? = some (some item)

def IsVacant (slots : Array (Option α)) (slot : Nat) : Prop := slots[slot]? = some none

/-- A queue with an item exactly in the slots of its ring's entries. -/
structure SlotsMatch (q : ItemQueue α) : Prop where
  capacity : q.ring.capacity = q.capacity
  size : q.slots.size = q.capacity.toNat
  next_lt : q.ring.next < q.capacity
  count_le : q.ring.count ≤ q.capacity
  distinct : q.ring.slots.Nodup
  taken_iff : ∀ slot, IsTaken q.slots slot ↔ slot ∈ q.ring.slots

/-- The queue just before an enqueue writes its item. -/
def withRoom (q : ItemQueue α) : ItemQueue α := if q.ring.isFull then q.evict.queue else q

/-- The first turns of a drain and the rest of it. -/
def Drained.andThen (first rest : Drained α) : Drained α :=
  { rest with destroyed := first.destroyed ++ rest.destroyed }

/-- A queue that has what each operation counts on in the slots that the operation works on. -/
structure FindsSlots (q : ItemQueue α) : Prop where
  enqueued : ∀ item, (q.enqueue item).ending = .returned (.ok ()) →
    (q.enqueue item).queue = q.withRoom.store item ∧
      IsVacant q.withRoom.slots q.withRoom.ring.next.toNat
  evicted : q.ring.isFull = true → IsTaken q.slots q.ring.oldest.toNat
  /-- The drain comes to its `n`-th turn unless it has failed before. -/
  drained : ∀ n m, n + m = q.ring.count.toNat →
    let before := drainFrom q.destructor q.ring n 0 q.slots
    before.failedOn = none →
      drainFrom q.destructor q.ring q.ring.count.toNat 0 q.slots =
          before.andThen (drainFrom q.destructor q.ring m (.ofNat n) before.slots) ∧
        (0 < m → IsTaken before.slots (q.ring.slotAt (.ofNat n)).toNat)
  dequeued : q.ring.isEmpty = false → IsTaken q.slots q.ring.oldest.toNat
  /-- Whatever a consumer saw before it takes from this queue. -/
  delivers : ∀ timeout sights, Wait.run pending timeout sights = .ready q →
    ∃ item left, dequeueSeeing timeout sights = some (.ok (some item,left))
  answers : ∀ timeout, (q.receive timeout).1 ≠ .error .invalidState

variable {q : ItemQueue α} {items : List α} {slots : Array (Option α)} {slot : Nat}

/-! ## One slot -/

theorem isTaken_iff : IsTaken slots slot ↔ ∃ item, slots[slot]?.join = some item := by
  simp only [IsTaken, Option.join_eq_some_iff]

theorem isTaken_of_item? {slot : UInt64} {item : α} (h : item? slots slot = some item) :
    IsTaken slots slot.toNat := isTaken_iff.mpr ⟨item,h⟩

theorem isVacant_of_join (hslot : slot < slots.size) (h : slots[slot]?.join = none) :
    IsVacant slots slot := by
  rw [Array.getElem?_eq_getElem hslot] at h
  rw [IsVacant, Array.getElem?_eq_getElem hslot]
  exact congrArg some h

/-! ## A drain in two parts -/

theorem drainFrom_add (destructor : Option (Destructor α)) (ring : Ring) (n m : Nat) (k : UInt64)
    (h : (drainFrom destructor ring n k slots).failedOn = none) :
    drainFrom destructor ring (n + m) k slots =
      (drainFrom destructor ring n k slots).andThen
        (drainFrom destructor ring m (k + .ofNat n) (drainFrom destructor ring n k slots).slots) := by
  induction n generalizing k slots with
  | zero => simp [drainFrom, Drained.andThen]
  | succ n ih =>
    have hk : k + 1 + .ofNat n = k + .ofNat (n + 1) := by
      rw [UInt64.ofNat_add, UInt64.add_assoc, UInt64.add_comm 1]
      rfl
    rw [Nat.add_right_comm]
    cases hitem : item? slots (ring.slotAt k) with
    | none =>
      simp only [drainFrom, hitem] at h ⊢
      rw [ih (k + 1) h, hk]
    | some item =>
      rw [drainFrom_succ hitem] at h
      rw [drainFrom_succ hitem, drainFrom_succ hitem]
      cases hfailed : (discard destructor item).2 with
      | true => simp [hfailed] at h
      | false =>
        simp only [hfailed, Bool.false_eq_true, ↓reduceIte] at h ⊢
        rw [ih (k + 1) h, hk, Drained.andThen, Drained.andThen, List.append_assoc]

/-! ## The slots of a list of items -/

theorem Holds.taken_iff (h : q.Holds items) : IsTaken q.slots slot ↔ slot ∈ q.ring.slots := by
  rw [h.ring.slots_eq, h.count, isTaken_iff]
  constructor
  · rintro ⟨item,hitem⟩
    have hslot : slot < q.ring.capacity.toNat := by
      rw [← h.size]
      by_contra hout
      rw [Array.getElem?_eq_none (Nat.le_of_not_lt hout)] at hitem
      cases hitem
    obtain ⟨k,hk,rfl⟩ := h.ring.exists_position hslot
    rw [h.cell k hk] at hitem
    obtain ⟨hlt,-⟩ := List.getElem?_eq_some_iff.mp hitem
    exact List.mem_map.mpr ⟨k,List.mem_range.mpr hlt,rfl⟩
  · intro hmem
    obtain ⟨k,hk,rfl⟩ := List.mem_map.mp hmem
    have hlt : k < items.length := List.mem_range.mp hk
    refine ⟨items[k],?_⟩
    rw [h.cell k (hlt.trans_le h.length_le), List.getElem?_eq_getElem hlt]

theorem Holds.slotsMatch (h : q.Holds items) (hcapacity : q.ring.capacity = q.capacity) :
    q.SlotsMatch := by
  refine ⟨hcapacity,?_,?_,?_,h.ring.slots_nodup,fun _ => h.taken_iff⟩
  · rw [← hcapacity]
    exact h.size
  · rw [← hcapacity]
    exact UInt64.lt_iff_toNat_lt.mpr h.ring.next_lt
  · rw [← hcapacity]
    exact UInt64.le_iff_toNat_le.mpr h.ring.count_le

theorem Holds.oldest_taken {item : α} {rest : List α} (h : q.Holds (item :: rest)) :
    IsTaken q.slots q.ring.oldest.toNat := isTaken_of_item? h.oldest

/-- Where there is room, the next slot is vacant. -/
theorem Holds.next_vacant (h : q.Holds items) (hroom : items.length < q.ring.capacity.toNat) :
    IsVacant q.slots q.ring.next.toNat := by
  apply isVacant_of_join
  · rw [h.size]
    exact h.ring.next_lt
  · rw [← h.ring.position_count, h.count, h.cell _ hroom]
    exact List.getElem?_eq_none le_rfl

theorem Holds.enqueued (h : q.Holds items) {item : α}
    (hstored : (q.enqueue item).ending = .returned (.ok ())) :
    (q.enqueue item).queue = q.withRoom.store item ∧
      IsVacant q.withRoom.slots q.withRoom.ring.next.toNat := by
  rcases h.enqueue_cases item with
    ⟨hroom,henqueue,-⟩ | ⟨hfull,⟨-,henqueue⟩ | ⟨-,oldest,rest,rfl,-,henqueue⟩⟩
  · have hnot : ¬ q.ring.isFull = true := by
      rw [h.isFull_iff]
      exact hroom.ne
    rw [henqueue, withRoom, if_neg hnot]
    exact ⟨rfl,h.next_vacant hroom⟩
  · rw [henqueue] at hstored
    cases hstored
  · rw [withRoom, if_pos (h.isFull_iff.mpr hfull), h.evict]
    rw [henqueue] at hstored ⊢
    cases hfailed : (discard q.destructor oldest).2 with
    | true =>
      rw [if_pos hfailed] at hstored
      cases hstored
    | false => exact ⟨rfl,h.popped.next_vacant h.popped_room⟩

theorem Holds.drained (h : q.Holds items) {n m : Nat} (hall : n + m = q.ring.count.toNat)
    (hsurvives : (ItemQueue.drainFrom q.destructor q.ring n 0 q.slots).failedOn = none) :
    let before := ItemQueue.drainFrom q.destructor q.ring n 0 q.slots
    ItemQueue.drainFrom q.destructor q.ring q.ring.count.toNat 0 q.slots =
        before.andThen (ItemQueue.drainFrom q.destructor q.ring m (.ofNat n) before.slots) ∧
      (0 < m → IsTaken before.slots (q.ring.slotAt (.ofNat n)).toNat) := by
  intro before
  constructor
  · rw [← hall, drainFrom_add _ _ n m 0 hsurvives, UInt64.zero_add]
  · intro hmore
    have hturn : n < q.ring.count.toNat := by omega
    have hword : (UInt64.ofNat n).toNat = n :=
      UInt64.toNat_ofNat_of_lt' (hturn.trans q.ring.count.toNat_lt)
    have hlt : n < items.length := h.count ▸ hturn
    obtain ⟨left,hbefore,hto⟩ := h.drainFrom_le hlt.le
    rw [hbefore] at hsurvives
    have hmet := (hword.symm ▸ hto hsurvives).turn h.ring h.count (hword.symm ▸ hlt)
    change IsTaken (ItemQueue.drainFrom q.destructor q.ring n 0 q.slots).slots _
    rw [hbefore]
    exact isTaken_of_item? hmet.1

theorem Holds.dequeueSeeing_of_ready (h : q.Holds items) {timeout : Timeout}
    {sights : List (Sight (ItemQueue α))} (hready : Wait.run pending timeout sights = .ready q) :
    ∃ item left, dequeueSeeing timeout sights = some (.ok (some item,left)) := by
  obtain ⟨hsome,-⟩ := Wait.ready_of_run hready
  cases items with
  | nil => cases hsome.symm.trans h.pending_iff
  | cons item rest =>
    refine ⟨item,q.popped,?_⟩
    rw [dequeueSeeing, hready]
    exact congrArg some h.take_cons

theorem Holds.receive_ne_invalidState (h : q.Holds items) (timeout : Timeout) :
    (q.receive timeout).1 ≠ .error .invalidState := by
  rw [receive]
  cases items with
  | nil =>
    rw [h.dequeue_nil]
    cases timeout.isEndless with
    | true => simp [settle, delivered]
    | false => simp [settle, delivered]
  | cons item rest =>
    rw [h.dequeue_cons]
    simp [settle, delivered]

theorem Holds.findsSlots (h : q.Holds items) : q.FindsSlots where
  enqueued _ := h.enqueued
  evicted hfull := by
    obtain ⟨item,rest,rfl⟩ := h.exists_oldest (h.isFull_iff.mp hfull)
    exact h.oldest_taken
  drained _ _ := h.drained
  dequeued hsome := by
    cases items with
    | nil =>
      have hnone := q.ring.isEmpty_iff.mpr h.count
      cases hsome.symm.trans hnone
    | cons item rest => exact h.oldest_taken
  delivers _ _ := h.dequeueSeeing_of_ready
  answers := h.receive_ne_invalidState

/-! ## Runs -/

/-- However a new queue was used, and in whichever mode, unless it is closed or its destructor has
failed: its slots hold an item exactly where its ring has an entry, and every operation finds the slots
that it counts on. -/
theorem run_slotsMatch {capacity : UInt64} {overflow : Overflow} {destructor : Option (Destructor α)}
    (hq : create capacity overflow destructor = .ok q) (calls : List (Call α))
    (hopen : (q.run calls).2.closed = false) (hsound : (q.run calls).2.poisoned = false) :
    (q.run calls).2.capacity = capacity ∧ (q.run calls).2.SlotsMatch ∧ (q.run calls).2.FindsSlots := by
  have hanswers : (q.run calls).2.isClosed = false := by rw [isClosed, hopen, hsound]; rfl
  obtain ⟨items,hholds⟩ := (orderly_of_run hq calls).holds hanswers
  obtain ⟨-,-,rfl⟩ := create_eq_ok_iff.mp hq
  have hsettings := congrArg (·.1) (run_settings (fresh capacity overflow destructor) calls)
  have hring := run_ring_capacity (fresh capacity overflow destructor) calls
  exact ⟨hsettings,hholds.slotsMatch (hring.trans hsettings.symm),hholds.findsSlots⟩

/-- The third item takes the place of the first, and a dequeue takes the second. -/
theorem run_slotsMatch_overwritten :
    ∃ q : ItemQueue Nat, create 2 .dropOldest (some ⟨(· == 9)⟩) = .ok q ∧
      let left := (q.run [.enqueue 1, .enqueue 2, .enqueue 3, .dequeue .poll]).2
      left.closed = false ∧ left.poisoned = false ∧ left.slots = #[some 3, none] ∧
        left.ring.slots = [0] ∧ left.SlotsMatch ∧ left.FindsSlots := by
  have hq : create 2 .dropOldest (some (⟨(· == 9)⟩ : Destructor Nat)) = .ok (fresh 2 .dropOldest _) :=
    create_eq_ok (by decide) (by decide) _ _
  obtain ⟨-,hmatch,hfinds⟩ :=
    run_slotsMatch hq [.enqueue 1, .enqueue 2, .enqueue 3, .dequeue .poll] rfl rfl
  exact ⟨_,hq,rfl,rfl,rfl,rfl,hmatch,hfinds⟩

end ItemQueue
end SensorRelay
