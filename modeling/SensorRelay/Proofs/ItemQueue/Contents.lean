import Mathlib.Data.List.Basic
import SensorRelay.ItemQueue
import SensorRelay.Proofs.Ring.Positions
import SensorRelay.Proofs.Wait

/-! # What a queue of items holds

The slots of an open queue hold a list of items from the ring's oldest position on, and every other
slot is vacant. Each operation is described once by what it does to this list; later proofs do not
look at slots.
-/
namespace SensorRelay
namespace ItemQueue
variable {α : Type}

/-- An open queue whose slots hold `items`, oldest first, and nothing else. -/
structure Holds (q : ItemQueue α) (items : List α) : Prop where
  opened : q.closed = false
  sound : q.poisoned = false
  ring : q.ring.WellFormed
  size : q.slots.size = q.ring.capacity.toNat
  count : q.ring.count.toNat = items.length
  /-- Positions past the last item read as vacant slots. -/
  cell : ∀ k < q.ring.capacity.toNat, q.slots[q.ring.position k]?.join = items[k]?

variable {q : ItemQueue α} {items : List α}

def stored (q : ItemQueue α) : List α :=
  (List.range q.ring.count.toNat).filterMap fun k => item? q.slots (q.ring.slotAt (.ofNat k))

/-- What a destructor makes of a list of items: those that it finishes, and the one that it fails
on. -/
def discardAll (destructor : Option (Destructor α)) : List α → List α × Option α
  | [] => ([], none)
  | item :: rest =>
    let (destroyed, failed) := discard destructor item
    if failed then (destroyed, some item)
    else
      let (later, failedOn) := discardAll destructor rest
      (destroyed ++ later, failedOn)

/-- All items are finished, or those in front of the first that the destructor fails on. -/
theorem discardAll_cases (d : Destructor α) (items : List α) :
    (discardAll (some d) items = (items, none) ∧ ∀ item ∈ items, d.fails item = false) ∨
    ∃ finished item lost, items = finished ++ item :: lost ∧
      discardAll (some d) items = (finished, some item) ∧
      (∀ x ∈ finished, d.fails x = false) ∧ d.fails item = true := by
  induction items with
  | nil => exact .inl ⟨rfl,fun _ h => absurd h List.not_mem_nil⟩
  | cons first rest ih =>
    cases hfirst : d.fails first with
    | true =>
      refine .inr ⟨[],first,rest,rfl,?_,fun _ h => absurd h List.not_mem_nil,hfirst⟩
      simp [discardAll, discard, hfirst]
    | false =>
      rcases ih with ⟨hall,hrest⟩ | ⟨finished,item,lost,rfl,hall,hfinished,hitem⟩
      · refine .inl ⟨?_,List.forall_mem_cons.mpr ⟨hfirst,hrest⟩⟩
        simp [discardAll, discard, hfirst, hall]
      · refine .inr ⟨first :: finished,item,lost,rfl,?_,
          List.forall_mem_cons.mpr ⟨hfirst,hfinished⟩,hitem⟩
        simp [discardAll, discard, hfirst, hall]

/-! ## Slots -/

theorem cell_write {ring : Ring} (hring : ring.WellFormed) {slots : Array (Option α)}
    (hsize : slots.size = ring.capacity.toNat) {j k : Nat} (hj : j < ring.capacity.toNat)
    (hk : k < ring.capacity.toNat) (cell : Option α) :
    (slots.setIfInBounds (ring.position j) cell)[ring.position k]?.join =
      if k = j then cell else slots[ring.position k]?.join := by
  by_cases h : k = j
  · subst h
    have hlt : ring.position k < slots.size := hsize ▸ hring.position_lt k
    simp [hlt]
  · have hne : ring.position j ≠ ring.position k := by
      rw [Ne, ring.position_inj hj hk]
      exact Ne.symm h
    rw [Array.getElem?_setIfInBounds_ne hne, if_neg h]

theorem Holds.length_le (h : q.Holds items) :
    items.length ≤ q.ring.capacity.toNat := h.count ▸ h.ring.count_le

theorem Holds.isClosed (h : q.Holds items) :
    q.isClosed = false := by
  simp [ItemQueue.isClosed, h.opened, h.sound]

theorem Holds.oldest (h : q.Holds items) :
    item? q.slots q.ring.oldest = items[0]? := by
  rw [item?, h.ring.oldest_toNat]
  exact h.cell 0 h.ring.capacity_pos

theorem Holds.isFull_iff (h : q.Holds items) :
    q.ring.isFull = true ↔ items.length = q.ring.capacity.toNat := by
  rw [Ring.isFull_iff, h.count]

theorem Holds.exists_oldest (h : q.Holds items) (hfull : items.length = q.ring.capacity.toNat) :
    ∃ oldest rest, items = oldest :: rest :=
  List.exists_cons_of_length_pos (hfull ▸ h.ring.capacity_pos)

private theorem filterMap_range_getElem? (items : List α) :
    (List.range items.length).filterMap (fun k => items[k]?) = items := by
  induction items with
  | nil => rfl
  | cons item rest ih =>
    rw [List.length_cons, List.range_succ_eq_map]
    simpa [List.filterMap_map, Function.comp_def] using ih

/-- The walk from the oldest slot reads the items back. -/
theorem Holds.stored_eq (h : q.Holds items) :
    q.stored = items := by
  have hread : ∀ k ∈ List.range q.ring.count.toNat,
      item? q.slots (q.ring.slotAt (.ofNat k)) = items[k]? := by
    intro k hk
    have hlt : k < q.ring.count.toNat := List.mem_range.mp hk
    rw [item?, h.ring.slotAt_ofNat hlt.le]
    exact h.cell k (hlt.trans_le h.ring.count_le)
  rw [stored, List.filterMap_congr hread, h.count, filterMap_range_getElem?]

theorem stored_of_empty {q : ItemQueue α} (h : q.ring.count = 0) : q.stored = [] := by
  rw [stored, h]
  rfl

/-! ## Creation -/

def fresh (capacity : UInt64) (overflow : Overflow) (destructor : Option (Destructor α)) :
    ItemQueue α :=
  ⟨capacity, overflow, destructor, .empty capacity, Array.replicate capacity.toNat none, false, false⟩

theorem create_eq_ok {capacity : UInt64} (hpos : 0 < capacity.toNat)
    (hlt : capacity.toNat < 2 ^ 63) (overflow : Overflow) (destructor : Option (Destructor α)) :
    create capacity overflow destructor = .ok (fresh capacity overflow destructor) := by
  rw [create, Ring.create_eq_ok hpos hlt]
  rfl

theorem fresh_holds {capacity : UInt64} (hpos : 0 < capacity.toNat)
    (hlt : capacity.toNat < 2 ^ 63) (overflow : Overflow) (destructor : Option (Destructor α)) :
    (fresh capacity overflow destructor).Holds [] where
  opened := rfl
  sound := rfl
  ring := Ring.empty_wellFormed hpos hlt
  size := Array.size_replicate
  count := rfl
  cell k _ := by
    have hslot : (Ring.empty capacity).position k < capacity.toNat :=
      (Ring.empty_wellFormed hpos hlt).position_lt k
    simp only [fresh, Array.getElem?_replicate, List.getElem?_nil]
    rw [if_pos hslot]
    rfl

/-! ## One item in, one item out -/

theorem Holds.store (h : q.Holds items)
    (hroom : items.length < q.ring.capacity.toNat) (item : α) :
    (q.store item).Holds (items ++ [item]) := by
  have hone : (1 : UInt64).toNat ≤ q.ring.capacity.toNat := h.ring.capacity_pos
  have hcount : (q.ring.advance 1).count.toNat = items.length + 1 := by
    rw [h.ring.advance_count hone, h.count]
    exact Nat.min_eq_left hroom
  refine ⟨h.opened,h.sound,h.ring.advance hone,?_,?_,?_⟩
  · simpa [ItemQueue.store] using h.size
  · simpa [ItemQueue.store] using hcount
  · intro k hk
    have hshift : q.ring.count.toNat + (1 : UInt64).toNat - (q.ring.advance 1).count.toNat = 0 := by
      rw [hcount, h.count]
      exact Nat.sub_self _
    change (q.slots.setIfInBounds q.ring.next.toNat (some item))[(q.ring.advance 1).position k]?.join = _
    rw [h.ring.advance_position hone, hshift, Nat.zero_add, ← h.ring.position_count, h.count,
      cell_write h.ring h.size hroom hk, h.cell k hk]
    by_cases hlast : k = items.length
    · simp [hlast]
    · rw [if_neg hlast]
      by_cases hold : k < items.length
      · rw [List.getElem?_append_left hold]
      · rw [List.getElem?_eq_none (by omega), List.getElem?_eq_none (by simp; omega)]

def popped (q : ItemQueue α) : ItemQueue α :=
  { q with slots := vacate q.slots q.ring.oldest, ring := q.ring.retire 1 }

theorem Holds.popped {q : ItemQueue α} {item : α} {rest : List α} (h : q.Holds (item :: rest)) :
    q.popped.Holds rest := by
  have hlen := h.length_le
  rw [List.length_cons] at hlen
  have hone : (1 : UInt64).toNat ≤ q.ring.count.toNat := by
    rw [h.count, List.length_cons]
    exact Nat.le_add_left 1 _
  refine ⟨h.opened,h.sound,h.ring.retire 1,?_,?_,?_⟩
  · simpa [ItemQueue.popped, vacate] using h.size
  · change (q.ring.retire 1).count.toNat = _
    rw [Ring.retire_count, h.count]
    rfl
  · intro k hk
    change k < q.ring.capacity.toNat at hk
    change (q.slots.setIfInBounds q.ring.oldest.toNat none)[(q.ring.retire 1).position k]?.join = _
    rw [h.ring.retire_position hone, h.ring.oldest_toNat]
    change (q.slots.setIfInBounds (q.ring.position 0) none)[q.ring.position (1 + k)]?.join = _
    by_cases hlast : 1 + k < q.ring.capacity.toNat
    · rw [cell_write h.ring h.size h.ring.capacity_pos hlast, if_neg (by omega), h.cell _ hlast,
        Nat.add_comm, List.getElem?_cons_succ]
    · -- The last position comes round to the slot just vacated.
      have hturn : 1 + k = 0 + q.ring.capacity.toNat := by omega
      rw [hturn, Ring.position_add_capacity,
        cell_write h.ring h.size h.ring.capacity_pos h.ring.capacity_pos, if_pos rfl,
        List.getElem?_eq_none (by omega)]

theorem Holds.popped_room {q : ItemQueue α} {item : α} {rest : List α} (h : q.Holds (item :: rest)) :
    rest.length < q.popped.ring.capacity.toNat := h.length_le

theorem Holds.take_cons {q : ItemQueue α} {item : α} {rest : List α} (h : q.Holds (item :: rest)) :
    q.take = .ok (some item, q.popped) := by
  rw [take, h.isClosed, h.oldest]
  rfl

theorem Holds.pending_iff (h : q.Holds items) :
    q.pending = items.isEmpty := by
  rw [pending, h.isClosed, Bool.not_false, Bool.true_and, Bool.eq_iff_iff, Ring.isEmpty_iff, h.count,
    List.isEmpty_iff, List.length_eq_zero_iff]

theorem Holds.dequeue_nil {q : ItemQueue α} (h : q.Holds []) (timeout : Timeout) :
    q.dequeue timeout = if timeout.isEndless then none else some (.error .timeout) := by
  rw [dequeue, dequeueSeeing, Wait.run_alone_of_pending (h.pending_iff.trans rfl)]
  cases timeout.isEndless <;> rfl

theorem Holds.dequeue_cons {q : ItemQueue α} {item : α} {rest : List α}
    (h : q.Holds (item :: rest)) (timeout : Timeout) :
    q.dequeue timeout = some (.ok (some item, q.popped)) := by
  rw [dequeue, dequeueSeeing, Wait.run_alone_of_ready (h.pending_iff.trans rfl)]
  exact congrArg some h.take_cons

/-- A closed or poisoned queue refuses without waiting. -/
theorem dequeue_of_closed {q : ItemQueue α} (h : q.isClosed = true) (timeout : Timeout) :
    q.dequeue timeout = some (.error .invalidState) := by
  have hready : q.pending = false := by simp [pending, h]
  rw [dequeue, dequeueSeeing, Wait.run_alone_of_ready hready]
  simp [take, h]

/-- A dequeue that takes has not waited for it. -/
theorem take_of_dequeue {q left : ItemQueue α} {timeout : Timeout} {item : Option α}
    (h : q.dequeue timeout = some (.ok (item,left))) : q.take = .ok (item,left) := by
  rw [dequeue, dequeueSeeing] at h
  rcases Wait.run_alone_cases pending q timeout with ⟨-,hrun⟩ | hrun | hrun
  · rw [hrun] at h
    exact Option.some.inj h
  · rw [hrun] at h
    cases h
  · rw [hrun] at h
    cases h

/-! ## Discarding -/

theorem drainFrom_succ {destructor : Option (Destructor α)} {ring : Ring} {k : UInt64}
    {slots : Array (Option α)} {item : α} (h : item? slots (ring.slotAt k) = some item) (n : Nat) :
    drainFrom destructor ring (n + 1) k slots =
      if (discard destructor item).2 then
        ⟨vacate slots (ring.slotAt k), (discard destructor item).1, some item⟩
      else
        let rest := drainFrom destructor ring n (k + 1) (vacate slots (ring.slotAt k))
        { rest with destroyed := (discard destructor item).1 ++ rest.destroyed } := by
  simp only [drainFrom, h]

/-- The slots before the `k`-th turn of a drain: the positions before `k` are vacant. -/
structure DrainedTo (ring : Ring) (items : List α) (k : Nat) (slots : Array (Option α)) : Prop where
  size : slots.size = ring.capacity.toNat
  cell : ∀ j < ring.capacity.toNat, slots[ring.position j]?.join = if j < k then none else items[j]?

/-- A turn finds the item of its position, and the slot that it empties joins the vacant ones. -/
theorem DrainedTo.turn {ring : Ring} (hring : ring.WellFormed) (hcount : ring.count.toNat = items.length)
    {k : UInt64} {slots : Array (Option α)} (h : DrainedTo ring items k.toNat slots)
    (hlt : k.toNat < items.length) :
    item? slots (ring.slotAt k) = some items[k.toNat] ∧
      DrainedTo ring items (k + 1).toNat (vacate slots (ring.slotAt k)) := by
  have hle := hring.count_le
  have hword := hring.capacity_lt
  have hkc : k.toNat < ring.capacity.toNat := by omega
  have hslot : (ring.slotAt k).toNat = ring.position k.toNat := hring.slotAt_toNat (by omega)
  have hnext : (k + 1).toNat = k.toNat + 1 := Ring.toNat_add_of_lt (by simp; omega)
  refine ⟨?_,?_,?_⟩
  · rw [item?, hslot, h.cell _ hkc, if_neg (lt_irrefl _), List.getElem?_eq_getElem hlt]
  · simpa [vacate] using h.size
  · intro j hj
    rw [vacate, hslot, cell_write hring h.size hkc hj, h.cell j hj, hnext]
    by_cases hjk : j = k.toNat
    · simp [hjk]
    · rw [if_neg hjk]
      exact if_congr (by omega) rfl rfl

/-- `n` turns of a drain, from the `k`-th on: they discard the items of these positions, in order, and
leave no item behind unless the destructor fails. -/
theorem drainFrom_eq {ring : Ring} (hring : ring.WellFormed) (destructor : Option (Destructor α))
    {items : List α} (hcount : ring.count.toNat = items.length) (n : Nat) :
    ∀ (k : UInt64) (slots : Array (Option α)), k.toNat + n ≤ items.length →
      DrainedTo ring items k.toNat slots →
      ∃ left : Array (Option α),
        drainFrom destructor ring n k slots =
          ⟨left, (discardAll destructor ((items.drop k.toNat).take n)).1,
            (discardAll destructor ((items.drop k.toNat).take n)).2⟩ ∧
        ((discardAll destructor ((items.drop k.toNat).take n)).2 = none →
          DrainedTo ring items (k.toNat + n) left) := by
  induction n with
  | zero =>
    intro k slots _ hto
    exact ⟨slots,by simp [drainFrom, discardAll],fun _ => hto⟩
  | succ n ih =>
    intro k slots hk hto
    have hlt : k.toNat < items.length := by omega
    obtain ⟨hitem,hturned⟩ := hto.turn hring hcount hlt
    have hle := hring.count_le
    have hword := hring.capacity_lt
    have hnext : (k + 1).toNat = k.toNat + 1 := Ring.toNat_add_of_lt (by simp; omega)
    have hdrop : (items.drop k.toNat).take (n + 1) =
        items[k.toNat] :: (items.drop (k.toNat + 1)).take n := by
      rw [List.drop_eq_getElem_cons hlt, List.take_succ_cons]
    cases hd : discard destructor items[k.toNat] with
    | mk destroyed failed =>
      cases failed with
      | true =>
        refine ⟨vacate slots (ring.slotAt k),?_,?_⟩
        · rw [drainFrom_succ hitem, hdrop, discardAll, hd]
          rfl
        · rw [hdrop, discardAll, hd]
          exact fun hnone => nomatch hnone
      | false =>
        obtain ⟨left,heq,hleft⟩ := ih (k + 1) (vacate slots (ring.slotAt k)) (by omega) hturned
        have hend : k.toNat + 1 + n = k.toNat + (n + 1) := by omega
        rw [hnext] at heq hleft
        rw [hend] at hleft
        refine ⟨left,?_,?_⟩
        · rw [drainFrom_succ hitem, hdrop, discardAll, hd, heq]
          rfl
        · rw [hdrop, discardAll, hd]
          exact hleft

theorem Holds.drainedTo (h : q.Holds items) : DrainedTo q.ring items 0 q.slots :=
  ⟨h.size,fun j hj => h.cell j hj⟩

/-- The first `n` turns of a drain. -/
theorem Holds.drainFrom_le (h : q.Holds items) {n : Nat} (hn : n ≤ items.length) :
    ∃ left, ItemQueue.drainFrom q.destructor q.ring n 0 q.slots =
        ⟨left,(discardAll q.destructor (items.take n)).1,(discardAll q.destructor (items.take n)).2⟩ ∧
      ((discardAll q.destructor (items.take n)).2 = none → DrainedTo q.ring items n left) := by
  have hfirst := drainFrom_eq h.ring q.destructor h.count n 0 q.slots (by simpa using hn) h.drainedTo
  simpa using hfirst

theorem Holds.drainFrom (h : q.Holds items) :
    ∃ left, ItemQueue.drainFrom q.destructor q.ring q.ring.count.toNat 0 q.slots =
        ⟨left,(discardAll q.destructor items).1,(discardAll q.destructor items).2⟩ ∧
      ((discardAll q.destructor items).2 = none → DrainedTo q.ring items items.length left) := by
  have hall := h.drainFrom_le le_rfl
  rw [List.take_length] at hall
  rw [h.count]
  exact hall

/-- A drain that the destructor survives leaves the queue empty. -/
theorem Holds.drain_finished (h : q.Holds items)
    (hf : (discardAll q.destructor items).2 = none) :
    ∃ left, q.drain = ⟨.returned (),(discardAll q.destructor items).1,
        { q with slots := left, ring := q.ring.reset }⟩ ∧
      Holds { q with slots := left, ring := q.ring.reset } [] := by
  obtain ⟨left,heq,hleft⟩ := h.drainFrom
  obtain ⟨hsize,hcell⟩ := hleft hf
  refine ⟨left,?_,h.opened,h.sound,h.ring.reset,hsize,rfl,?_⟩
  · rw [ItemQueue.drain, heq, hf]
  · intro k hk
    have hk' : q.ring.reset.position k < q.ring.capacity.toNat := h.ring.reset.position_lt k
    obtain ⟨j,hj,hslot⟩ := h.ring.exists_position hk'
    change left[q.ring.reset.position k]?.join = _
    rw [← hslot, hcell j hj, List.getElem?_nil]
    by_cases hjl : j < items.length
    · rw [if_pos hjl]
    · rw [if_neg hjl, List.getElem?_eq_none (Nat.le_of_not_lt hjl)]

/-- A drain that the destructor fails in leaves the queue poisoned. -/
theorem Holds.drain_failed {item : α} (h : q.Holds items)
    (hf : (discardAll q.destructor items).2 = some item) :
    ∃ left, q.drain = ⟨.failedOn item,(discardAll q.destructor items).1,
      { q with slots := left, poisoned := true }⟩ := by
  obtain ⟨left,heq,-⟩ := h.drainFrom
  refine ⟨left,?_⟩
  rw [ItemQueue.drain, heq, hf]

/-- The effect of a call in which the destructor fails on `item`: it has finished the items in front
of it, and the queue is poisoned. -/
structure Breaks {ρ : Type} (d : Destructor α) (items : List α) (item : α) (e : Effect α ρ) : Prop where
  ending : e.ending = .failedOn item
  split : ∃ lost, items = e.destroyed ++ item :: lost
  finished : ∀ x ∈ e.destroyed, d.fails x = false
  failed : d.fails item = true
  poisoned : e.queue.poisoned = true

/-- A drain finishes every item and leaves the queue empty, or it breaks. -/
theorem Holds.drain_or_breaks {d : Destructor α} (h : q.Holds items) (hd : q.destructor = some d) :
    ((∀ item ∈ items, d.fails item = false) ∧
      ∃ left, q.drain = ⟨.returned (),items,{ q with slots := left, ring := q.ring.reset }⟩ ∧
        Holds { q with slots := left, ring := q.ring.reset } []) ∨
    ∃ item, Breaks d items item q.drain := by
  rcases discardAll_cases d items with ⟨hall,hfine⟩ | ⟨finished,item,lost,hitems,hall,hfinished,hitem⟩
  · rw [← hd] at hall
    obtain ⟨left,hdrain,hleft⟩ := h.drain_finished (congrArg Prod.snd hall)
    rw [hall] at hdrain
    exact .inl ⟨hfine,left,hdrain,hleft⟩
  · rw [← hd] at hall
    obtain ⟨left,hdrain⟩ := h.drain_failed (congrArg Prod.snd hall)
    rw [hdrain, hall]
    exact .inr ⟨item,rfl,⟨lost,hitems⟩,hfinished,hitem,rfl⟩

/-! ## Enqueue -/

theorem Holds.enqueue_room (h : q.Holds items)
    (hroom : items.length < q.ring.capacity.toNat) (item : α) :
    q.enqueue item = .returning (q.store item) (.ok ()) := by
  have hfull : ¬ q.ring.isFull = true := by
    rw [h.isFull_iff]
    omega
  simp only [enqueue, h.isClosed, hfull, Bool.false_eq_true, ↓reduceIte]

theorem Holds.enqueue_refused (h : q.Holds items)
    (hfull : items.length = q.ring.capacity.toNat) (hkeep : q.overflow = .avoidDrop) (item : α) :
    q.enqueue item = .returning q (.error ⟨.queueFull,item⟩) := by
  simp only [enqueue, h.isClosed, h.isFull_iff.mpr hfull, hkeep, Bool.false_eq_true, ↓reduceIte]

/-- An eviction discards the oldest item; the ring moves on only if the destructor survives. -/
theorem Holds.evict {q : ItemQueue α} {oldest : α} {rest : List α} (h : q.Holds (oldest :: rest)) :
    q.evict =
      if (discard q.destructor oldest).2 then
        ⟨.failedOn oldest,(discard q.destructor oldest).1,
          { q with slots := vacate q.slots q.ring.oldest, poisoned := true }⟩
      else ⟨.returned (),(discard q.destructor oldest).1,q.popped⟩ := by
  have hitem : item? q.slots q.ring.oldest = some oldest := h.oldest
  simp only [ItemQueue.evict, hitem, ItemQueue.popped]

/-- A full queue that drops its oldest item stores the new one behind the rest. -/
theorem Holds.enqueue_evicting {q : ItemQueue α} {oldest : α} {rest : List α}
    (h : q.Holds (oldest :: rest)) (hfull : rest.length + 1 = q.ring.capacity.toNat)
    (hdrop : q.overflow = .dropOldest) (item : α) :
    q.enqueue item =
      if (discard q.destructor oldest).2 then
        ⟨.failedOn oldest,(discard q.destructor oldest).1,
          { q with slots := vacate q.slots q.ring.oldest, poisoned := true }⟩
      else ⟨.returned (.ok ()),(discard q.destructor oldest).1,q.popped.store item⟩ := by
  conv_lhs => rw [enqueue, h.isClosed, h.isFull_iff.mpr hfull, hdrop, h.evict]
  cases (discard q.destructor oldest).2 with
  | true => rfl
  | false => rfl

/-- An enqueue finds room, is refused, or takes the place of the oldest item, unless the destructor fails
on that one. -/
theorem Holds.enqueue_cases (h : q.Holds items) (item : α) :
    (items.length < q.ring.capacity.toNat ∧ q.enqueue item = .returning (q.store item) (.ok ()) ∧
        (q.store item).Holds (items ++ [item])) ∨
      items.length = q.ring.capacity.toNat ∧
        (q.overflow = .avoidDrop ∧ q.enqueue item = .returning q (.error ⟨.queueFull,item⟩) ∨
          q.overflow = .dropOldest ∧ ∃ oldest rest, items = oldest :: rest ∧
            (q.popped.store item).Holds (rest ++ [item]) ∧
            q.enqueue item =
              if (discard q.destructor oldest).2 then
                ⟨.failedOn oldest,(discard q.destructor oldest).1,
                  { q with slots := vacate q.slots q.ring.oldest, poisoned := true }⟩
              else ⟨.returned (.ok ()),(discard q.destructor oldest).1,q.popped.store item⟩) := by
  rcases h.length_le.lt_or_eq with hroom | hfull
  · exact .inl ⟨hroom,h.enqueue_room hroom item,h.store hroom item⟩
  have hmode : q.overflow = .avoidDrop ∨ q.overflow = .dropOldest := by
    cases q.overflow with
    | avoidDrop => exact .inl rfl
    | dropOldest => exact .inr rfl
  refine .inr ⟨hfull,hmode.imp (fun hkeep => ⟨hkeep,h.enqueue_refused hfull hkeep item⟩) fun hdrop => ?_⟩
  obtain ⟨oldest,rest,rfl⟩ := h.exists_oldest hfull
  exact ⟨hdrop,oldest,rest,rfl,h.popped.store h.popped_room item,h.enqueue_evicting hfull hdrop item⟩

end ItemQueue
end SensorRelay
