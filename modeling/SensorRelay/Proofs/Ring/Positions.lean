import Mathlib.Data.Nat.ModEq
import Mathlib.Tactic.Common
import SensorRelay.Ring

/-! # Slots of a ring as natural numbers

A ring whose capacity can be allocated never overflows its words, so that slots can be counted in
natural numbers. The positions `0 .. capacity - 1`, counted from the oldest entry, are exactly the
slots; the first `count` of them are taken. Every operation on the ring shifts the positions.
-/
namespace SensorRelay
namespace Ring

/-- What every ring of a queue satisfies. The upper bound keeps sums of two indices in a word. -/
structure WellFormed (r : Ring) : Prop where
  capacity_pos : 0 < r.capacity.toNat
  capacity_lt : r.capacity.toNat < 2 ^ 63
  next_lt : r.next.toNat < r.capacity.toNat
  count_le : r.count.toNat ≤ r.capacity.toNat

/-- The slot `k` places after that of the oldest entry, in natural numbers. -/
def position (r : Ring) (k : Nat) : Nat :=
  (r.next.toNat + (r.capacity.toNat - r.count.toNat) + k) % r.capacity.toNat

variable {r : Ring} {n : UInt64}

theorem create_eq_ok {capacity : UInt64} (hpos : 0 < capacity.toNat) (hlt : capacity.toNat < 2 ^ 63) :
    Ring.create capacity = .ok (empty capacity) := by
  have hne : capacity ≠ 0 := by
    rintro rfl
    exact absurd hpos (by decide)
  have hle : ¬ allocationLimit ≤ capacity := by
    rw [UInt64.le_iff_toNat_le]
    exact Nat.not_le.mpr hlt
  simp only [create, if_neg hne, if_neg hle]

theorem create_eq_ok_iff {capacity : UInt64} :
    Ring.create capacity = .ok r ↔
      0 < capacity.toNat ∧ capacity.toNat < 2 ^ 63 ∧ empty capacity = r := by
  constructor
  · intro h
    have hne : capacity ≠ 0 := by
      rintro rfl
      cases h
    have hlt : ¬ allocationLimit ≤ capacity := by
      intro hle
      rw [create, if_neg hne, if_pos hle] at h
      cases h
    have hpos : 0 < capacity.toNat :=
      Nat.pos_of_ne_zero fun hzero => hne (UInt64.toNat_inj.mp hzero)
    have hlt' : capacity.toNat < 2 ^ 63 :=
      Nat.lt_of_not_le fun hle => hlt (UInt64.le_iff_toNat_le.mpr hle)
    exact ⟨hpos,hlt',Except.ok.inj ((create_eq_ok hpos hlt').symm.trans h)⟩
  · rintro ⟨hpos,hlt,rfl⟩
    exact create_eq_ok hpos hlt

theorem empty_wellFormed {capacity : UInt64} (hpos : 0 < capacity.toNat)
    (hlt : capacity.toNat < 2 ^ 63) : (empty capacity).WellFormed :=
  ⟨hpos,hlt,hpos,Nat.zero_le _⟩

theorem WellFormed.reset (h : r.WellFormed) : r.reset.WellFormed :=
  empty_wellFormed h.capacity_pos h.capacity_lt

theorem WellFormed.position_lt (h : r.WellFormed) (k : Nat) : r.position k < r.capacity.toNat :=
  Nat.mod_lt _ h.capacity_pos

/-! ## Sums of words -/

theorem toNat_add_of_lt {a b : UInt64} (h : a.toNat + b.toNat < 2 ^ 64) :
    (a + b).toNat = a.toNat + b.toNat := by
  rw [UInt64.toNat_add]
  exact Nat.mod_eq_of_lt h

/-- The slot of the oldest entry, before it is taken round the end. -/
theorem first_toNat (hsum : r.next.toNat + r.capacity.toNat < 2 ^ 64)
    (hcount : r.count.toNat ≤ r.capacity.toNat) :
    (r.next + r.capacity - r.count).toNat = r.next.toNat + (r.capacity.toNat - r.count.toNat) := by
  have hpast := toNat_add_of_lt hsum
  have hle : r.count.toNat ≤ (r.next + r.capacity).toNat := by omega
  rw [UInt64.toNat_sub_of_le _ _ (UInt64.le_iff_toNat_le.mpr hle), hpast, Nat.add_sub_assoc hcount]

theorem slotAt_toNat (hsum : r.next.toNat + r.capacity.toNat < 2 ^ 64)
    (hcount : r.count.toNat ≤ r.capacity.toNat) {k : UInt64}
    (hk : (r.next + r.capacity - r.count).toNat + k.toNat < 2 ^ 64) :
    (r.slotAt k).toNat = r.position k.toNat := by
  rw [slotAt, UInt64.toNat_mod, toNat_add_of_lt hk, first_toNat hsum hcount, position]

theorem WellFormed.next_add_capacity_lt (h : r.WellFormed) :
    r.next.toNat + r.capacity.toNat < 2 ^ 64 := by
  obtain ⟨_,hlt,hnext,_⟩ := h
  omega

theorem WellFormed.count_le_next_add_capacity (h : r.WellFormed) :
    r.count.toNat ≤ (r.next + r.capacity).toNat := by
  rw [toNat_add_of_lt h.next_add_capacity_lt]
  exact h.count_le.trans (Nat.le_add_left _ _)

/-- The last sum in `slotAt` stays in a word up to the position after the last taken one. -/
theorem WellFormed.first_add_lt (h : r.WellFormed) {k : Nat} (hk : k ≤ r.count.toNat) :
    (r.next + r.capacity - r.count).toNat + k < 2 ^ 64 := by
  have hfirst := first_toNat h.next_add_capacity_lt h.count_le
  obtain ⟨_,hlt,hnext,hcount⟩ := h
  omega

theorem WellFormed.slotAt_toNat (h : r.WellFormed) {k : UInt64} (hk : k.toNat ≤ r.count.toNat) :
    (r.slotAt k).toNat = r.position k.toNat :=
  Ring.slotAt_toNat h.next_add_capacity_lt h.count_le (h.first_add_lt hk)

theorem WellFormed.slotAt_ofNat (h : r.WellFormed) {k : Nat} (hk : k ≤ r.count.toNat) :
    (r.slotAt (.ofNat k)).toNat = r.position k := by
  have hword : (UInt64.ofNat k).toNat = k := UInt64.toNat_ofNat_of_lt' (hk.trans_lt r.count.toNat_lt)
  rw [h.slotAt_toNat (hword.trans_le hk), hword]

theorem WellFormed.oldest_toNat (h : r.WellFormed) : r.oldest.toNat = r.position 0 :=
  h.slotAt_toNat (k := 0) (Nat.zero_le _)

/-- The position after the last taken one is where the next write lands. -/
theorem WellFormed.position_count (h : r.WellFormed) : r.position r.count.toNat = r.next.toNat := by
  obtain ⟨_,_,hnext,hcount⟩ := h
  have hsum : r.next.toNat + (r.capacity.toNat - r.count.toNat) + r.count.toNat =
      r.next.toNat + r.capacity.toNat := by omega
  rw [position, hsum, Nat.add_mod_right, Nat.mod_eq_of_lt hnext]

/-- Distinct places in one turn of the ring have distinct slots. -/
theorem position_inj (r : Ring) {j k : Nat} (hj : j < r.capacity.toNat)
    (hk : k < r.capacity.toNat) : r.position j = r.position k ↔ j = k := by
  constructor
  · intro he
    have hm : j ≡ k [MOD r.capacity.toNat] := Nat.ModEq.add_left_cancel' _ he
    rwa [Nat.ModEq, Nat.mod_eq_of_lt hj, Nat.mod_eq_of_lt hk] at hm
  · rintro rfl
    rfl

theorem WellFormed.exists_position (h : r.WellFormed) {slot : Nat} (hs : slot < r.capacity.toNat) :
    ∃ k < r.capacity.toNat, r.position k = slot := by
  let base := r.next.toNat + (r.capacity.toNat - r.count.toNat)
  have hbase : base % r.capacity.toNat < r.capacity.toNat := Nat.mod_lt _ h.capacity_pos
  have hdiv := Nat.div_add_mod base r.capacity.toNat
  refine ⟨(slot + (r.capacity.toNat - base % r.capacity.toNat)) % r.capacity.toNat,
    Nat.mod_lt _ h.capacity_pos,?_⟩
  have hsum : base + (slot + (r.capacity.toNat - base % r.capacity.toNat)) =
      slot + r.capacity.toNat * (base / r.capacity.toNat + 1) := by
    rw [Nat.mul_add, Nat.mul_one]
    omega
  change (base + _) % r.capacity.toNat = slot
  rw [Nat.add_mod_mod, hsum, Nat.add_mul_mod_self_left, Nat.mod_eq_of_lt hs]

theorem position_add_capacity (r : Ring) (k : Nat) :
    r.position (k + r.capacity.toNat) = r.position k := by
  rw [position, ← Nat.add_assoc, Nat.add_mod_right, position]

/-! ## Operations -/

@[simp] theorem advance_capacity (r : Ring) (n : UInt64) : (r.advance n).capacity = r.capacity := rfl

@[simp] theorem retire_capacity (r : Ring) (n : UInt64) : (r.retire n).capacity = r.capacity := rfl

@[simp] theorem retire_next (r : Ring) (n : UInt64) : (r.retire n).next = r.next := rfl

theorem isFull_iff (r : Ring) : r.isFull = true ↔ r.count.toNat = r.capacity.toNat := by
  rw [isFull, beq_iff_eq, UInt64.toNat_inj]

theorem isEmpty_iff (r : Ring) : r.isEmpty = true ↔ r.count.toNat = 0 := by
  rw [isEmpty, beq_iff_eq, ← UInt64.toNat_inj]
  rfl

theorem WellFormed.free_toNat (h : r.WellFormed) :
    r.free.toNat = r.capacity.toNat - r.count.toNat :=
  UInt64.toNat_sub_of_le _ _ (UInt64.le_iff_toNat_le.mpr h.count_le)

theorem advance_next (hsum : r.next.toNat + n.toNat < 2 ^ 64) :
    (r.advance n).next.toNat = (r.next.toNat + n.toNat) % r.capacity.toNat := by
  rw [advance, UInt64.toNat_mod, toNat_add_of_lt hsum]

theorem advance_count (hsum : r.count.toNat + n.toNat < 2 ^ 64) :
    (r.advance n).count.toNat = min (r.count.toNat + n.toNat) r.capacity.toNat := by
  rw [advance, UInt64.toNat_min, toNat_add_of_lt hsum]

theorem WellFormed.advance_next (h : r.WellFormed) (hn : n.toNat ≤ r.capacity.toNat) :
    (r.advance n).next.toNat = (r.next.toNat + n.toNat) % r.capacity.toNat := by
  obtain ⟨_,hlt,hnext,_⟩ := h
  exact Ring.advance_next (by omega)

theorem WellFormed.advance_count (h : r.WellFormed) (hn : n.toNat ≤ r.capacity.toNat) :
    (r.advance n).count.toNat = min (r.count.toNat + n.toNat) r.capacity.toNat := by
  obtain ⟨_,hlt,_,hcount⟩ := h
  exact Ring.advance_count (by omega)

theorem WellFormed.advance (h : r.WellFormed) (hn : n.toNat ≤ r.capacity.toNat) :
    (r.advance n).WellFormed where
  capacity_pos := h.capacity_pos
  capacity_lt := h.capacity_lt
  next_lt := by
    rw [h.advance_next hn]
    exact Nat.mod_lt _ h.capacity_pos
  count_le := by
    rw [h.advance_count hn]
    exact Nat.min_le_right _ _

/-- The entries that an advance overwrites are the oldest ones: the positions move on by their
number. -/
theorem WellFormed.advance_position (h : r.WellFormed) (hn : n.toNat ≤ r.capacity.toNat)
    (k : Nat) :
    (r.advance n).position k =
      r.position (r.count.toNat + n.toNat - (r.advance n).count.toNat + k) := by
  have hc := h.advance_count hn
  have hle := h.count_le
  rw [position, position, advance_capacity, h.advance_next hn, Nat.add_assoc, Nat.mod_add_mod]
  congr 1
  omega

theorem retire_count (r : Ring) (n : UInt64) :
    (r.retire n).count.toNat = r.count.toNat - n.toNat := by
  have hmin : (min n r.count).toNat = min n.toNat r.count.toNat := UInt64.toNat_min _ _
  rw [retire, UInt64.toNat_sub_of_le _ _ (UInt64.le_iff_toNat_le.mpr (by omega)), hmin]
  omega

theorem WellFormed.retire (h : r.WellFormed) (n : UInt64) : (r.retire n).WellFormed where
  capacity_pos := h.capacity_pos
  capacity_lt := h.capacity_lt
  next_lt := h.next_lt
  count_le := by
    rw [retire_count]
    exact (Nat.sub_le _ _).trans h.count_le

theorem WellFormed.retire_position (h : r.WellFormed) (hn : n.toNat ≤ r.count.toNat) (k : Nat) : (r.retire n).position k = r.position (n.toNat + k) := by
  have hle := h.count_le
  rw [position, position, retire_count, retire_capacity, retire_next]
  congr 1
  omega

end Ring
end SensorRelay
