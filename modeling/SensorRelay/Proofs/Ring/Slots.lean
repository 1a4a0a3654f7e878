import Mathlib.Data.List.DropRight
import Mathlib.Data.List.Nodup
import SensorRelay.Proofs.Ring.Reachable

/-! # The slots of the entries

The taken slots, oldest entry first, are a list of which a retire drops the front. An advance puts the
slots that it writes behind them and keeps as many from the back as the ring has room for: an entry
that is overwritten leaves the list, and all others stay where they are.
-/
namespace SensorRelay
namespace Ring

/-- The slots of the entries, the oldest first. -/
def slots (r : Ring) : List Nat :=
  (List.range r.count.toNat).map fun k => (r.slotAt (.ofNat k)).toNat

/-- The slots of the next `n` writes. -/
def written (r : Ring) (n : UInt64) : List Nat :=
  (List.range n.toNat).map fun m => (r.next.toNat + m) % r.capacity.toNat

variable {r : Ring} {capacity : UInt64}

/-! ## Slots as positions -/

theorem WellFormed.slots_eq (h : r.WellFormed) : r.slots = (List.range r.count.toNat).map r.position := by
  apply List.map_congr_left
  intro k hk
  exact h.slotAt_ofNat (List.mem_range.mp hk).le

/-- The writes go to the positions behind the entries. -/
theorem WellFormed.written_eq (h : r.WellFormed) (n : UInt64) :
    r.written n = (List.range n.toNat).map fun m => r.position (r.count.toNat + m) := by
  refine List.map_congr_left fun m _ => ?_
  have hcount := h.count_le
  have hturn : r.next.toNat + (r.capacity.toNat - r.count.toNat) + (r.count.toNat + m) =
      r.next.toNat + m + r.capacity.toNat := by omega
  rw [position, hturn, Nat.add_mod_right]

theorem WellFormed.slots_append_written (h : r.WellFormed) (n : UInt64) :
    r.slots ++ r.written n = (List.range (r.count.toNat + n.toNat)).map r.position := by
  rw [h.slots_eq, h.written_eq, List.range_add, List.map_append, List.map_map]
  rfl

theorem drop_map_range (f : Nat → Nat) (m n : Nat) :
    ((List.range (m + n)).map f).drop m = (List.range n).map fun k => f (m + k) := by
  have hfront : ((List.range m).map f).length = m := by rw [List.length_map, List.length_range]
  rw [List.range_add, List.map_append, List.map_map, List.drop_left' hfront]
  rfl

/-! ## One operation -/

theorem WellFormed.slots_nodup (h : r.WellFormed) : r.slots.Nodup := by
  rw [h.slots_eq]
  refine List.Nodup.map_on ?_ List.nodup_range
  intro j hj k hk hslot
  have hcount := h.count_le
  rw [List.mem_range] at hj hk
  exact (r.position_inj (by omega) (by omega)).mp hslot

theorem WellFormed.slots_lt (h : r.WellFormed) {slot : Nat} (hslot : slot ∈ r.slots) :
    slot < r.capacity.toNat := by
  rw [h.slots_eq] at hslot
  obtain ⟨k,-,rfl⟩ := List.mem_map.mp hslot
  exact h.position_lt k

theorem WellFormed.slots_retire (h : r.WellFormed) {n : UInt64} (hn : n.toNat ≤ r.count.toNat) :
    (r.retire n).slots = r.slots.drop n.toNat := by
  obtain ⟨left,hleft⟩ := Nat.exists_eq_add_of_le hn
  rw [(h.retire n).slots_eq, h.slots_eq, retire_count, hleft, Nat.add_sub_cancel_left, drop_map_range]
  exact List.map_congr_left fun k _ => h.retire_position hn k

theorem WellFormed.slots_advance (h : r.WellFormed) {n : UInt64} (hn : n.toNat ≤ r.capacity.toNat) :
    (r.advance n).slots =
      (r.slots ++ r.written n).rtake (min (r.count.toNat + n.toNat) r.capacity.toNat) := by
  have hcount := h.advance_count hn
  obtain ⟨lost,hlost⟩ := Nat.exists_eq_add_of_le' (Nat.min_le_left (r.count.toNat + n.toNat) r.capacity.toNat)
  have hshift : r.count.toNat + n.toNat - (r.advance n).count.toNat = lost := by omega
  rw [(h.advance hn).slots_eq, h.slots_append_written, List.rtake, List.length_map, List.length_range,
    ← hcount, hshift]
  have hall : r.count.toNat + n.toNat = lost + (r.advance n).count.toNat := by omega
  rw [hall, drop_map_range]
  refine List.map_congr_left fun k _ => ?_
  rw [h.advance_position hn, hshift]

/-! ## Two operations -/

theorem ext_toNat {r s : Ring} (hcapacity : r.capacity = s.capacity)
    (hnext : r.next.toNat = s.next.toNat) (hcount : r.count.toNat = s.count.toNat) : r = s := by
  cases r
  cases s
  rw [UInt64.toNat_inj] at hnext hcount
  subst hcapacity hnext hcount
  rfl

theorem WellFormed.advance_advance (h : r.WellFormed) {a b : UInt64}
    (hab : a.toNat + b.toNat ≤ r.capacity.toNat) : (r.advance a).advance b = r.advance (a + b) := by
  have hword := h.capacity_lt
  have hsum : (a + b).toNat = a.toNat + b.toNat := toNat_add_of_lt (by omega)
  have ha : a.toNat ≤ r.capacity.toNat := by omega
  have hb : b.toNat ≤ (r.advance a).capacity.toNat := by
    rw [advance_capacity]
    omega
  have hboth : (a + b).toNat ≤ r.capacity.toNat := hsum ▸ hab
  apply ext_toNat
  · rfl
  · rw [(h.advance ha).advance_next hb, h.advance_next ha, h.advance_next hboth, hsum, advance_capacity,
      Nat.mod_add_mod, Nat.add_assoc]
  · rw [(h.advance ha).advance_count hb, h.advance_count ha, h.advance_count hboth, hsum, advance_capacity]
    omega

theorem WellFormed.retire_advance_of_full (h : r.WellFormed) (hfull : r.isFull = true) :
    (r.retire 1).advance 1 = r.advance 1 := by
  have hone : (1 : UInt64).toNat ≤ r.capacity.toNat := h.capacity_pos
  have hcount := r.isFull_iff.mp hfull
  apply ext_toNat
  · rfl
  · rw [(h.retire 1).advance_next hone, h.advance_next hone]
    rfl
  · rw [(h.retire 1).advance_count hone, h.advance_count hone, retire_count, hcount, retire_capacity,
      Nat.sub_add_cancel hone]
    omega

/-! ## Reachable rings -/

/-- What becomes of the slots of a ring's entries. -/
structure KeepsSlots (r : Ring) : Prop where
  distinct : r.slots.Nodup
  inside : ∀ slot ∈ r.slots, slot < r.capacity.toNat
  retire : ∀ n, n.toNat ≤ r.count.toNat → (r.retire n).slots = r.slots.drop n.toNat
  advance : ∀ n, n.toNat ≤ r.capacity.toNat →
    (r.advance n).slots =
      (r.slots ++ r.written n).rtake (min (r.count.toNat + n.toNat) r.capacity.toNat)
  advance_advance : ∀ a b, a.toNat + b.toNat ≤ r.capacity.toNat →
    (r.advance a).advance b = r.advance (a + b)
  turnover : r.isFull = true → (r.retire 1).advance 1 = r.advance 1

/-- Whatever became of a ring that can be allocated, its entries have slots of their own, and they keep
them until they are retired or overwritten. -/
theorem reachable_keepsSlots (hpos : 0 < capacity.toNat) (hlt : capacity.toNat < 2 ^ 63)
    (h : Reachable capacity.toNat capacity r) : r.KeepsSlots := by
  have hring : r.WellFormed := (h.within hpos).wellFormed hlt
  constructor
  · exact hring.slots_nodup
  · exact fun slot => hring.slots_lt
  · exact fun n => hring.slots_retire
  · exact fun n => hring.slots_advance
  · exact fun a b => hring.advance_advance
  · exact hring.retire_advance_of_full

/-- Three writes to a ring of four slots with three entries overwrite two of them. -/
theorem reachable_keepsSlots_overwritten :
    let r := ((empty 4).advance 4).retire 1
    Reachable 4 4 r ∧ r.slots = [1, 2, 3] ∧ r.written 3 = [0, 1, 2] ∧
      (r.advance 3).slots = [3, 0, 1, 2] ∧ (r.retire 2).slots = [3] ∧
      (r.advance 1).advance 2 = r.advance 3 := by
  intro r
  have hr : Reachable (4 : UInt64).toNat 4 r := (Reachable.empty.advance (by decide)).retire (by decide)
  have hslots : r.slots = [1, 2, 3] := by decide
  have hwritten : r.written 3 = [0, 1, 2] := by decide
  have hkeeps : r.KeepsSlots := reachable_keepsSlots (by decide) (by decide) hr
  refine ⟨hr,hslots,hwritten,?_,?_,hkeeps.advance_advance 1 2 (by decide)⟩
  · rw [hkeeps.advance 3 (by decide), hslots, hwritten]
    rfl
  · rw [hkeeps.retire 2 (by decide), hslots]
    rfl

end Ring
end SensorRelay
