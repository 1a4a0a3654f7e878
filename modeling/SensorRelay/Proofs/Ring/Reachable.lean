import SensorRelay.Proofs.Ring.Positions

/-! # The rings that can be reached

An empty ring changes by advances, by giving up entries and by a new start. The next slot is a
remainder and the count a minimum, so that both stay within the capacity whatever the words of an
advance do.
-/
namespace SensorRelay
namespace Ring

/-- The rings that an empty one becomes, if an advance takes at most `most` slots and only entries that
are there are retired. -/
inductive Reachable (most : Nat) (capacity : UInt64) : Ring → Prop where
  | empty : Reachable most capacity (empty capacity)
  | advance {r : Ring} {n : UInt64} (h : Reachable most capacity r) (hn : n.toNat ≤ most) :
      Reachable most capacity (r.advance n)
  | retire {r : Ring} {n : UInt64} (h : Reachable most capacity r) (hn : n.toNat ≤ r.count.toNat) :
      Reachable most capacity (r.retire n)
  | reset {r : Ring} (h : Reachable most capacity r) : Reachable most capacity r.reset

structure Within (r : Ring) (capacity : UInt64) : Prop where
  same : r.capacity = capacity
  next_lt : r.next.toNat < capacity.toNat
  count_le : r.count.toNat ≤ capacity.toNat

variable {r : Ring} {capacity : UInt64} {most : Nat}

theorem within_empty (hpos : 0 < capacity.toNat) : (empty capacity).Within capacity :=
  ⟨rfl,hpos,Nat.zero_le _⟩

theorem Within.advance (h : r.Within capacity) (n : UInt64) : (r.advance n).Within capacity := by
  obtain ⟨rfl,hnext,_⟩ := h
  refine ⟨rfl,?_,?_⟩
  · rw [Ring.advance, UInt64.toNat_mod]
    exact Nat.mod_lt _ (Nat.zero_lt_of_lt hnext)
  · rw [Ring.advance, UInt64.toNat_min]
    exact Nat.min_le_right _ _

theorem Within.retire (h : r.Within capacity) (n : UInt64) : (r.retire n).Within capacity := by
  refine ⟨h.same,h.next_lt,?_⟩
  rw [retire_count]
  exact (Nat.sub_le _ _).trans h.count_le

theorem Within.wellFormed (h : r.Within capacity) (hlt : capacity.toNat < 2 ^ 63) : r.WellFormed := by
  obtain ⟨rfl,hnext,hcount⟩ := h
  exact ⟨Nat.zero_lt_of_lt hnext,hlt,hnext,hcount⟩

theorem Reachable.within (h : Reachable most capacity r) (hpos : 0 < capacity.toNat) :
    r.Within capacity := by
  induction h with
  | empty => exact within_empty hpos
  | advance _ _ ih => exact ih.advance _
  | retire _ _ ih => exact ih.retire _
  | reset _ ih =>
    rw [Ring.reset, ih.same]
    exact within_empty hpos

/-! ## Filling a ring one entry at a time -/

theorem reachable_filled (hmost : 0 < most) {k : Nat} (hk : k < capacity.toNat) :
    Reachable most capacity ⟨capacity, .ofNat k, .ofNat k⟩ := by
  induction k with
  | zero => exact .empty
  | succ k ih =>
    have hsum : UInt64.ofNat k + 1 = UInt64.ofNat (k + 1) := (UInt64.ofNat_add k 1).symm
    have hlast : (UInt64.ofNat (k + 1)).toNat = k + 1 :=
      UInt64.toNat_ofNat_of_lt' (hk.trans capacity.toNat_lt)
    have hnext : UInt64.ofNat (k + 1) % capacity = UInt64.ofNat (k + 1) := by
      apply UInt64.toNat_inj.mp
      rw [UInt64.toNat_mod, hlast]
      exact Nat.mod_eq_of_lt hk
    have hcount : min (UInt64.ofNat (k + 1)) capacity = UInt64.ofNat (k + 1) := by
      apply UInt64.toNat_inj.mp
      rw [UInt64.toNat_min, hlast]
      exact Nat.min_eq_left hk.le
    have hstep := (ih (Nat.lt_of_succ_lt hk)).advance (n := 1) hmost
    rw [Ring.advance, hsum, hnext, hcount] at hstep
    exact hstep

theorem reachable_full (hmost : 0 < most) (hpos : 0 < capacity.toNat) :
    Reachable most capacity ⟨capacity, 0, capacity⟩ := by
  have hsum : UInt64.ofNat (capacity.toNat - 1) + 1 = capacity := by
    rw [← UInt64.ofNat_one, ← UInt64.ofNat_add, Nat.sub_add_cancel hpos]
    exact UInt64.ofNat_toNat
  have hself : capacity % capacity = 0 := by
    apply UInt64.toNat_inj.mp
    rw [UInt64.toNat_mod, Nat.mod_self]
    rfl
  have hcount : min capacity capacity = capacity := by
    apply UInt64.toNat_inj.mp
    rw [UInt64.toNat_min, Nat.min_self]
  have hstep := (reachable_filled hmost (Nat.sub_one_lt_of_lt hpos)).advance (n := 1) hmost
  rw [Ring.advance, hsum, hself, hcount] at hstep
  exact hstep

end Ring
end SensorRelay
