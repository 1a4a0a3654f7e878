import SensorRelay.Proofs.Machine.Steps
import SensorRelay.Proofs.Ring.Reachable

/-! # When the words of a ring suffice

The sums of a ring stay in a word up to a capacity that depends on what is asked of it. Past that an
operation ends at the first sum that is not a word; there is no third case. The bounds are sharp, because
single writes fill every ring, and a full ring or one whose last slot is next needs the most room.
-/
namespace SensorRelay

/-- An operation that ends at a sum that is not a word. -/
def Traced.Overflows {α : Type} (t : Traced α) : Prop :=
  ∃ a b, 2 ^ 64 ≤ a + b ∧ t.outcome = .error (.sum a b)

namespace Ring
open Traced

/-- An advance that ends, and as the advance by unbounded numbers. -/
structure AdvancesExactly (r : Ring) (n : UInt64) : Prop where
  outcome : (r.advanceTraced n).outcome = .ok (r.advance n)
  next : (r.advance n).next.toNat = (r.next.toNat + n.toNat) % r.capacity.toNat
  count : (r.advance n).count.toNat = min (r.count.toNat + n.toNat) r.capacity.toNat

/-- A slot that is found, and is the slot by unbounded numbers. -/
structure LocatesExactly (r : Ring) (k : UInt64) : Prop where
  outcome : (r.slotAtTraced k).outcome = .ok (r.slotAt k)
  slot : ((r.slotAt k).toNat : ℤ) = ((r.next.toNat : ℤ) - r.count.toNat + k.toNat) % r.capacity.toNat

variable {r : Ring} {capacity k n : UInt64} {most : Nat}

/-! ## One operation -/

theorem advanceTraced_steps (r : Ring) (n : UInt64) : (r.advanceTraced n).steps =
    [.sum r.next.toNat n.toNat, .remainder r.capacity.toNat, .sum r.count.toNat n.toNat] := rfl

theorem advanceTraced_safe_iff (hpos : 0 < r.capacity.toNat) :
    (r.advanceTraced n).Safe ↔
      r.next.toNat + n.toNat < 2 ^ 64 ∧ r.count.toNat + n.toNat < 2 ^ 64 := by
  simp [Safe, advanceTraced_steps, Machine.Step.Sound, hpos]

theorem advancesExactly_iff (hpos : 0 < r.capacity.toNat) :
    r.AdvancesExactly n ↔
      r.next.toNat + n.toNat < 2 ^ 64 ∧ r.count.toNat + n.toNat < 2 ^ 64 := by
  constructor
  · intro h
    exact (advanceTraced_safe_iff hpos).mp (outcome_eq_ok_iff.mp h.outcome).1
  · rintro ⟨hnext,hcount⟩
    exact ⟨((advanceTraced_safe_iff hpos).mpr ⟨hnext,hcount⟩).outcome,advance_next hnext,
      advance_count hcount⟩

/-- An advance that fails, fails in its first sum or else in its second. -/
theorem advance_overflows_iff (hpos : 0 < r.capacity.toNat) :
    (r.advanceTraced n).Overflows ↔ 2 ^ 64 ≤ max r.next.toNat r.count.toNat + n.toNat := by
  constructor
  · rintro ⟨a,b,-,hends⟩
    by_contra hfits
    have hexact := (advancesExactly_iff (n := n) hpos).mpr (by omega)
    cases hends.symm.trans hexact.outcome
  · intro hlarge
    by_cases hnext : r.next.toNat + n.toNat < 2 ^ 64
    · have hcount : ¬ r.count.toNat + n.toNat < 2 ^ 64 := by omega
      refine ⟨_,_,Nat.le_of_not_lt hcount,
        outcome_of_fault? (fault?_of_steps [_,_] (r.advanceTraced_steps n) ?_ hcount)⟩
      exact List.forall_mem_cons.mpr ⟨hnext,List.forall_mem_singleton.mpr hpos⟩
    · exact ⟨_,_,Nat.le_of_not_lt hnext,
        outcome_of_fault? (fault?_of_steps [] (r.advanceTraced_steps n) (List.forall_mem_nil _) hnext)⟩

theorem advancesExactly_or_overflows (hpos : 0 < r.capacity.toNat) (n : UInt64) :
    r.AdvancesExactly n ∨ (r.advanceTraced n).Overflows := by
  rw [advancesExactly_iff hpos, advance_overflows_iff hpos]
  omega

theorem slotAtTraced_steps (r : Ring) (k : UInt64) : (r.slotAtTraced k).steps =
    [.below k.toNat r.capacity.toNat, .sum r.next.toNat r.capacity.toNat,
      .difference (r.next + r.capacity).toNat r.count.toNat,
      .sum (r.next + r.capacity - r.count).toNat k.toNat, .remainder r.capacity.toNat] := rfl

theorem slotAtTraced_safe_iff (h : r.Within capacity) :
    (r.slotAtTraced k).Safe ↔
      k.toNat < capacity.toNat ∧ r.next.toNat + capacity.toNat < 2 ^ 64 ∧
        r.next.toNat + (capacity.toNat - r.count.toNat) + k.toNat < 2 ^ 64 := by
  obtain ⟨rfl,hnext,hcount⟩ := h
  have hpos : 0 < r.capacity.toNat := Nat.zero_lt_of_lt hnext
  simp only [Safe, slotAtTraced_steps, List.forall_mem_cons, Machine.Step.Sound, hpos]
  -- The last sum is the one over numbers once the first is known to fit.
  constructor
  · rintro ⟨hk,hsum,-,hlast,-⟩
    rw [first_toNat hsum hcount] at hlast
    exact ⟨hk,hsum,hlast⟩
  · rintro ⟨hk,hsum,hlast⟩
    have hpast := toNat_add_of_lt hsum
    refine ⟨hk,hsum,by omega,?_,trivial,fun _ hnone => absurd hnone List.not_mem_nil⟩
    rw [first_toNat hsum hcount]
    exact hlast

theorem position_eq_emod (h : r.Within capacity) (k : Nat) :
    (r.position k : ℤ) = ((r.next.toNat : ℤ) - r.count.toNat + k) % r.capacity.toNat := by
  obtain ⟨rfl,_,hcount⟩ := h
  have hturn : ((r.next.toNat + (r.capacity.toNat - r.count.toNat) + k : Nat) : ℤ) =
      (r.next.toNat : ℤ) - r.count.toNat + k + r.capacity.toNat := by omega
  rw [position, Int.natCast_mod, hturn, Int.add_emod_right]

theorem locatesExactly_iff (h : r.Within capacity) :
    r.LocatesExactly k ↔
      k.toNat < capacity.toNat ∧ r.next.toNat + capacity.toNat < 2 ^ 64 ∧
        r.next.toNat + (capacity.toNat - r.count.toNat) + k.toNat < 2 ^ 64 := by
  constructor
  · intro hexact
    exact (slotAtTraced_safe_iff h).mp (outcome_eq_ok_iff.mp hexact.outcome).1
  · intro hfits
    refine ⟨((slotAtTraced_safe_iff h).mpr hfits).outcome,?_⟩
    obtain ⟨-,hsum,hlast⟩ := hfits
    rw [← position_eq_emod h, slotAt_toNat (h.same ▸ hsum) (h.same ▸ h.count_le)]
    rw [first_toNat (h.same ▸ hsum) (h.same ▸ h.count_le), h.same]
    exact hlast

/-- Where a slot is not found, one of the two sums is not a word; the difference between them never
fails. -/
theorem locatesExactly_or_overflows (h : r.Within capacity) (hk : k < capacity) :
    r.LocatesExactly k ∨ (r.slotAtTraced k).Overflows := by
  rw [locatesExactly_iff h]
  obtain ⟨rfl,hnext,hcount⟩ := h
  rw [UInt64.lt_iff_toNat_lt] at hk
  by_cases hsum : r.next.toNat + r.capacity.toNat < 2 ^ 64
  · have hfirst := first_toNat hsum hcount
    by_cases hlast : (r.next + r.capacity - r.count).toNat + k.toNat < 2 ^ 64
    · exact .inl ⟨hk,hsum,hfirst ▸ hlast⟩
    · refine .inr ⟨_,_,Nat.le_of_not_lt hlast,
        outcome_of_fault? (fault?_of_steps [_,_,_] (r.slotAtTraced_steps k) ?_ hlast)⟩
      have hpast := toNat_add_of_lt hsum
      have hdifference : r.count.toNat ≤ (r.next + r.capacity).toNat := by omega
      exact List.forall_mem_cons.mpr
        ⟨hk,List.forall_mem_cons.mpr ⟨hsum,List.forall_mem_singleton.mpr hdifference⟩⟩
  · exact .inr ⟨_,_,Nat.le_of_not_lt hsum,
      outcome_of_fault? (fault?_of_steps [_] (r.slotAtTraced_steps k) (List.forall_mem_singleton.mpr hk)
        hsum)⟩

/-! ## Reachable rings -/

theorem advances_exactly_iff_room (hpos : 0 < capacity.toNat) (hmost : 0 < most) :
    (∀ r, Reachable most capacity r → ∀ n, n.toNat ≤ most → r.AdvancesExactly n) ↔
      capacity.toNat + most < 2 ^ 64 := by
  constructor
  · intro hexact
    let n := UInt64.ofNat (min most (2 ^ 64 - 1))
    have hn : n.toNat = min most (2 ^ 64 - 1) :=
      UInt64.toNat_ofNat_of_lt' ((Nat.min_le_right _ _).trans_lt (by decide))
    have hfull := hexact _ (reachable_full hmost hpos) n (hn ▸ Nat.min_le_left _ _)
    have hsum : capacity.toNat + n.toNat < 2 ^ 64 := ((advancesExactly_iff hpos).mp hfull).2
    omega
  · intro hroom r hr n hn
    obtain ⟨rfl,hnext,hcount⟩ := hr.within hpos
    rw [advancesExactly_iff hpos]
    omega

theorem locates_exactly_iff_room (hpos : 0 < capacity.toNat) (hmost : 0 < most) :
    (∀ r, Reachable most capacity r → ∀ k < capacity, r.LocatesExactly k) ↔
      3 * capacity.toNat < 2 ^ 64 + 2 := by
  constructor
  · intro hexact
    -- The last slot is next and all entries are retired.
    let last := UInt64.ofNat (capacity.toNat - 1)
    have hlast : last.toNat = capacity.toNat - 1 :=
      UInt64.toNat_ofNat_of_lt' ((Nat.sub_le _ _).trans_lt capacity.toNat_lt)
    have hfilled : Reachable most capacity _ := reachable_filled hmost (Nat.sub_one_lt_of_lt hpos)
    have hempty := hfilled.retire (n := last) le_rfl
    have hlt : last < capacity := UInt64.lt_iff_toNat_lt.mpr (hlast ▸ Nat.sub_one_lt_of_lt hpos)
    have hfits := (locatesExactly_iff (hempty.within hpos)).mp (hexact _ hempty last hlt)
    rw [retire_count, retire_next] at hfits
    change _ ∧ last.toNat + _ < _ ∧ last.toNat + (_ - (last.toNat - last.toNat)) + _ < _ at hfits
    omega
  · intro hroom r hr k hk
    have hwithin := hr.within hpos
    have hnext := hwithin.next_lt
    rw [locatesExactly_iff hwithin]
    rw [UInt64.lt_iff_toNat_lt] at hk
    omega

theorem locates_entries_exactly_iff_room (hpos : 0 < capacity.toNat) (hmost : 0 < most) :
    (∀ r, Reachable most capacity r → ∀ k < r.count, r.LocatesExactly k) ↔
      capacity.toNat ≤ 2 ^ 63 := by
  constructor
  · intro hexact
    have hword := capacity.toNat_lt
    let last := UInt64.ofNat (capacity.toNat - 1)
    have hlast : last.toNat = capacity.toNat - 1 :=
      UInt64.toNat_ofNat_of_lt' ((Nat.sub_le _ _).trans_lt hword)
    have hfilled : Reachable most capacity _ := reachable_filled hmost (Nat.sub_one_lt_of_lt hpos)
    by_contra hlarge
    have hentry : 0 < last := UInt64.lt_iff_toNat_lt.mpr (by rw [hlast, UInt64.toNat_zero]; omega)
    have hfits := (locatesExactly_iff (hfilled.within hpos)).mp (hexact _ hfilled 0 hentry)
    change _ ∧ last.toNat + _ < _ ∧ _ at hfits
    omega
  · intro hroom r hr k hk
    have hwithin := hr.within hpos
    have hnext := hwithin.next_lt
    have hcount := hwithin.count_le
    rw [locatesExactly_iff hwithin]
    rw [UInt64.lt_iff_toNat_lt] at hk
    omega

/-- What the words of a ring suffice for, where at most `most` slots are written at a time: for every
advance exactly if the capacity and `most` have a sum in a word, for the slots of a whole turn exactly if
three capacities less two are a word, for those of the entries exactly if two capacities less one are.
What they do not suffice for ends at a sum that is not a word: an advance exactly if it and the next slot
or the count have such a sum. -/
theorem exact_iff_room (hpos : 0 < capacity.toNat) (hmost : 0 < most) :
    ((∀ r, Reachable most capacity r → ∀ n, n.toNat ≤ most → r.AdvancesExactly n) ↔
      capacity.toNat + most < 2 ^ 64) ∧
    ((∀ r, Reachable most capacity r → ∀ k < capacity, r.LocatesExactly k) ↔
      3 * capacity.toNat - 2 < 2 ^ 64) ∧
    ((∀ r, Reachable most capacity r → ∀ k < r.count, r.LocatesExactly k) ↔
      2 * capacity.toNat - 1 < 2 ^ 64) ∧
    ∀ r, Reachable most capacity r →
      (∀ n, r.AdvancesExactly n ∨ (r.advanceTraced n).Overflows) ∧
      (∀ n, (r.advanceTraced n).Overflows ↔ 2 ^ 64 ≤ max r.next.toNat r.count.toNat + n.toNat) ∧
      ∀ k < capacity, r.LocatesExactly k ∨ (r.slotAtTraced k).Overflows := by
  refine ⟨advances_exactly_iff_room hpos hmost,?_,?_,?_⟩
  · rw [locates_exactly_iff_room hpos hmost]
    omega
  · rw [locates_entries_exactly_iff_room hpos hmost]
    omega
  · intro r hr
    have hwithin := hr.within hpos
    have hcapacity : 0 < r.capacity.toNat := hwithin.same.symm ▸ hpos
    exact ⟨advancesExactly_or_overflows hcapacity,fun n => advance_overflows_iff hcapacity,
      fun k => locatesExactly_or_overflows hwithin⟩

/-- Three slots leave three words that an advance may not take. -/
theorem exact_iff_room_three :
    (0 < (3 : UInt64).toNat ∧ 0 < 2 ^ 64 - 4) ∧
      ((empty 3).advance 2).AdvancesExactly 18446744073709551612 ∧
      (∀ r, Reachable (2 ^ 64 - 4) 3 r → ∀ k < 3, r.LocatesExactly k) ∧
      ¬ ∀ r, Reachable (2 ^ 64 - 3) 3 r → ∀ n, n.toNat ≤ 2 ^ 64 - 3 → r.AdvancesExactly n := by
  have hpos : 0 < (3 : UInt64).toNat := by decide
  have hmost : 0 < 2 ^ 64 - 4 := by decide
  obtain ⟨hadvance,hlocate,-⟩ := exact_iff_room hpos hmost
  have htwo : Reachable (2 ^ 64 - 4) 3 ((empty 3).advance 2) := Reachable.empty.advance (by decide)
  refine ⟨⟨hpos,hmost⟩,hadvance.mpr (by decide) _ htwo _ (by decide),hlocate.mpr (by decide),?_⟩
  intro hexact
  exact absurd ((exact_iff_room hpos (by decide)).1.mp hexact) (by decide)

/-- The largest advance of a ring of three slots with two entries, which should fill the ring, ends the
program at its first sum. -/
theorem advance_overflows :
    let r : Ring := ⟨3,2,2⟩
    ((empty 3).advanceTraced 2).outcome = .ok r ∧ Reachable (2 ^ 64) 3 r ∧
      (r.advanceTraced 18446744073709551615).outcome = .error (.sum 2 18446744073709551615) ∧
      (Machine.Step.sum 2 18446744073709551615).complaint? = some "attempt to add with overflow" ∧
      (2 + 18446744073709551615) % 3 = 2 ∧ min (2 + 18446744073709551615) 3 = 3 ∧
      ¬ r.AdvancesExactly 18446744073709551615 := by
  intro r
  have hends : (r.advanceTraced 18446744073709551615).outcome = .error (.sum 2 18446744073709551615) := by
    decide
  have hreached : Reachable (2 ^ 64) 3 ((empty 3).advance 2) := Reachable.empty.advance (by decide)
  refine ⟨by decide,hreached,hends,rfl,rfl,rfl,?_⟩
  intro hexact
  cases hends.symm.trans hexact.outcome

end Ring
end SensorRelay
