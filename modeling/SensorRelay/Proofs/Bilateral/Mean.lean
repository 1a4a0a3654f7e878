import SensorRelay.Proofs.Bilateral.Weight

/-! # The mean of a window

With spreads that are not zero the two sums of a window stay finite however many pixels there are, since
a sum stops growing where what is added is less than half of its last place. The centre makes the sum
of the weights one at least. So the mean is a number, and moved into the range of valid distances it is
one of them: a pixel with a return keeps one. With a spread of zero the mean of every window is lost.
-/
namespace SensorRelay

open Binary Value

namespace Bilateral
variable {p : Bilateral} {f g : Frame} {centre : UInt16}

/-! ## From a mean to a distance -/

namespace Mean
variable {m : Mean}

theorem one_value : (ofNat 1 : Single).isFinite = true ∧ (ofNat 1 : Single).toRat = 1 :=
  ⟨(sample_rounds 1).finite,(toRat_sample 1).trans (by simp)⟩

theorem most_value : (ofNat 65535 : Single).isFinite = true ∧ (ofNat 65535 : Single).toRat = 65535 :=
  ⟨(sample_rounds 65535).finite,(toRat_sample 65535).trans (by simp)⟩

theorem toDistance_of_nan (hsum : m.sum = .nan) : m.toDistance = Frame.noReturn := by
  rw [toDistance, hsum, nan_div]
  rfl

/-- A quotient that is a number gives a valid distance. -/
theorem toDistance_ne_noReturn (hnumber : (m.sum / m.weight).isNaN = false) :
    m.toDistance ≠ Frame.noReturn := by
  obtain ⟨hone,hone'⟩ := one_value
  obtain ⟨hmost,hmost'⟩ := most_value
  obtain ⟨hfinite,hlow,hhigh⟩ := clamp_mem (isNaN_roundAway hnumber) hone hmost (by
    rw [hone', hmost']
    norm_num)
  rw [hone'] at hlow
  rw [hmost'] at hhigh
  have hfloor := toUInt16_eq_floor hfinite (zero_le_one.trans hlow) hhigh
  have hpos : 1 ≤ m.toDistance.toNat := by
    rw [toDistance, hfloor]
    exact Nat.le_floor (by exact_mod_cast hlow)
  intro hnone
  rw [hnone] at hpos
  exact absurd hpos (by decide)

/-- A quotient that a distance can be is rounded to the nearest distance, a half going up. -/
theorem toDistance_eq_floor (hfinite : (m.sum / m.weight).isFinite = true)
    (hnonneg : 0 ≤ (m.sum / m.weight).toRat) (hle : (m.sum / m.weight).toRat ≤ 2 ^ 24) :
    m.toDistance.toNat = min (max ⌊(m.sum / m.weight).toRat + 1 / 2⌋₊ 1) 65535 := by
  obtain ⟨hone,hone'⟩ := one_value
  obtain ⟨hmost,hmost'⟩ := most_value
  obtain ⟨hround,hround'⟩ := roundAway_eq_floor (by decide) (by decide) hfinite hnonneg hle
  obtain ⟨hclamp,hclamp'⟩ := clamp_finite hround hone hmost
  rw [hone', hmost', hround'] at hclamp'
  have hvalue : ((m.sum / m.weight).roundAway.clamp (.ofNat 1) (.ofNat 65535)).toRat =
      (min (max ⌊(m.sum / m.weight).toRat + 1 / 2⌋₊ 1) 65535 : ℕ) := by
    rw [hclamp']
    push_cast
    rfl
  rw [toDistance, toUInt16_eq_floor hclamp (by rw [hvalue]; positivity) (by
    rw [hvalue]
    exact_mod_cast min_le_right _ _), hvalue, Nat.floor_natCast]

/-! ## The sums stay finite -/

/-- The caps of the two sums, at which another pixel is less than half of the last place. -/
structure Capped (m : Mean) : Prop where
  sum : m.sum.Within (2 ^ (45 : ℤ))
  weight : m.weight.Within (2 ^ (29 : ℤ))

theorem capped_new : ({} : Mean).Capped :=
  ⟨zero_within false (Format.two_zpow_pos 45).le,zero_within false (Format.two_zpow_pos 29).le⟩

/-- A sum that is not above a power of two stays so when less than half of a step is added. -/
theorem add_within {a b : Single} {k : ℤ} (ha : a.Within (2 ^ k)) (hk : -149 ≤ k) (hk' : k ≤ 100)
    (hb : b.isFinite = true) (hb₀ : 0 ≤ b.toRat) (hb₁ : b.toRat < 2 ^ (k - 24)) :
    (a + b).Rounds (a.toRat + b.toRat) ∧ (a + b).Within (2 ^ k) := by
  have hpow : (2 : ℚ) ^ (k - 24) ≤ 2 ^ k := Format.two_zpow_le (by omega)
  have hdouble : (2 : ℚ) ^ (k + 1) = 2 ^ k * 2 := by rw [Format.two_zpow_add, zpow_one]
  have hrange : k + 1 ≤ Format.single.greatest + Format.single.precision - 1 := by
    change k + 1 ≤ 104 + 24 - 1
    omega
  have hbound := Format.two_zpow_le_bound hrange
  have hle := ha.le
  have hnonneg := add_nonneg ha.nonneg hb₀
  have hrounds := add_rounds ha.finite hb (by
    rw [abs_of_nonneg hnonneg]
    linarith)
  refine ⟨hrounds,hrounds.finite,hrounds.holds,hrounds.nearest.ge Format.holds_zero hnonneg,?_⟩
  exact hrounds.nearest.le_two_zpow hk (add_lt_add_of_le_of_lt hle hb₁)

/-- What another neighbour adds to the two sums, each time rounded once. -/
structure Added (m : Mean) (w : Single) (d : UInt16) : Prop where
  product : (w * sample d).Rounds (w.toRat * d.toNat)
  sum : (m.add w (sample d)).sum.Rounds (m.sum.toRat + (w * sample d).toRat)
  weight : (m.add w (sample d)).weight.Rounds (m.weight.toRat + w.toRat)

theorem Capped.add (hm : m.Capped) {w : Single} (hw : w.Within 16) (d : UInt16) :
    m.Added w d ∧ (m.add w (sample d)).Capped := by
  obtain ⟨hproduct,hwithin⟩ := hw.mul (sample_within d) (z := 2 ^ (20 : ℤ)) (by norm_num)
    (Format.holds_two_zpow (by decide)) (Format.two_zpow_le_bound (by decide))
  rw [toRat_sample] at hproduct
  obtain ⟨hsum,hsum'⟩ := add_within hm.sum (by norm_num) (by norm_num) hwithin.finite hwithin.nonneg
    (hwithin.le.trans_lt (by norm_num))
  obtain ⟨hweight,hweight'⟩ := add_within hm.weight (by norm_num) (by norm_num) hw.finite hw.nonneg
    (hw.le.trans_lt (by norm_num))
  exact ⟨⟨hproduct,hsum,hweight⟩,⟨hsum',hweight'⟩⟩

end Mean

/-! ## The walk over the window -/

theorem meanOf_append (p : Bilateral) (centre : UInt16) (ns : List ((Int × Int) × UInt16))
    (n : (Int × Int) × UInt16) : p.meanOf centre (ns ++ [n]) =
      (p.meanOf centre ns).add (p.weight centre n) (sample n.2) := by
  rw [meanOf, List.foldl_append]
  rfl

/-- The sums are capped, and every neighbour is in the sum of the weights. -/
theorem meanOf_capped {ns : List ((Int × Int) × UInt16)}
    (hweights : ∀ n ∈ ns, (p.weight centre n).Within 16) :
    (p.meanOf centre ns).Capped ∧
      ∀ n ∈ ns, (p.weight centre n).toRat ≤ (p.meanOf centre ns).weight.toRat := by
  induction ns using List.reverseRecOn with
  | nil => exact ⟨Mean.capped_new,fun n hn => by cases hn⟩
  | append_singleton ns last ih =>
    have hlast := hweights last (by simp)
    obtain ⟨hcapped,hsummed⟩ := ih fun n hn => hweights n (by simp [hn])
    obtain ⟨hadded,hnext⟩ := hcapped.add hlast last.2
    rw [meanOf_append]
    refine ⟨hnext,?_⟩
    intro n hn
    rcases List.mem_append.mp hn with hn | hn
    · exact (hsummed n hn).trans (hadded.weight.nearest.ge hcapped.weight.holds
        (le_add_of_nonneg_right hlast.nonneg))
    · obtain rfl := List.mem_singleton.mp hn
      exact hadded.weight.nearest.ge hlast.holds (le_add_of_nonneg_left hcapped.weight.nonneg)

/-- One neighbour whose weight is not a number takes the sum with it. -/
theorem meanOf_sum_of_nan {ns : List ((Int × Int) × UInt16)} {n : (Int × Int) × UInt16} (hn : n ∈ ns)
    (hnan : p.weight centre n = .nan) : (p.meanOf centre ns).sum = .nan := by
  induction ns using List.reverseRecOn with
  | nil => cases hn
  | append_singleton ns last ih =>
    rw [meanOf_append, Mean.add]
    rcases List.mem_append.mp hn with hn | hn
    · rw [ih hn, nan_add]
    · rw [List.mem_singleton.mp hn] at hnan
      rw [hnan, nan_mul, add_nan]

/-! ## Returns are kept -/

theorem centre_mem_around {x y : Nat} (hx : x < f.width.toNat) (hy : y < f.height.toNat)
    (hreturn : f.pixel x y ≠ Frame.noReturn) : ((0, 0), f.pixel x y) ∈ p.around f x y := by
  have hoffset : ((0, 0) : Int × Int) ∈ p.offsets := mem_offsets.mpr (by simp)
  have hseen : f.seen x y (0, 0) = some (f.pixel x y) := by
    rw [Frame.seen, if_pos (by simp [hx, hy])]
    simp [hreturn]
  exact List.mem_filterMap.mpr ⟨_,hoffset,by rw [hseen]; rfl⟩

theorem mem_offsets_of_mem_around {x y : Nat} {n : (Int × Int) × UInt16} (hn : n ∈ p.around f x y) :
    n.1 ∈ p.offsets := by
  obtain ⟨o,ho,hseen⟩ := List.mem_filterMap.mp hn
  obtain ⟨d,-,rfl⟩ := Option.map_eq_some_iff.mp hseen
  exact ho

/-- The two sums of the window around a pixel with a return. -/
theorem sums_of_window (hvalid : p.isValid = true) (hspread : p.HasSpread) {x y : Nat}
    (hx : x < f.width.toNat) (hy : y < f.height.toNat) (hreturn : f.pixel x y ≠ Frame.noReturn) :
    (p.meanOf (f.pixel x y) (p.around f x y)).Capped ∧
      1 ≤ (p.meanOf (f.pixel x y) (p.around f x y)).weight.toRat := by
  have hweights : ∀ n ∈ p.around f x y, (p.weight (f.pixel x y) n).Within 16 :=
    fun n hn => weight_within hvalid hspread (mem_offsets_of_mem_around hn) _ _
  obtain ⟨hcapped,hsummed⟩ := meanOf_capped hweights
  have hcentre := hsummed _ (centre_mem_around hx hy hreturn)
  rw [weight_centre hvalid hspread, toRat_unit] at hcentre
  exact ⟨hcapped,hcentre⟩

/-- The quotient of the two sums is a number. -/
theorem quotient_rounds {m : Mean} (hm : m.Capped) (hweight : 1 ≤ m.weight.toRat) :
    (m.sum / m.weight).Rounds (m.sum.toRat / m.weight.toRat) := by
  have hpos : 0 < m.weight.toRat := zero_lt_one.trans_le hweight
  have hquotient : m.sum.toRat / m.weight.toRat ≤ 2 ^ (45 : ℤ) := by
    rw [div_le_iff₀ hpos]
    exact hm.sum.le.trans (le_mul_of_one_le_right (Format.two_zpow_pos 45).le hweight)
  refine div_rounds hm.sum.finite hm.weight.finite hpos.ne' ?_
  rw [abs_of_nonneg (div_nonneg hm.sum.nonneg hpos.le)]
  exact hquotient.trans (Format.two_zpow_le_bound (by decide))

/-- The column and the row of a sample in a frame whose dimensions fit its channels. -/
theorem pixel_of_getElem? (hsize : f.distance.size = f.pixelCount) {i : Nat} {d : UInt16}
    (hd : f.distance[i]? = some d) : i % f.width.toNat < f.width.toNat ∧
      i / f.width.toNat < f.height.toNat ∧ f.pixel (i % f.width.toNat) (i / f.width.toNat) = d := by
  obtain ⟨hi,-⟩ := Array.getElem?_eq_some_iff.mp hd
  rw [hsize, Frame.pixelCount] at hi
  have hwidth : 0 < f.width.toNat := Nat.pos_of_mul_pos_right (Nat.zero_lt_of_lt hi)
  refine ⟨Nat.mod_lt i hwidth,Nat.div_lt_of_lt_mul hi,?_⟩
  rw [Frame.pixel, Nat.div_add_mod', Array.getD_eq_getD_getElem?, hd, Option.getD_some]

/-- A pixel has a return after the filter if it had one before and neither spread is zero. -/
theorem smoothed_return_iff (hvalid : p.isValid = true) (hsize : f.distance.size = f.pixelCount)
    {i : Nat} {d : UInt16} (hd : f.distance[i]? = some d) :
    ∃ d', (p.smoothed f)[i]? = some d' ∧
      (d' ≠ Frame.noReturn ↔ d ≠ Frame.noReturn ∧ p.HasSpread) := by
  by_cases hreturn : d = Frame.noReturn
  · subst hreturn
    exact ⟨_,smoothed_of_noReturn hd,by simp⟩
  · obtain ⟨hx,hy,hpixel⟩ := pixel_of_getElem? hsize hd
    refine ⟨_,smoothed_of_return hd hreturn,?_⟩
    rw [smooth_eq hvalid, and_iff_right hreturn]
    rw [← hpixel] at hreturn ⊢
    by_cases hspread : p.HasSpread
    · obtain ⟨hcapped,hweight⟩ := sums_of_window hvalid hspread hx hy hreturn
      have hfinite := (quotient_rounds hcapped hweight).finite
      refine iff_of_true (Mean.toDistance_ne_noReturn ?_) hspread
      obtain ⟨s,m,e,hvalue⟩ := exists_of_isFinite hfinite
      rw [hvalue]
      rfl
    · refine iff_of_false (not_not.mpr (Mean.toDistance_of_nan ?_)) hspread
      exact meanOf_sum_of_nan (centre_mem_around hx hy hreturn)
        (weight_centre_of_no_spread hvalid hspread _)

/-- A pixel has a return after the filter exactly if it had one before, as long as neither of the
Gaussians has a spread that is zero as a value. With such a spread all returns are lost. -/
theorem returns_kept_of_spread (hvalid : p.isValid = true) (hsize : f.distance.size = f.pixelCount) :
    ∃ g, p.apply f = .ok g ∧
      (∀ i : Nat, f.distance[i]? = some Frame.noReturn → g.distance[i]? = some Frame.noReturn) ∧
      (p.HasSpread → g.validPixels = f.validPixels ∧
        ∀ (i : Nat) d, f.distance[i]? = some d → d ≠ Frame.noReturn →
          ∃ d', g.distance[i]? = some d' ∧ d' ≠ Frame.noReturn) ∧
      (¬p.HasSpread → g.validPixels = 0) := by
  -- The pixels with a return, before and after, as one list of booleans each.
  have hreturns : (p.smoothed f).toList.map (· != Frame.noReturn) =
      f.distance.toList.map fun d => d != Frame.noReturn && decide p.HasSpread := by
    refine List.ext_getElem? fun i => ?_
    rw [List.getElem?_map, List.getElem?_map, Array.getElem?_toList, Array.getElem?_toList]
    cases hd : f.distance[i]? with
    | none =>
      rw [Array.getElem?_eq_none_iff] at hd
      rw [Array.getElem?_eq_none_iff.mpr (smoothed_size.trans_le hd)]
      rfl
    | some d =>
      obtain ⟨d',hd',hkept⟩ := smoothed_return_iff hvalid hsize hd
      rw [hd', Option.map_some, Option.map_some, Option.some_inj, Bool.eq_iff_iff, bne_iff_ne,
        Bool.and_eq_true, bne_iff_ne, decide_eq_true_iff]
      exact hkept
  have hcount : Frame.validPixels { f with distance := p.smoothed f } =
      f.distance.toList.countP fun d => d != Frame.noReturn && decide p.HasSpread := by
    have hvalues := congrArg (List.countP id) hreturns
    rw [List.countP_map, List.countP_map] at hvalues
    exact hvalues
  refine ⟨_,apply_eq_ok_iff.mpr ⟨hvalid,hsize,rfl⟩,fun i => smoothed_of_noReturn,?_,?_⟩
  · intro hspread
    refine ⟨?_,?_⟩
    · rw [hcount, Frame.validPixels]
      simp [hspread]
    · intro i d hd hreturn
      obtain ⟨d',hd',hkept⟩ := smoothed_return_iff hvalid hsize hd
      exact ⟨d',hd',hkept.mpr ⟨hreturn,hspread⟩⟩
  · intro hspread
    rw [hcount]
    simp [hspread]

theorem returns_kept_of_spread_single_pixel :
    let f : Frame := ⟨0,1,1,#[1000],#[0],0⟩
    standard.isValid = true ∧ f.distance.size = f.pixelCount ∧ standard.HasSpread ∧
      ∃ g, standard.apply f = .ok g ∧ g.validPixels = 1 := by
  intro f
  have hvalid : standard.isValid = true := by decide +kernel
  have hspread : standard.HasSpread := by decide +kernel
  obtain ⟨g,hok,-,hkept,-⟩ := returns_kept_of_spread (f := f) hvalid rfl
  exact ⟨hvalid,rfl,hspread,g,hok,(hkept hspread).1⟩

/-- A width whose square is too small for a value of four bytes is accepted, and loses the only pixel of
a frame. -/
theorem returns_lost_without_spread :
    let p : Bilateral := ⟨3,.ofDecimal false 1 (-30),.ofNat 30⟩
    let f : Frame := ⟨0,1,1,#[1000],#[0],0⟩
    p.validate = .ok () ∧ f.distance.size = f.pixelCount ∧
      ∃ g, p.apply f = .ok g ∧ f.validPixels = 1 ∧ g.distance = #[Frame.noReturn] ∧
        g.validPixels = 0 := by
  intro p f
  refine ⟨by decide +kernel,rfl,{ f with distance := #[Frame.noReturn] },?_,rfl,rfl,rfl⟩
  decide +kernel

end Bilateral
end SensorRelay
