import SensorRelay.Proofs.Bilateral.Mean

/-! # How far a mean drifts

A weighted mean of exact numbers is between the least and the greatest of them. Every neighbour costs the
two sums of the filter three roundings, and each of these moves the quotient by one part in `2 ^ 24` at
most. So the new distance leaves the range of the old ones by no more than a number that grows with the
pixels of the window and with the distances. For windows of up to seven pixels across it is zero; a
larger one can leave the range, even where all distances are the same.
-/
namespace SensorRelay

open Binary Value

namespace Bilateral
variable {p : Bilateral} {f g : Frame} {centre : UInt16} {lo hi : ℚ} {m : Mean} {n : ℕ}

/-- What is left of one when `n` neighbours have been added. -/
def remaining (n : ℕ) : ℚ := 1 - 2 * n * Format.single.roundoff

theorem roundoff_eq : Format.single.roundoff = 1 / 2 ^ 24 := by
  rw [Format.roundoff]
  norm_num [Format.single]

theorem remaining_le_one (n : ℕ) : remaining n ≤ 1 := by
  have hnonneg : 0 ≤ 2 * (n : ℚ) * Format.single.roundoff := by
    rw [roundoff_eq]
    positivity
  rw [remaining]
  linarith

theorem remaining_nonneg (hn : n ≤ 2 ^ 23) : 0 ≤ remaining n := by
  have hn' : (n : ℚ) ≤ 2 ^ 23 := by exact_mod_cast hn
  rw [remaining, roundoff_eq]
  linarith

/-- One more neighbour pays for a rounding up and for one down. -/
theorem remaining_succ_le (n : ℕ) :
    remaining (n + 1) * (1 + Format.single.roundoff) ≤ remaining n * (1 - Format.single.roundoff) := by
  have hle := remaining_le_one n
  have hstep : remaining (n + 1) = remaining n - 2 * Format.single.roundoff := by
    rw [remaining, remaining]
    push_cast
    ring
  have hpos : 0 < Format.single.roundoff := Format.two_zpow_pos _
  have hcost : remaining n * Format.single.roundoff ≤ 1 * Format.single.roundoff :=
    mul_le_mul_of_nonneg_right hle hpos.le
  have hsquare : 0 ≤ Format.single.roundoff * Format.single.roundoff := by positivity
  rw [hstep]
  linarith

/-! ## One neighbour -/

section
variable {S S' W W' P w x c c' u : ℚ}

/-- The rounded sum does not rise above the greatest distance. -/
theorem upper_step (hu : 0 ≤ 1 - u) (hu' : 0 ≤ 1 + u) (hc : c ≤ 1) (hc' : 0 ≤ c')
    (hcost : c' * (1 + u) ≤ c * (1 - u)) (hw : 0 ≤ w) (hx : 0 ≤ x) (hxhi : x ≤ hi) (hP₀ : 0 ≤ P)
    (hSP : 0 ≤ S + P) (hP : P ≤ w * x * (1 + u)) (hS : S' ≤ (S + P) * (1 + u))
    (hW : (W + w) * (1 - u) ≤ W') (h : c * S ≤ hi * (1 + u) * W) :
    c' * S' ≤ hi * (1 + u) * W' := by
  have hterm : c * P ≤ hi * (1 + u) * w := by
    calc c * P ≤ 1 * P := mul_le_mul_of_nonneg_right hc hP₀
      _ ≤ w * x * (1 + u) := by rwa [one_mul]
      _ ≤ w * hi * (1 + u) :=
          mul_le_mul_of_nonneg_right (mul_le_mul_of_nonneg_left hxhi hw) hu'
      _ = hi * (1 + u) * w := by ring
  calc c' * S' ≤ c' * ((S + P) * (1 + u)) := mul_le_mul_of_nonneg_left hS hc'
    _ = c' * (1 + u) * (S + P) := by ring
    _ ≤ c * (1 - u) * (S + P) := mul_le_mul_of_nonneg_right hcost hSP
    _ = (c * S + c * P) * (1 - u) := by ring
    _ ≤ (hi * (1 + u) * W + hi * (1 + u) * w) * (1 - u) :=
        mul_le_mul_of_nonneg_right (add_le_add h hterm) hu
    _ = hi * (1 + u) * ((W + w) * (1 - u)) := by ring
    _ ≤ hi * (1 + u) * W' := mul_le_mul_of_nonneg_left hW (mul_nonneg (hx.trans hxhi) hu')

/-- The rounded sum does not fall below the least distance. -/
theorem lower_step (hu : 0 ≤ 1 - u) (hc : c ≤ 1) (hc' : 0 ≤ c')
    (hcost : c' * (1 + u) ≤ c * (1 - u)) (hw : 0 ≤ w) (hlo : 0 ≤ lo) (hx : lo ≤ x)
    (hWw : 0 ≤ W + w) (hP : w * x * (1 - u) ≤ P) (hS : (S + P) * (1 - u) ≤ S')
    (hW : W' ≤ (W + w) * (1 + u)) (h : lo * (1 - u) * c * W ≤ S) :
    lo * (1 - u) * c' * W' ≤ S' := by
  have hlo' : 0 ≤ lo * (1 - u) := mul_nonneg hlo hu
  have hterm : lo * (1 - u) * c * w ≤ P := by
    calc lo * (1 - u) * c * w ≤ lo * (1 - u) * 1 * w :=
          mul_le_mul_of_nonneg_right (mul_le_mul_of_nonneg_left hc hlo') hw
      _ = w * lo * (1 - u) := by ring
      _ ≤ w * x * (1 - u) := mul_le_mul_of_nonneg_right (mul_le_mul_of_nonneg_left hx hw) hu
      _ ≤ P := hP
  calc lo * (1 - u) * c' * W' ≤ lo * (1 - u) * c' * ((W + w) * (1 + u)) :=
        mul_le_mul_of_nonneg_left hW (mul_nonneg hlo' hc')
    _ = lo * (1 - u) * (W + w) * (c' * (1 + u)) := by ring
    _ ≤ lo * (1 - u) * (W + w) * (c * (1 - u)) :=
        mul_le_mul_of_nonneg_left hcost (mul_nonneg hlo' hWw)
    _ = (lo * (1 - u) * c * W + lo * (1 - u) * c * w) * (1 - u) := by ring
    _ ≤ (S + P) * (1 - u) := mul_le_mul_of_nonneg_right (add_le_add h hterm) hu
    _ ≤ S' := hS

end

namespace Mean

/-- The sums of `n` neighbours between `lo` and `hi`, but for their roundings. -/
structure Drift (m : Mean) (lo hi : ℚ) (n : ℕ) : Prop where
  upper : remaining n * m.sum.toRat ≤ hi * (1 + Format.single.roundoff) * m.weight.toRat
  lower : lo * (1 - Format.single.roundoff) * remaining n * m.weight.toRat ≤ m.sum.toRat

theorem drift_new (lo hi : ℚ) : ({} : Mean).Drift lo hi 0 := by
  constructor <;> simp

theorem Drift.add (hdrift : m.Drift lo hi n) (hm : m.Capped) {w : Single} (hw : w.Within 16)
    {d : UInt16} (hlo₀ : 0 ≤ lo) (hlo : lo ≤ d.toNat) (hhi : d.toNat ≤ hi) (hn : n + 1 ≤ 2 ^ 23) :
    (m.add w (sample d)).Drift lo hi (n + 1) := by
  obtain ⟨⟨hproduct,hsum,hweight⟩,-⟩ := hm.add hw d
  have hd₀ : (0 : ℚ) ≤ d.toNat := d.toNat.cast_nonneg
  have hproduct₀ : 0 ≤ w.toRat * d.toNat := mul_nonneg hw.nonneg hd₀
  have hproduct₁ := hproduct.nearest.ge Format.holds_zero hproduct₀
  have hsum₀ := add_nonneg hm.sum.nonneg hproduct₁
  have hweight₀ := add_nonneg hm.weight.nonneg hw.nonneg
  obtain ⟨hp,hp'⟩ := hproduct.relative hproduct₀ (hw.holds.onGrid.mul_natCast _)
  obtain ⟨hs,hs'⟩ := hsum.relative hsum₀ (hm.sum.holds.onGrid.add hproduct.holds.onGrid)
  obtain ⟨hv,hv'⟩ := hweight.relative hweight₀ (hm.weight.holds.onGrid.add hw.holds.onGrid)
  have hu : 0 ≤ 1 - Format.single.roundoff := by
    rw [roundoff_eq]
    norm_num
  have hu' : 0 ≤ 1 + Format.single.roundoff := by
    rw [roundoff_eq]
    norm_num
  exact ⟨upper_step hu hu' (remaining_le_one n) (remaining_nonneg hn) (remaining_succ_le n) hw.nonneg
      hd₀ hhi hproduct₁ hsum₀ hp' hs' hv hdrift.upper,
    lower_step hu (remaining_le_one n) (remaining_nonneg hn) (remaining_succ_le n) hw.nonneg hlo₀ hlo
      hweight₀ hp hs hv' hdrift.lower⟩

end Mean

theorem meanOf_drift {ns : List ((Int × Int) × UInt16)} (hlo₀ : 0 ≤ lo)
    (hns : ∀ n ∈ ns, (p.weight centre n).Within 16 ∧ lo ≤ n.2.toNat ∧ n.2.toNat ≤ hi)
    (hlength : ns.length ≤ 2 ^ 23) : (p.meanOf centre ns).Drift lo hi ns.length := by
  induction ns using List.reverseRecOn with
  | nil => exact Mean.drift_new lo hi
  | append_singleton ns last ih =>
    rw [List.length_append, List.length_singleton] at hlength ⊢
    have hbefore : ∀ n ∈ ns, (p.weight centre n).Within 16 ∧ lo ≤ n.2.toNat ∧ n.2.toNat ≤ hi :=
      fun n hn => hns n (by simp [hn])
    obtain ⟨hweight,hlast,hlast'⟩ := hns last (by simp)
    rw [meanOf_append]
    exact (ih hbefore (by omega)).add (meanOf_capped fun n hn => (hbefore n hn).1).1 hweight hlo₀ hlast
      hlast' hlength

/-! ## The quotient -/

/-- The drift of `n` neighbours with distances up to `hi` stays below half a unit more than `t`. -/
def HasRoom (n hi t : ℕ) : Prop := (2 * n + 2) * (2 * hi + 2 * t + 1) < (2 * t + 1) * 2 ^ 24

theorem HasRoom.length_lt {hi t : ℕ} (hroom : HasRoom n hi t) : 2 * n + 2 < 2 ^ 24 := by
  refine Nat.lt_of_mul_lt_mul_right (a := 2 * t + 1) ?_
  calc (2 * n + 2) * (2 * t + 1) ≤ (2 * n + 2) * (2 * hi + 2 * t + 1) :=
        Nat.mul_le_mul_left _ (by omega)
    _ < (2 * t + 1) * 2 ^ 24 := hroom
    _ = 2 ^ 24 * (2 * t + 1) := Nat.mul_comm _ _

theorem HasRoom.remaining_ge {hi t : ℕ} (hroom : HasRoom n hi t) : 1 / 2 ^ 24 ≤ remaining n := by
  have hn : (2 * n + 2 : ℚ) + 1 ≤ 2 ^ 24 := by exact_mod_cast hroom.length_lt
  rw [remaining, roundoff_eq]
  linarith

namespace Mean

/-- The quotient of the two sums is rounded once more. It is far from the range of low precision. -/
theorem Drift.quotient (hdrift : m.Drift lo hi n) (hm : m.Capped) (hweight : 1 ≤ m.weight.toRat)
    (hlo : 1 ≤ lo) (hleft : 1 / 2 ^ 24 ≤ remaining n) :
    lo * (1 - Format.single.roundoff) * remaining n * (1 - Format.single.roundoff) ≤
        (m.sum / m.weight).toRat ∧
      remaining n * (m.sum / m.weight).toRat ≤
        hi * (1 + Format.single.roundoff) * (1 + Format.single.roundoff) := by
  have hpos : 0 < m.weight.toRat := zero_lt_one.trans_le hweight
  have hu : 1 / 2 ≤ 1 - Format.single.roundoff := by
    rw [roundoff_eq]
    norm_num
  have hu' : 0 ≤ 1 + Format.single.roundoff := by
    rw [roundoff_eq]
    norm_num
  have hlower : lo * (1 - Format.single.roundoff) * remaining n ≤ m.sum.toRat / m.weight.toRat := by
    rw [le_div_iff₀ hpos]
    exact hdrift.lower
  have hupper : remaining n * (m.sum.toRat / m.weight.toRat) ≤ hi * (1 + Format.single.roundoff) := by
    rw [← mul_div_assoc, div_le_iff₀ hpos]
    exact hdrift.upper
  have hsize : (2 : ℚ) ^ (Format.single.least + Format.single.precision - 1) ≤
      m.sum.toRat / m.weight.toRat := by
    calc (2 : ℚ) ^ (Format.single.least + Format.single.precision - 1) ≤ 2 ^ (-25 : ℤ) :=
          Format.two_zpow_le (by decide)
      _ = 1 * (1 / 2) * (1 / 2 ^ 24) := by norm_num
      _ ≤ lo * (1 - Format.single.roundoff) * remaining n :=
          mul_le_mul (mul_le_mul hlo hu (by norm_num) (by linarith)) hleft (by norm_num)
            (mul_nonneg (by linarith) (by linarith))
      _ ≤ m.sum.toRat / m.weight.toRat := hlower
  obtain ⟨hq,hq'⟩ := (quotient_rounds hm hweight).relative_of_le hsize
  constructor
  · exact (mul_le_mul_of_nonneg_right hlower (by linarith)).trans hq
  · calc remaining n * (m.sum / m.weight).toRat
        ≤ remaining n * (m.sum.toRat / m.weight.toRat * (1 + Format.single.roundoff)) :=
          mul_le_mul_of_nonneg_left hq' (le_trans (by norm_num) hleft)
      _ = remaining n * (m.sum.toRat / m.weight.toRat) * (1 + Format.single.roundoff) := by ring
      _ ≤ hi * (1 + Format.single.roundoff) * (1 + Format.single.roundoff) :=
          mul_le_mul_of_nonneg_right hupper hu'

/-- With the half that is added before it is cut, the quotient is in the range and `t` around it. -/
theorem quotient_between {lo hi t : ℕ} (hm : m.Capped) (hweight : 1 ≤ m.weight.toRat)
    (hdrift : m.Drift lo hi n) (hlo : 1 ≤ lo) (hle : lo ≤ hi) (hhi : hi ≤ 65535)
    (hroom : HasRoom n hi t) : (lo : ℚ) ≤ (m.sum / m.weight).toRat + 1 / 2 + t ∧
      (m.sum / m.weight).toRat + 1 / 2 < hi + t + 1 := by
  have hleft := hroom.remaining_ge
  obtain ⟨hlower,hupper⟩ := hdrift.quotient hm hweight (by exact_mod_cast hlo) hleft
  have hle' : (lo : ℚ) ≤ hi := by exact_mod_cast hle
  have hhi' : (hi : ℚ) ≤ 65535 := by exact_mod_cast hhi
  have hroom' : (2 * n + 2) * (2 * hi + 2 * t + 1) < (2 * t + 1) * (2 : ℚ) ^ 24 := by exact_mod_cast hroom
  generalize (m.sum / m.weight).toRat = q at hlower hupper ⊢
  have hnlo : (0 : ℚ) ≤ n * lo := mul_nonneg n.cast_nonneg lo.cast_nonneg
  have hnlo' : (n : ℚ) * lo ≤ n * hi := mul_le_mul_of_nonneg_left hle' n.cast_nonneg
  have hnt : (0 : ℚ) ≤ n * t := mul_nonneg n.cast_nonneg t.cast_nonneg
  constructor
  · rw [remaining, roundoff_eq] at hlower
    linarith
  · by_contra hge
    have hgreat : remaining n * (hi + t + 1 / 2 : ℚ) ≤ remaining n * q :=
      mul_le_mul_of_nonneg_left (by linarith) (le_trans (by norm_num) hleft)
    rw [remaining, roundoff_eq] at hupper hgreat
    linarith

theorem toDistance_near {lo hi t : ℕ} (hm : m.Capped) (hweight : 1 ≤ m.weight.toRat)
    (hdrift : m.Drift lo hi n) (hlo : 1 ≤ lo) (hle : lo ≤ hi) (hhi : hi ≤ 65535)
    (hroom : HasRoom n hi t) : lo ≤ m.toDistance.toNat + t ∧ m.toDistance.toNat ≤ hi + t := by
  have hdistance := m.toDistance.toNat_lt
  rcases le_or_gt 65535 t with hwide | hnarrow
  · omega
  · obtain ⟨hbelow,habove⟩ := quotient_between hm hweight hdrift hlo hle hhi hroom
    have hrounds := quotient_rounds hm hweight
    have hnonneg : 0 ≤ (m.sum / m.weight).toRat :=
      hrounds.nearest.ge Format.holds_zero (div_nonneg hm.sum.nonneg (zero_le_one.trans hweight))
    have hhi' : (hi : ℚ) ≤ 65535 := by exact_mod_cast hhi
    have ht : (t : ℚ) ≤ 65535 := by exact_mod_cast hnarrow.le
    have hvalue := toDistance_eq_floor hrounds.finite hnonneg (by linarith)
    generalize (m.sum / m.weight).toRat = q at hbelow habove hnonneg hvalue
    have hfloor := Nat.floor_le (a := q + 1 / 2) (by linarith)
    have hfloor' := Nat.lt_floor_add_one (q + 1 / 2)
    generalize ⌊q + 1 / 2⌋₊ = k at hfloor hfloor' hvalue
    have hleast : lo < k + 1 + t := by
      have hcast : (lo : ℚ) < (k + 1 + t : ℕ) := by
        push_cast
        linarith
      exact_mod_cast hcast
    have hmost : k < hi + t + 1 := by
      have hcast : (k : ℚ) < (hi + t + 1 : ℕ) := by
        push_cast
        linarith
      exact_mod_cast hcast
    omega

end Mean

/-! ## The new distances -/

theorem offsets_length (p : Bilateral) : p.offsets.length = (2 * p.radius + 1) ^ 2 := by
  simp [offsets, List.length_flatMap, sq]

theorem around_length_le (hvalid : p.isValid = true) (f : Frame) (x y : ℕ) :
    (p.around f x y).length ≤ p.window.toNat ^ 2 := by
  rw [window_eq hvalid, ← offsets_length]
  exact List.length_filterMap_le _ _

theorem HasRoom.mono {k hi t : ℕ} (hroom : HasRoom n hi t) (hk : k ≤ n) : HasRoom k hi t := by
  refine lt_of_le_of_lt (Nat.mul_le_mul_right _ ?_) hroom
  omega

/-- Up to seven pixels across the window has room for every distance. -/
theorem hasRoom_of_window_le (hwindow : p.window ≤ 7) (hi : UInt16) :
    HasRoom (p.window.toNat ^ 2) hi.toNat 0 := by
  have hedge : p.window.toNat ≤ 7 := UInt64.le_iff_toNat_le.mp hwindow
  have hpixels : p.window.toNat ^ 2 ≤ 7 ^ 2 := Nat.pow_le_pow_left hedge 2
  have hhi := hi.toNat_lt
  refine HasRoom.mono ?_ hpixels
  rw [HasRoom]
  omega

/-- What the window shows is a distance of the frame within the radius. -/
theorem exists_pixel_of_mem_around {x y : ℕ} {n : (Int × Int) × UInt16} (hn : n ∈ p.around f x y) :
    n.2 ≠ Frame.noReturn ∧ ∃ x' y', x' < f.width.toNat ∧ y' < f.height.toNat ∧
      |(x' : Int) - x| ≤ p.radius ∧ |(y' : Int) - y| ≤ p.radius ∧ f.pixel x' y' = n.2 := by
  obtain ⟨o,ho,hseen⟩ := List.mem_filterMap.mp hn
  obtain ⟨d,hd,rfl⟩ := Option.map_eq_some_iff.mp hseen
  have hbounds := mem_offsets.mp ho
  rw [Frame.seen] at hd
  split at hd
  · rename_i hinside
    obtain ⟨hpixel,hreturn⟩ := Option.filter_eq_some_iff.mp hd
    refine ⟨by simpa using hreturn,(x + o.1).toNat,(y + o.2).toNat,by omega,by omega,?_,?_,?_⟩
    · exact abs_le.mpr (by omega)
    · exact abs_le.mpr (by omega)
    · exact Option.some_inj.mp hpixel
  · cases hd

/-- The mean around a pixel with a return is near the range of the returns in its window. -/
theorem mean_near_range (hvalid : p.isValid = true) (hspread : p.HasSpread) {x y : ℕ}
    (hx : x < f.width.toNat) (hy : y < f.height.toNat) (hreturn : f.pixel x y ≠ Frame.noReturn)
    {lo hi : UInt16} {t : ℕ}
    (hrange : ∀ x' y', x' < f.width.toNat → y' < f.height.toNat →
      |(x' : Int) - x| ≤ p.radius → |(y' : Int) - y| ≤ p.radius → f.pixel x' y' ≠ Frame.noReturn →
      lo ≤ f.pixel x' y' ∧ f.pixel x' y' ≤ hi)
    (hroom : HasRoom (p.window.toNat ^ 2) hi.toNat t) :
    lo.toNat ≤ (p.meanOf (f.pixel x y) (p.around f x y)).toDistance.toNat + t ∧
      (p.meanOf (f.pixel x y) (p.around f x y)).toDistance.toNat ≤ hi.toNat + t := by
  have hroom' := hroom.mono (around_length_le hvalid f x y)
  obtain ⟨hcapped,hweight⟩ := sums_of_window hvalid hspread hx hy hreturn
  -- A return is one at least, whatever the lower end of the range is.
  have hns : ∀ n ∈ p.around f x y, (p.weight (f.pixel x y) n).Within 16 ∧
      ((max lo.toNat 1 : ℕ) : ℚ) ≤ n.2.toNat ∧ (n.2.toNat : ℚ) ≤ hi.toNat := by
    intro n hn
    obtain ⟨hn₀,x',y',hx',hy',hcolumn,hrow,hpixel⟩ := exists_pixel_of_mem_around hn
    obtain ⟨hlo,hhi⟩ := hrange x' y' hx' hy' hcolumn hrow (hpixel ▸ hn₀)
    rw [hpixel, UInt16.le_iff_toNat_le] at hlo hhi
    have hpos : n.2.toNat ≠ 0 := fun h => hn₀ (UInt16.toNat_inj.mp h)
    refine ⟨weight_within hvalid hspread (mem_offsets_of_mem_around hn) _ _,?_,by exact_mod_cast hhi⟩
    exact_mod_cast max_le hlo (Nat.one_le_iff_ne_zero.mpr hpos)
  have hcentre := hns _ (centre_mem_around hx hy hreturn)
  have hle : max lo.toNat 1 ≤ hi.toNat := by exact_mod_cast hcentre.2.1.trans hcentre.2.2
  have hlength := hroom'.length_lt
  have hdrift := meanOf_drift (Nat.cast_nonneg _) hns (by omega)
  have hhi : hi.toNat ≤ 65535 := Nat.le_of_lt_succ hi.toNat_lt
  have hnear := Mean.toDistance_near hcapped hweight hdrift (le_max_right _ _) hle hhi hroom'
  exact ⟨(le_max_left _ _).trans hnear.1,hnear.2⟩

/-- A frame with one distance stays as it is where the window has room for no drift. -/
theorem smoothed_of_constant (hvalid : p.isValid = true) (hspread : p.HasSpread)
    (hsize : f.distance.size = f.pixelCount) {c : UInt16}
    (hconstant : ∀ (i : ℕ) d, f.distance[i]? = some d → d ≠ Frame.noReturn → d = c)
    (hroom : HasRoom (p.window.toNat ^ 2) c.toNat 0) : p.smoothed f = f.distance := by
  refine Array.ext_getElem? fun i => ?_
  cases hd : f.distance[i]? with
  | none =>
    rw [Array.getElem?_eq_none_iff] at hd ⊢
    rwa [smoothed_size]
  | some d =>
    by_cases hreturn : d = Frame.noReturn
    · subst hreturn
      exact smoothed_of_noReturn hd
    · obtain ⟨hx,hy,hpixel⟩ := pixel_of_getElem? hsize hd
      obtain rfl := hconstant i d hd hreturn
      have hrange : ∀ x' y', x' < f.width.toNat → y' < f.height.toNat →
          f.pixel x' y' ≠ Frame.noReturn → d ≤ f.pixel x' y' ∧ f.pixel x' y' ≤ d := by
        intro x' y' hx' hy' hreturn'
        rw [hconstant _ _ (getElem?_pixel hsize hx' hy') hreturn']
        exact ⟨UInt16.le_refl d,UInt16.le_refl d⟩
      have hnear := mean_near_range hvalid hspread hx hy (hpixel ▸ hreturn)
        (fun x' y' hx' hy' _ _ => hrange x' y' hx' hy') hroom
      rw [hpixel] at hnear
      rw [smoothed_of_return hd hreturn, smooth_eq hvalid]
      exact congrArg some (UInt16.toNat_inj.mp (le_antisymm hnear.2 hnear.1))

/-- A new distance leaves the range of the returns in its window by `t` at most, where the window has
room for the drift. It never leaves it where the window is up to seven pixels across, and a frame with
one distance stays as it is where there is room for no drift. -/
theorem smoothed_near_local_range (hvalid : p.isValid = true) (hspread : p.HasSpread)
    (hsize : f.distance.size = f.pixelCount) : ∃ g, p.apply f = .ok g ∧
      (∀ x y, x < f.width.toNat → y < f.height.toNat → f.pixel x y ≠ Frame.noReturn →
        ∀ lo hi : UInt16,
          (∀ x' y', x' < f.width.toNat → y' < f.height.toNat →
            |(x' : Int) - x| ≤ p.radius → |(y' : Int) - y| ≤ p.radius →
            f.pixel x' y' ≠ Frame.noReturn → lo ≤ f.pixel x' y' ∧ f.pixel x' y' ≤ hi) →
          (∀ t, HasRoom (p.window.toNat ^ 2) hi.toNat t →
            lo.toNat ≤ (g.pixel x y).toNat + t ∧ (g.pixel x y).toNat ≤ hi.toNat + t) ∧
          (p.window ≤ 7 → lo ≤ g.pixel x y ∧ g.pixel x y ≤ hi)) ∧
      (∀ c, (∀ (i : ℕ) d, f.distance[i]? = some d → d ≠ Frame.noReturn → d = c) →
        HasRoom (p.window.toNat ^ 2) c.toNat 0 → g = f) := by
  refine ⟨_,apply_eq_ok_iff.mpr ⟨hvalid,hsize,rfl⟩,?_,?_⟩
  · intro x y hx hy hreturn lo hi hrange
    rw [pixel_smoothed hvalid hsize hx hy, if_neg hreturn]
    refine ⟨fun t => mean_near_range hvalid hspread hx hy hreturn hrange,?_⟩
    intro hwindow
    rw [UInt16.le_iff_toNat_le, UInt16.le_iff_toNat_le]
    exact mean_near_range hvalid hspread hx hy hreturn hrange (hasRoom_of_window_le hwindow hi)
  · intro c hconstant hroom
    rw [smoothed_of_constant hvalid hspread hsize hconstant hroom]

theorem smoothed_near_local_range_row :
    let f : Frame := ⟨0,3,1,#[100,110,120],#[0,0,0],0⟩
    standard.isValid = true ∧ standard.HasSpread ∧ f.distance.size = f.pixelCount ∧
      ∃ g, standard.apply f = .ok g ∧ 100 ≤ g.pixel 1 0 ∧ g.pixel 1 0 ≤ 120 := by
  intro f
  have hvalid : standard.isValid = true := by decide +kernel
  have hspread : standard.HasSpread := by decide +kernel
  have hrange : ∀ x' < 3, ∀ y' < 1, 100 ≤ f.pixel x' y' ∧ f.pixel x' y' ≤ 120 := by decide
  obtain ⟨g,hok,hnear,-⟩ := smoothed_near_local_range (f := f) hvalid hspread rfl
  have hpixel := (hnear 1 0 (by decide) (by decide) (by decide) 100 120
    fun x' y' hx' hy' _ _ _ => hrange x' hx' y' hy').2 (by decide)
  exact ⟨hvalid,hspread,rfl,g,hok,hpixel⟩

/-! ## A window that is too wide -/

theorem meanOf_of_same {w : Single} {d : UInt16} {ns : List ((Int × Int) × UInt16)}
    (hns : ∀ n ∈ ns, p.weight centre n = w ∧ n.2 = d) :
    p.meanOf centre ns = (fun m : Mean => m.add w (sample d))^[ns.length] {} := by
  induction ns using List.reverseRecOn with
  | nil => rfl
  | append_singleton ns last ih =>
    obtain ⟨hweight,hdistance⟩ := hns last (by simp)
    rw [meanOf_append, ih fun n hn => hns n (by simp [hn]), hweight, hdistance, List.length_append,
      List.length_singleton, Function.iterate_succ_apply']

/-- Where the whole window shows one distance and the spread in space is infinite, the mean is that of
so many weights of one. -/
theorem meanOf_of_flat_window (hvalid : p.isValid = true) (hspread : p.HasSpread)
    (hinfinite : spread p.sigmaSpatial = .infinite false) {x y : ℕ} {c : UInt16}
    (hseen : ∀ o ∈ p.offsets, f.seen x y o = some c) : p.meanOf c (p.around f x y) =
      (fun m : Mean => m.add unit (sample c))^[(2 * p.radius + 1) ^ 2] {} := by
  have haround : p.around f x y = p.offsets.map fun o => (o, c) := by
    rw [around, ← List.filterMap_eq_map]
    refine List.filterMap_congr ?_
    intro o ho
    rw [hseen o ho]
    rfl
  rw [meanOf_of_same (w := unit) (d := c), haround, List.length_map, offsets_length]
  intro n hn
  rw [haround] at hn
  obtain ⟨o,ho,rfl⟩ := List.mem_map.mp hn
  exact ⟨weight_of_infinite_spread hvalid hspread hinfinite ho c,rfl⟩

/-- Where 529 pixels have the distance 63323, the one in the middle comes out as 63324. -/
theorem constant_frame_drifts :
    let p : Bilateral := ⟨23,.ofDecimal false 1 20,.ofNat 30⟩
    let f : Frame := ⟨1,23,23,Array.replicate 529 63323,Array.replicate 529 0,0⟩
    p.validate = .ok () ∧ p.HasSpread ∧ f.distance.size = f.pixelCount ∧
      ∃ g, p.apply f = .ok g ∧ (∀ x y, x < 23 → y < 23 → f.pixel x y = 63323) ∧
        g.pixel 11 11 = 63324 ∧ g ≠ f := by
  intro p f
  have hvalid : p.isValid = true := by decide +kernel
  have hspread : p.HasSpread := by decide +kernel
  have hsize : f.distance.size = f.pixelCount := by
    rw [Array.size_replicate]
    rfl
  have hpixel : ∀ x y, x < 23 → y < 23 → f.pixel x y = 63323 := by
    intro x y hx hy
    have hindex : y * 23 + x < 529 := by omega
    have hold : f.pixel x y = (Array.replicate 529 (63323 : UInt16)).getD (y * 23 + x) 0 := rfl
    rw [hold, Array.getD_eq_getD_getElem?, Array.getElem?_replicate, if_pos hindex, Option.getD_some]
  have hseen : ∀ o ∈ p.offsets, f.seen 11 11 o = some 63323 := by
    intro o ho
    have hradius : p.radius = 11 := by decide
    have hbounds := mem_offsets.mp ho
    rw [hradius] at hbounds
    have hinside : 0 ≤ 11 + o.1 ∧ 11 + o.1 < 23 ∧ 0 ≤ 11 + o.2 ∧ 11 + o.2 < 23 := by omega
    have hvalue := hpixel (11 + o.1).toNat (11 + o.2).toNat (by omega) (by omega)
    refine (if_pos hinside).trans ?_
    rw [Nat.cast_ofNat, hvalue]
    rfl
  have hmiddle : Frame.pixel { f with distance := p.smoothed f } 11 11 = 63324 := by
    rw [pixel_smoothed hvalid hsize (by decide) (by decide), hpixel 11 11 (by decide) (by decide),
      if_neg (by decide), meanOf_of_flat_window hvalid hspread (by decide +kernel) hseen]
    decide +kernel
  refine ⟨validate_eq_ok_iff.mpr hvalid,hspread,hsize,_,apply_eq_ok_iff.mpr ⟨hvalid,hsize,rfl⟩,hpixel,
    hmiddle,?_⟩
  intro hsame
  rw [hsame, hpixel 11 11 (by decide) (by decide)] at hmiddle
  exact absurd hmiddle (by decide)

end Bilateral
end SensorRelay
