import SensorRelay.Binary.Exp
import SensorRelay.Proofs.Binary.Arithmetic

/-! # The exponential of a negative value

For a negative value, minus infinity and minus zero included, the exponential is finite, not negative and
small. The argument follows the steps of the calculation: the multiple of `log 2 / 32` that is taken off
is not positive, the rest is at most half of one, and a polynomial that is close to one is left.
-/
namespace SensorRelay.Binary
open Value

namespace Exp

/-- The cubic that stands for `2 ^ (r / 32)`. -/
def polynomial (r : Double) : Double := (cubic * r + quadratic) * (r * r) + (linear * r + one)

theorem two_pow_le_bound : (2 : ℚ) ^ 20 ≤ Format.double.bound := by
  have hbound : (2 : ℚ) ^ (20 : ℤ) ≤ Format.double.bound := Format.two_zpow_le_bound (by decide)
  exact_mod_cast hbound

theorem cubic_bounded : cubic.Bounded (1 / 4) := ⟨rfl,by rw [cubic, toRat_finite]; norm_num⟩

theorem quadratic_bounded : quadratic.Bounded (1 / 8) := ⟨rfl,by rw [quadratic, toRat_finite]; norm_num⟩

theorem linear_bounded : linear.Bounded (1 / 4) := ⟨rfl,by rw [linear, toRat_finite]; norm_num⟩

theorem toRat_one : one.toRat = 1 := by
  rw [one, toRat_finite]
  norm_num

theorem polynomial_within {r : Double} (hr : r.Bounded (1 / 2)) : (polynomial r).Within 2 := by
  have hbound := two_pow_le_bound
  have hfirst := cubic_bounded.mul hr ⟨1,-3,by decide,by decide,by norm_num⟩ (by linarith)
  have hsecond := hfirst.add quadratic_bounded ⟨1,-2,by decide,by decide,by norm_num⟩ (by linarith)
  have hsquare := hr.mul hr ⟨1,-2,by decide,by decide,by norm_num⟩ (by linarith)
  have hhigh := hsecond.mul hsquare ⟨1,-4,by decide,by decide,by norm_num⟩ (by linarith)
  have hlow := linear_bounded.mul hr ⟨1,-3,by decide,by decide,by norm_num⟩ (by linarith)
  have hhigh' := abs_le.mp hhigh.abs_le
  have hlow' := abs_le.mp hlow.abs_le
  have haffine := add_rounds hlow.finite (b := one) rfl (by
    rw [toRat_one, abs_le]
    constructor <;> linarith)
  rw [toRat_one] at haffine
  have hbelow := haffine.nearest.ge (w := 7 / 8) ⟨7,-3,by decide,by decide,by norm_num⟩ (by linarith)
  have habove := haffine.nearest.le (w := 9 / 8) ⟨9,-3,by decide,by decide,by norm_num⟩ (by linarith)
  have hwhole := add_rounds hhigh.finite haffine.finite (by
    rw [abs_le]
    constructor <;> linarith)
  exact hwhole.within (by linarith) ⟨2,0,by decide,by decide,by norm_num⟩ (by linarith)

/-- The powers of two that are not above one, and not tiny. -/
theorem root_within {k : ℤ} (hlow : -5001 ≤ k) (hhigh : k ≤ 0) : (root k).Within 2 := by
  have hentry : ∀ i < 32, rootSignificands.getD i 0 ≤ 2 ^ 53 := by decide
  have hm := hentry (k % 32).toNat (by omega)
  have hm' : |((rootSignificands.getD (k % 32).toNat 0 : ℕ) : ℤ)| ≤ 2 ^ 53 := by
    rw [abs_of_nonneg (Int.natCast_nonneg _)]
    exact_mod_cast hm
  have hleast : -1074 ≤ k / 32 - 52 := by omega
  refine ⟨rfl,⟨_,_,hm',hleast,?_⟩,toRat_nonneg _ _,?_⟩
  · rw [root, toRat_finite, if_neg Bool.false_ne_true, Int.cast_natCast]
  · rw [root, toRat_finite, if_neg Bool.false_ne_true]
    generalize rootSignificands.getD (k % 32).toNat 0 = m at hm
    calc (m : ℚ) * 2 ^ (k / 32 - 52) ≤ 2 ^ 53 * 2 ^ (-52 : ℤ) :=
          mul_le_mul (by exact_mod_cast hm) (Format.two_zpow_le (by omega))
            (Format.two_zpow_pos _).le (by norm_num)
      _ = 2 := by norm_num

theorem slope_bounds : 0 ≤ slope.toRat ∧ slope.toRat ≤ 47 := by
  rw [slope, toRat_finite]
  norm_num

theorem toRat_upper : 0 ≤ upper.toRat := toRat_nonneg _ _

theorem toRat_lower : -104 ≤ lower.toRat := by
  rw [lower, toRat_finite]
  norm_num

/-- The logarithm of a result between `exp (-104)` and one, in steps of which 32 are a doubling. -/
theorem log_bounds {x : Single} (hx : x.isFinite = true) (hlow : -104 ≤ x.toRat) (hhigh : x.toRat ≤ 0) :
    (slope * x.convert .double).isFinite = true ∧ -5000 ≤ (slope * x.convert .double).toRat ∧
      (slope * x.convert .double).toRat ≤ 0 := by
  have hbound := two_pow_le_bound
  obtain ⟨hslope,hslope'⟩ := slope_bounds
  have hconvert := convert_rounds (G := .double) hx (by
    rw [abs_of_nonpos hhigh]
    linarith)
  have hlow' := hconvert.nearest.ge (w := -104) ⟨-104,0,by decide,by decide,by norm_num⟩ hlow
  have hhigh' := hconvert.nearest.le Format.holds_zero hhigh
  have hproduct : -5000 ≤ slope.toRat * (x.convert .double).toRat := by
    calc (-5000 : ℚ) ≤ 47 * -104 := by norm_num
      _ ≤ slope.toRat * -104 := mul_le_mul_of_nonpos_right hslope' (by norm_num)
      _ ≤ slope.toRat * (x.convert .double).toRat := mul_le_mul_of_nonneg_left hlow' hslope
  have hproduct' : slope.toRat * (x.convert .double).toRat ≤ 0 :=
    mul_nonpos_of_nonneg_of_nonpos hslope hhigh'
  have hlog := mul_rounds (a := slope) rfl hconvert.finite (by
    rw [abs_of_nonpos hproduct']
    linarith)
  exact ⟨hlog.finite,hlog.nearest.ge ⟨-5000,0,by decide,by decide,by norm_num⟩ hproduct,
    hlog.nearest.le Format.holds_zero hproduct'⟩

/-- What is left of such a logarithm when the nearest integer is taken off. -/
theorem rest_bounded {z : Double} (hz : z.isFinite = true) (hlow : -5000 ≤ z.toRat)
    (hhigh : z.toRat ≤ 0) : -5001 ≤ z.toIntEven ∧ z.toIntEven ≤ 0 ∧
      (z - .ofInt z.toIntEven).Bounded (1 / 2) := by
  have hnear := abs_le.mp (abs_toIntEven_sub_le hz)
  have hnonpos : z.toIntEven ≤ 0 := by
    have hlt : (z.toIntEven : ℚ) < (1 : ℤ) := by
      push_cast
      linarith
    exact Int.lt_add_one_iff.mp (Int.cast_lt.mp hlt)
  have hsize : |(z.toIntEven : ℚ)| ≤ 5001 := by
    rw [abs_le]
    constructor <;> linarith
  have hsize' : |z.toIntEven| ≤ 5001 := by exact_mod_cast hsize
  refine ⟨(abs_le.mp hsize').1,hnonpos,?_⟩
  have hbound := two_pow_le_bound
  have hint := ofInt_rounds (F := .double) (hsize.trans (by linarith))
  have hexact : (ofInt z.toIntEven : Double).toRat = z.toIntEven := by
    exact hint.nearest.eq_of_holds (Format.holds_intCast (hsize'.trans (by decide)) (by decide))
  have hrest : |z.toRat - (ofInt z.toIntEven : Double).toRat| ≤ 1 / 2 := by
    rw [hexact, abs_le]
    constructor <;> linarith
  exact (sub_rounds hz hint.finite (hrest.trans (by linarith))).bounded
    ⟨1,-1,by decide,by decide,by norm_num⟩ hrest

end Exp

open Exp

namespace Value
variable {x : Single}

theorem exp_of_isFinite (hx : x.isFinite = true) : x.exp =
    if upper.toRat < x.toRat then .infinite false
    else if x.toRat < lower.toRat then .zero false
    else
      let z := Exp.slope * x.convert .double
      (polynomial (z - .ofInt z.toIntEven) * root z.toIntEven).convert .single := by
  obtain ⟨s,m,e,rfl⟩ := exists_of_isFinite hx
  rw [exp, if_neg (by exact Bool.false_ne_true)]
  simp only [less_iff (a := upper) rfl hx, less_iff (b := lower) hx rfl]
  rfl

theorem exp_of_between (hx : x.isFinite = true) (hlow : lower.toRat ≤ x.toRat) (hhigh : x.toRat ≤ 0) :
    x.exp.Within 4 := by
  have hbound := two_pow_le_bound
  have hsingle : (4 : ℚ) ≤ Format.single.bound := by
    have hpower : (2 : ℚ) ^ (2 : ℤ) ≤ Format.single.bound := Format.two_zpow_le_bound (by decide)
    linarith
  obtain ⟨hlog,hlog₁,hlog₂⟩ := log_bounds hx (toRat_lower.trans hlow) hhigh
  obtain ⟨hk,hk',hrest⟩ := rest_bounded hlog hlog₁ hlog₂
  rw [exp_of_isFinite hx, if_neg (not_lt.mpr (hhigh.trans toRat_upper)), if_neg (not_lt.mpr hlow)]
  have hdouble := ((polynomial_within hrest).mul (root_within hk hk') (z := 4) (by norm_num)
    ⟨4,0,by decide,by decide,by norm_num⟩ (by linarith)).2
  exact hdouble.convert ⟨4,0,by decide,by decide,by norm_num⟩ hsingle

theorem exp_of_isNegative (hx : x.isNegative = true) : x.exp.Within 4 := by
  have hzero : (zero false : Single).Within 4 := zero_within false (by norm_num)
  cases x with
  | nan => cases hx
  | infinite s =>
    obtain rfl : s = true := hx
    exact hzero
  | finite s m e =>
    obtain rfl : s = true := hx
    have hnonpos : (finite true m e : Single).toRat ≤ 0 := by
      have hneg := toRat_neg (finite false m e : Single)
      rw [neg_finite, Bool.not_false] at hneg
      rw [hneg, neg_nonpos]
      exact toRat_nonneg m e
    by_cases hlow : lower.toRat ≤ (finite true m e : Single).toRat
    · exact exp_of_between rfl hlow hnonpos
    · rw [exp_of_isFinite rfl, if_neg (not_lt.mpr (hnonpos.trans toRat_upper)),
        if_pos (not_le.mp hlow)]
      exact hzero

theorem exp_zero (s : Bool) : (zero s : Single).exp = .finite false (2 ^ 23) (-23) := by
  cases s <;> decide +kernel

end Value
end SensorRelay.Binary
