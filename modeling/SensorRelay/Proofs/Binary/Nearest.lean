import Mathlib.Algebra.Order.Round
import Mathlib.Data.Int.Log
import Mathlib.Data.Rat.Floor
import Mathlib.Tactic.FieldSimp
import Mathlib.Tactic.Linarith
import Mathlib.Tactic.Positivity
import Mathlib.Tactic.Ring
import SensorRelay.Binary.Value

/-! # Numbers that a format holds

A format holds a grid of numbers, which gets coarser by two at every power of two and does not get finer
below the least exponent. Rounding goes to a number of the grid that no other is closer to. All that is
used later of a rounded result follows from this: it does not pass a number of the grid, it does not move
a power of two up unless half a step is added, and in the range of full precision its error is at most a
half in the last of the places.
-/
namespace SensorRelay.Binary.Format
variable {F : Format} {x v w : ℚ}

/-- The format has a number for one step of its finest grid. -/
class Proper (F : Format) : Prop where
  precision_pos : 0 < F.precision
  least_le_greatest : F.least ≤ F.greatest

instance : Proper .single := ⟨by decide,by decide⟩

instance : Proper .double := ⟨by decide,by decide⟩

/-- The numbers of the format, as if there were no greatest exponent. -/
def Holds (F : Format) (x : ℚ) : Prop :=
  ∃ m e : ℤ, |m| ≤ 2 ^ F.precision ∧ F.least ≤ e ∧ x = m * 2 ^ e

/-- The format holds `v`, and nothing that is closer to `x`. -/
structure Nearest (F : Format) (x v : ℚ) : Prop where
  holds : F.Holds v
  closest : ∀ w, F.Holds w → |v - x| ≤ |w - x|

/-- Half of the last place, relative to a number that takes the first. -/
def roundoff (F : Format) : ℚ := 2 ^ (-F.precision : ℤ)

theorem two_zpow_pos (k : ℤ) : (0 : ℚ) < 2 ^ k := zpow_pos two_pos k

theorem two_zpow_add (j k : ℤ) : (2 : ℚ) ^ (j + k) = 2 ^ j * 2 ^ k := zpow_add₀ two_ne_zero j k

theorem two_zpow_le {j k : ℤ} (h : j ≤ k) : (2 : ℚ) ^ j ≤ 2 ^ k := zpow_le_zpow_right₀ one_le_two h

theorem abs_two_zpow (k : ℤ) : |(2 : ℚ) ^ k| = 2 ^ k := abs_of_pos (two_zpow_pos k)

/-- On a grid the numbers of a coarser one are found again. -/
theorem exists_multiple (m : ℤ) {e u : ℤ} (h : u ≤ e) : ∃ n : ℤ, (m : ℚ) * 2 ^ e = n * 2 ^ u := by
  refine ⟨m * 2 ^ (e - u).toNat,?_⟩
  have hsplit : (2 : ℚ) ^ e = 2 ^ (e - u).toNat * 2 ^ u := by
    rw [← zpow_natCast, Int.toNat_of_nonneg (sub_nonneg.mpr h), ← two_zpow_add, sub_add_cancel]
  push_cast
  rw [hsplit, mul_assoc]

/-! ## What a format holds -/

theorem Holds.neg (h : F.Holds x) : F.Holds (-x) := by
  obtain ⟨m,e,hm,he,rfl⟩ := h
  refine ⟨-m,e,by rwa [abs_neg],he,?_⟩
  push_cast
  ring

theorem holds_zero : F.Holds 0 := ⟨0,F.least,by positivity,le_rfl,by simp⟩

theorem holds_two_zpow {k : ℤ} (h : F.least ≤ k) : F.Holds (2 ^ k) :=
  ⟨1,k,by simpa using one_le_pow₀ (one_le_two (α := ℤ)),h,by simp⟩

theorem holds_intCast {n : ℤ} (hn : |n| ≤ 2 ^ F.precision) (hleast : F.least ≤ 0) : F.Holds n :=
  ⟨n,0,hn,hleast,by simp⟩

/-- What is on the finest grid, as sums and whole multiples of numbers of the format are. -/
def OnGrid (F : Format) (x : ℚ) : Prop := ∃ n : ℤ, x = n * 2 ^ F.least

theorem OnGrid.add (hv : F.OnGrid v) (hw : F.OnGrid w) : F.OnGrid (v + w) := by
  obtain ⟨m,rfl⟩ := hv
  obtain ⟨n,rfl⟩ := hw
  exact ⟨m + n,by push_cast; ring⟩

theorem OnGrid.mul_natCast (hv : F.OnGrid v) (n : ℕ) : F.OnGrid (v * n) := by
  obtain ⟨m,rfl⟩ := hv
  exact ⟨m * n,by push_cast; ring⟩

theorem Holds.onGrid (h : F.Holds x) : F.OnGrid x := by
  obtain ⟨m,e,-,he,rfl⟩ := h
  exact exists_multiple m he

/-- Above a power of two the next number is a full step away. -/
theorem Holds.step_le [F.Proper] (h : F.Holds w) {k : ℤ} (hlt : 2 ^ k < w) :
    2 ^ k + 2 ^ (k + 1 - F.precision) ≤ w := by
  obtain ⟨m,e,hm,-,rfl⟩ := h
  rcases le_or_gt (k + 1 - F.precision) e with hcoarse | hfine
  · -- Both numbers are multiples of the step.
    have hfull : k + 1 - F.precision ≤ k := by
      have hpos := Proper.precision_pos (F := F)
      omega
    obtain ⟨a,ha⟩ := exists_multiple m hcoarse
    obtain ⟨b,hb⟩ := exists_multiple 1 hfull
    rw [Int.cast_one, one_mul] at hb
    rw [ha, hb] at hlt ⊢
    have hint : b + 1 ≤ a := by
      exact_mod_cast lt_of_mul_lt_mul_right hlt (two_zpow_pos _).le
    have hint' : (b : ℚ) + 1 ≤ a := by exact_mod_cast hint
    calc (b : ℚ) * 2 ^ (k + 1 - F.precision) + 2 ^ (k + 1 - F.precision)
        = (b + 1) * 2 ^ (k + 1 - F.precision) := by ring
      _ ≤ a * 2 ^ (k + 1 - F.precision) := mul_le_mul_of_nonneg_right hint' (two_zpow_pos _).le
  · -- A finer number with so few places does not get past the power.
    have hle : (m : ℚ) * 2 ^ e ≤ 2 ^ k := by
      calc (m : ℚ) * 2 ^ e ≤ 2 ^ F.precision * 2 ^ e := by
            refine mul_le_mul_of_nonneg_right ?_ (two_zpow_pos e).le
            exact_mod_cast (le_abs_self m).trans hm
        _ = 2 ^ (F.precision + e) := by rw [two_zpow_add, zpow_natCast]
        _ ≤ 2 ^ k := two_zpow_le (by omega)
    exact absurd hlt (not_lt.mpr hle)

/-! ## What the nearest number can be -/

namespace Nearest

theorem neg (h : F.Nearest x v) : F.Nearest (-x) (-v) where
  holds := h.holds.neg
  closest w hw := by
    have hclose := h.closest (-w) hw.neg
    rw [← abs_neg, ← abs_neg (w - -x)]
    convert hclose using 2 <;> ring

theorem eq_of_holds (h : F.Nearest x v) (hx : F.Holds x) : v = x := by
  have hclose := h.closest x hx
  rw [sub_self, abs_zero] at hclose
  exact sub_eq_zero.mp (abs_nonpos_iff.mp hclose)

theorem le (h : F.Nearest x v) (hw : F.Holds w) (hxw : x ≤ w) : v ≤ w := by
  by_contra hlt
  rw [not_le] at hlt
  have hclose := h.closest w hw
  rw [abs_of_pos (by linarith), abs_of_nonneg (by linarith)] at hclose
  linarith

theorem ge (h : F.Nearest x v) (hw : F.Holds w) (hwx : w ≤ x) : w ≤ v := by
  have hle := h.neg.le hw.neg (neg_le_neg hwx)
  exact neg_le_neg_iff.mp hle

/-- Less than half a step above a power of two is rounded down to it. -/
theorem le_two_zpow [F.Proper] (h : F.Nearest x v) {k : ℤ} (hk : F.least ≤ k)
    (hx : x < 2 ^ k + 2 ^ (k - F.precision)) : v ≤ 2 ^ k := by
  by_contra hlt
  rw [not_le] at hlt
  rcases le_or_gt x (2 ^ k) with hle | hgt
  · exact absurd (h.le (holds_two_zpow hk) hle) (not_le.mpr hlt)
  · have hstep := h.holds.step_le hlt
    have hhalf : (2 : ℚ) ^ (k + 1 - F.precision) = 2 * 2 ^ (k - F.precision) := by
      rw [add_sub_right_comm, two_zpow_add, zpow_one, mul_comm]
    have hclose := h.closest _ (holds_two_zpow hk)
    rw [abs_of_pos (by linarith), abs_of_neg (by linarith)] at hclose
    linarith

/-- In the range of full precision the error is at most half of the last place. -/
theorem abs_sub_le_of_le (h : F.Nearest x v) (hx : 2 ^ (F.least + F.precision - 1) ≤ |x|) :
    |v - x| ≤ |x| * F.roundoff := by
  have hpos : 0 < |x| := (two_zpow_pos _).trans_le hx
  rw [roundoff]
  -- The step of the grid where `x` is.
  obtain ⟨u,hstep⟩ : ∃ u : ℤ, u + F.precision = Int.log 2 |x| + 1 := ⟨_,sub_add_cancel _ _⟩
  have hlog : (2 : ℚ) ^ Int.log 2 |x| ≤ |x| := Int.zpow_log_le_self one_lt_two hpos
  have hlog' : |x| < 2 ^ (Int.log 2 |x| + 1) := Int.lt_zpow_succ_log_self one_lt_two |x|
  have hleast : F.least ≤ u := by
    have hlt := (zpow_lt_zpow_iff_right₀ (one_lt_two (α := ℚ))).mp (hx.trans_lt hlog')
    omega
  have hu := two_zpow_pos u
  -- The multiple of the step next to `x`.
  let n : ℤ := ⌊x / 2 ^ u + 1 / 2⌋
  have hround : |(n : ℚ) - x / 2 ^ u| ≤ 1 / 2 := by
    have hfloor := Int.floor_le (x / 2 ^ u + 1 / 2)
    have hfloor' := Int.lt_floor_add_one (x / 2 ^ u + 1 / 2)
    rw [abs_le]
    constructor <;> linarith
  have hholds : F.Holds (n * 2 ^ u) := by
    refine ⟨n,u,?_,hleast,rfl⟩
    have hquot : |x / 2 ^ u| < 2 ^ F.precision := by
      rwa [abs_div, abs_two_zpow, div_lt_iff₀ hu, ← zpow_natCast, ← two_zpow_add, add_comm, hstep]
    have hlt : |(n : ℚ)| < 2 ^ F.precision + 1 := by
      have htriangle := abs_add_le ((n : ℚ) - x / 2 ^ u) (x / 2 ^ u)
      rw [sub_add_cancel] at htriangle
      linarith
    have hlt' : |n| < 2 ^ F.precision + 1 := by exact_mod_cast hlt
    omega
  calc |v - x| ≤ |n * 2 ^ u - x| := h.closest _ hholds
    _ = |(n : ℚ) - x / 2 ^ u| * 2 ^ u := by
        rw [← abs_two_zpow u, ← abs_mul, sub_mul, abs_two_zpow, div_mul_cancel₀ _ hu.ne']
    _ ≤ 1 / 2 * 2 ^ u := mul_le_mul_of_nonneg_right hround hu.le
    _ = 2 ^ Int.log 2 |x| * 2 ^ (-F.precision : ℤ) := by
        have hhalf : Int.log 2 |x| + -(F.precision : ℤ) = -1 + u := by omega
        rw [← two_zpow_add, hhalf, two_zpow_add, zpow_neg_one, one_div]
    _ ≤ |x| * 2 ^ (-F.precision : ℤ) := mul_le_mul_of_nonneg_right hlog (two_zpow_pos _).le

/-- On the finest grid there is no error below the range of full precision. -/
theorem abs_sub_le_of_onGrid [F.Proper] (h : F.Nearest x v) (hx : F.OnGrid x) :
    |v - x| ≤ |x| * F.roundoff := by
  rcases le_or_gt (2 ^ (F.least + F.precision - 1)) |x| with hfull | hsmall
  · exact h.abs_sub_le_of_le hfull
  · obtain ⟨n,rfl⟩ := hx
    have hn : |n| ≤ 2 ^ F.precision := by
      rw [abs_mul, abs_two_zpow, add_sub_assoc, two_zpow_add, mul_comm,
        mul_lt_mul_iff_right₀ (two_zpow_pos _)] at hsmall
      have hle : |(n : ℚ)| ≤ 2 ^ F.precision := by
        rw [← zpow_natCast]
        exact hsmall.le.trans (two_zpow_le (by omega))
      exact_mod_cast hle
    rw [h.eq_of_holds ⟨n,F.least,hn,le_rfl,rfl⟩, sub_self, abs_zero]
    exact mul_nonneg (abs_nonneg _) (two_zpow_pos _).le

end Nearest
end SensorRelay.Binary.Format
