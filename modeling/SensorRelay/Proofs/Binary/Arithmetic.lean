import Mathlib.Algebra.Order.Floor.Semifield
import SensorRelay.Binary.Arithmetic
import SensorRelay.Proofs.Binary.Rounding

/-! # Operations are correctly rounded

A finite value stands for a rational number. Every operation on finite values gives a finite value
again, which is nearest to the exact result, as long as that is not above the bound of the format. Later
proofs use nothing else about the operations.
-/
namespace SensorRelay.Binary.Value
variable {F G : Format} {a b : Value F} {x y z : ℚ}

/-- The number that a finite value stands for. -/
def toRat : Value F → ℚ
  | .finite negative m e => (if negative then -(m : ℚ) else m) * 2 ^ e
  | _ => 0

/-- The value is finite and nearest to `x`. -/
structure Rounds (a : Value F) (x : ℚ) : Prop where
  finite : a.isFinite = true
  nearest : F.Nearest x a.toRat

theorem exists_of_isFinite (ha : a.isFinite = true) : ∃ s m e, a = .finite s m e := by
  cases a with
  | finite s m e => exact ⟨s,m,e,rfl⟩
  | _ => cases ha

theorem neg_finite (s : Bool) (m : ℕ) (e : ℤ) : -(finite s m e : Value F) = finite (!s) m e := rfl

theorem toRat_finite (s : Bool) (m : ℕ) (e : ℤ) :
    (finite s m e : Value F).toRat = (if s then -(m : ℚ) else m) * 2 ^ e := rfl

/-- The values without a sign. -/
inductive Unsigned : Value F → Prop
  | infinite : Unsigned (.infinite false)
  | finite (m : ℕ) (e : ℤ) : Unsigned (.finite false m e)

theorem Unsigned.eq_finite (h : a.Unsigned) (ha : a.isFinite = true) :
    ∃ m e, a = .finite false m e := by
  cases h with
  | infinite => cases ha
  | finite m e => exact ⟨m,e,rfl⟩

theorem round_unsigned (n d : ℕ) (e : ℤ) : (F.round false n d e).Unsigned := by
  rcases F.round_cases false n d e with h | ⟨m,u,h⟩
  · exact h ▸ .infinite
  · exact h ▸ .finite m u

theorem toRat_nonneg (m : ℕ) (e : ℤ) : 0 ≤ (finite false m e : Value F).toRat :=
  mul_nonneg m.cast_nonneg (Format.two_zpow_pos e).le

@[simp] theorem toRat_zero (s : Bool) : (zero s : Value F).toRat = 0 := by
  cases s <;> simp [zero, toRat_finite]

@[simp] theorem isFinite_neg (a : Value F) : (-a).isFinite = a.isFinite := by cases a <;> rfl

@[simp] theorem toRat_neg (a : Value F) : (-a).toRat = -a.toRat := by
  cases a with
  | finite s m e => cases s <;> simp [neg_finite, toRat_finite]
  | _ => exact neg_zero.symm

/-! ## What is not a number stays none -/

@[simp] theorem nan_add (a : Value F) : nan + a = nan := rfl

@[simp] theorem add_nan (a : Value F) : a + nan = nan := by cases a <;> rfl

@[simp] theorem nan_mul (a : Value F) : nan * a = nan := rfl

@[simp] theorem mul_nan (a : Value F) : a * nan = nan := by cases a <;> rfl

@[simp] theorem nan_div (a : Value F) : nan / a = nan := rfl

/-! ## Rounded values -/

/-- The value is finite and not above `y` in size. -/
structure Bounded (a : Value F) (y : ℚ) : Prop where
  finite : a.isFinite = true
  abs_le : |a.toRat| ≤ y

/-- The value is finite and the number is one of the format, not negative and not above `hi`. -/
structure Within (a : Value F) (hi : ℚ) : Prop where
  finite : a.isFinite = true
  holds : F.Holds a.toRat
  nonneg : 0 ≤ a.toRat
  le : a.toRat ≤ hi

namespace Rounds

theorem holds (h : a.Rounds x) : F.Holds a.toRat := h.nearest.holds

theorem within (h : a.Rounds x) (hx : 0 ≤ x) (hy : F.Holds y) (hxy : x ≤ y) : a.Within y :=
  ⟨h.finite,h.holds,h.nearest.ge Format.holds_zero hx,h.nearest.le hy hxy⟩

theorem relative_of_error (h : |a.toRat - x| ≤ |x| * F.roundoff) (hx : 0 ≤ x) :
    x * (1 - F.roundoff) ≤ a.toRat ∧ a.toRat ≤ x * (1 + F.roundoff) := by
  rw [abs_of_nonneg hx, abs_le] at h
  constructor <;> linarith

/-- The relative error of a sum or of another number on the finest grid. -/
theorem relative [F.Proper] (h : a.Rounds x) (hx : 0 ≤ x) (hgrid : F.OnGrid x) :
    x * (1 - F.roundoff) ≤ a.toRat ∧ a.toRat ≤ x * (1 + F.roundoff) :=
  relative_of_error (h.nearest.abs_sub_le_of_onGrid hgrid) hx

/-- The relative error of a number that is not tiny. -/
theorem relative_of_le (h : a.Rounds x) (hx : 2 ^ (F.least + F.precision - 1) ≤ x) :
    x * (1 - F.roundoff) ≤ a.toRat ∧ a.toRat ≤ x * (1 + F.roundoff) := by
  have hpos : 0 < x := (Format.two_zpow_pos _).trans_le hx
  refine relative_of_error (h.nearest.abs_sub_le_of_le ?_) hpos.le
  rwa [abs_of_pos hpos]

theorem bounded (h : a.Rounds x) (hy : F.Holds y) (hx : |x| ≤ y) : a.Bounded y := by
  have hx' := abs_le.mp hx
  exact ⟨h.finite,abs_le.mpr ⟨h.nearest.ge hy.neg hx'.1,h.nearest.le hy hx'.2⟩⟩

end Rounds

/-- What is rounded is a quotient with a sign. -/
theorem round_rounds [F.Proper] (s : Bool) (n : ℕ) {d : ℕ} (hd : 0 < d) (e : ℤ)
    (hrange : |(if s then -1 else 1) * ((n : ℚ) / d * 2 ^ e)| ≤ F.bound) :
    (F.round s n d e).Rounds ((if s then -1 else 1) * ((n : ℚ) / d * 2 ^ e)) := by
  have hnonneg : 0 ≤ (n : ℚ) / d * 2 ^ e :=
    mul_nonneg (div_nonneg n.cast_nonneg d.cast_nonneg) (Format.two_zpow_pos e).le
  have hsize : |(if s then -1 else 1) * ((n : ℚ) / d * 2 ^ e)| = (n : ℚ) / d * 2 ^ e := by
    cases s with
    | false => rw [if_neg Bool.false_ne_true, one_mul, abs_of_nonneg hnonneg]
    | true => rw [if_pos rfl, neg_one_mul, abs_neg, abs_of_nonneg hnonneg]
  obtain ⟨m,u,hround,hnearest⟩ := F.round_nearest s n hd e (hsize ▸ hrange)
  rw [hround]
  cases s with
  | false =>
    refine ⟨rfl,?_⟩
    simpa [toRat_finite] using hnearest
  | true =>
    refine ⟨rfl,?_⟩
    simpa [toRat_finite] using hnearest.neg

theorem round_one_rounds [F.Proper] (s : Bool) (n : ℕ) (e : ℤ)
    (hrange : |(finite s n e : Value F).toRat| ≤ F.bound) :
    (F.round s n 1 e).Rounds ((finite s n e : Value F).toRat) := by
  have hvalue : (finite s n e : Value F).toRat = (if s then -1 else 1) * ((n : ℚ) / (1 : ℕ) * 2 ^ e) := by
    cases s <;> simp [toRat_finite]
  rw [hvalue] at hrange ⊢
  exact round_rounds s n one_pos e hrange

theorem round_int_rounds [F.Proper] (k e : ℤ) (hrange : |(k : ℚ) * 2 ^ e| ≤ F.bound) :
    (F.round (decide (k < 0)) k.natAbs 1 e).Rounds (k * 2 ^ e) := by
  have hcast : (k.natAbs : ℚ) = |(k : ℚ)| := by rw [Nat.cast_natAbs, Int.cast_abs]
  have hvalue : (finite (decide (k < 0)) k.natAbs e : Value F).toRat = k * 2 ^ e := by
    rw [toRat_finite, hcast]
    rcases lt_or_ge k 0 with hneg | hpos
    · have hneg' : (k : ℚ) ≤ 0 := by exact_mod_cast hneg.le
      simp [hneg, abs_of_nonpos hneg']
    · have hpos' : (0 : ℚ) ≤ k := by exact_mod_cast hpos
      simp [not_lt.mpr hpos, abs_of_nonneg hpos']
  rw [← hvalue] at hrange ⊢
  exact round_one_rounds _ _ e hrange

theorem zero_rounds (s : Bool) : (zero s : Value F).Rounds 0 := by
  refine ⟨rfl,?_⟩
  rw [toRat_zero]
  exact ⟨Format.holds_zero,fun w _ => by simp⟩

theorem zero_within (s : Bool) (hy : 0 ≤ y) : (zero s : Value F).Within y := by
  refine ⟨rfl,(zero_rounds s).holds,?_,?_⟩ <;> rw [toRat_zero]
  exact hy

/-! ## Sums -/

theorem toRat_scaled (s : Bool) (m : ℕ) {e u : ℤ} (h : u ≤ e) :
    (scaled s m e u : ℚ) * 2 ^ u = (finite s m e : Value F).toRat := by
  have hshift : (((m : ℤ) <<< (e - u).toNat : ℤ) : ℚ) * 2 ^ u = m * 2 ^ e := by
    rw [Int.shiftLeft_eq]
    push_cast
    rw [mul_assoc, ← zpow_natCast, Int.toNat_of_nonneg (sub_nonneg.mpr h), ← Format.two_zpow_add,
      sub_add_cancel]
  cases s <;> simp [scaled, toRat_finite, hshift]

theorem add_rounds [F.Proper] (ha : a.isFinite = true) (hb : b.isFinite = true)
    (hrange : |a.toRat + b.toRat| ≤ F.bound) : (a + b).Rounds (a.toRat + b.toRat) := by
  obtain ⟨s,m,e,rfl⟩ := exists_of_isFinite ha
  obtain ⟨t,n,f,rfl⟩ := exists_of_isFinite hb
  have hsum : ((scaled s m e (min e f) + scaled t n f (min e f) : ℤ) : ℚ) * 2 ^ min e f =
      (finite s m e : Value F).toRat + (finite t n f : Value F).toRat := by
    push_cast
    rw [add_mul, toRat_scaled s m (min_le_left e f), toRat_scaled t n (min_le_right e f)]
  change (Value.add (.finite s m e) (.finite t n f)).Rounds _
  rw [Value.add]
  generalize scaled s m e (min e f) + scaled t n f (min e f) = k at hsum ⊢
  rw [← hsum] at hrange ⊢
  split
  · rename_i hzero
    rw [hzero, Int.cast_zero, zero_mul]
    exact zero_rounds _
  · exact round_int_rounds k _ hrange

theorem Bounded.add [F.Proper] (ha : a.Bounded x) (hb : b.Bounded y) (hholds : F.Holds (x + y))
    (hrange : x + y ≤ F.bound) : (a + b).Bounded (x + y) := by
  have hsum : |a.toRat + b.toRat| ≤ x + y :=
    (abs_add_le a.toRat b.toRat).trans (add_le_add ha.abs_le hb.abs_le)
  exact (add_rounds ha.finite hb.finite (hsum.trans hrange)).bounded hholds hsum

theorem sub_rounds [F.Proper] (ha : a.isFinite = true) (hb : b.isFinite = true)
    (hrange : |a.toRat - b.toRat| ≤ F.bound) : (a - b).Rounds (a.toRat - b.toRat) := by
  have hneg : (-b).isFinite = true := (isFinite_neg b).trans hb
  rw [sub_eq_add_neg, ← toRat_neg] at hrange ⊢
  exact add_rounds ha hneg hrange

theorem sub_self_eq (ha : a.isFinite = true) : a - a = zero false := by
  obtain ⟨s,m,e,rfl⟩ := exists_of_isFinite ha
  have hsum : scaled s m e (min e e) + scaled (!s) m e (min e e) = 0 := by
    cases s <;> simp [scaled]
  have hsub : (finite s m e : Value F) - finite s m e = zero (s && !s) := if_pos hsum
  rw [hsub, Bool.and_not_self]

/-! ## Products and quotients -/

theorem mul_rounds [F.Proper] (ha : a.isFinite = true) (hb : b.isFinite = true)
    (hrange : |a.toRat * b.toRat| ≤ F.bound) : (a * b).Rounds (a.toRat * b.toRat) := by
  obtain ⟨s,m,e,rfl⟩ := exists_of_isFinite ha
  obtain ⟨t,n,f,rfl⟩ := exists_of_isFinite hb
  have hproduct : (finite s m e : Value F).toRat * (finite t n f : Value F).toRat =
      (finite (s ^^ t) (m * n) (e + f) : Value F).toRat := by
    cases s <;> cases t <;> simp [toRat_finite, Format.two_zpow_add] <;> ring
  rw [hproduct] at hrange ⊢
  exact round_one_rounds (s ^^ t) (m * n) (e + f) hrange

/-- A square has no sign. -/
theorem mul_self_unsigned (ha : a.isFinite = true) : (a * a).Unsigned := by
  obtain ⟨s,m,e,rfl⟩ := exists_of_isFinite ha
  have hmul : (finite s m e : Value F) * finite s m e = F.round (s ^^ s) (m * m) 1 (e + e) := rfl
  rw [hmul, Bool.xor_self]
  exact round_unsigned _ _ _

theorem Bounded.mul [F.Proper] (ha : a.Bounded x) (hb : b.Bounded y) (hholds : F.Holds (x * y))
    (hrange : x * y ≤ F.bound) : (a * b).Bounded (x * y) := by
  have hproduct : |a.toRat * b.toRat| ≤ x * y := by
    rw [abs_mul]
    exact mul_le_mul ha.abs_le hb.abs_le (abs_nonneg _) ((abs_nonneg _).trans ha.abs_le)
  exact (mul_rounds ha.finite hb.finite (hproduct.trans hrange)).bounded hholds hproduct

theorem Within.mul [F.Proper] (ha : a.Within x) (hb : b.Within y) (hz : x * y ≤ z)
    (hholds : F.Holds z) (hrange : z ≤ F.bound) :
    (a * b).Rounds (a.toRat * b.toRat) ∧ (a * b).Within z := by
  have hnonneg := mul_nonneg ha.nonneg hb.nonneg
  have hle : a.toRat * b.toRat ≤ z :=
    (mul_le_mul ha.le hb.le hb.nonneg (ha.nonneg.trans ha.le)).trans hz
  have hrounds := mul_rounds ha.finite hb.finite (by
    rw [abs_of_nonneg hnonneg]
    exact hle.trans hrange)
  exact ⟨hrounds,hrounds.within hnonneg hholds hle⟩

theorem div_rounds [F.Proper] (ha : a.isFinite = true) (hb : b.isFinite = true) (hzero : b.toRat ≠ 0)
    (hrange : |a.toRat / b.toRat| ≤ F.bound) : (a / b).Rounds (a.toRat / b.toRat) := by
  obtain ⟨s,m,e,rfl⟩ := exists_of_isFinite ha
  obtain ⟨t,n,f,rfl⟩ := exists_of_isFinite hb
  have hn : n ≠ 0 := by
    rintro rfl
    exact hzero (by simp [toRat_finite])
  have hquotient : (finite s m e : Value F).toRat / (finite t n f : Value F).toRat =
      (if s ^^ t then -1 else 1) * ((m : ℚ) / n * 2 ^ (e - f)) := by
    rw [sub_eq_add_neg, Format.two_zpow_add, zpow_neg]
    cases s <;> cases t <;> simp [toRat_finite] <;> field_simp
  change (Value.div (.finite s m e) (.finite t n f)).Rounds _
  rw [hquotient] at hrange ⊢
  simp only [Value.div, if_neg hn]
  exact round_rounds (s ^^ t) m (Nat.pos_of_ne_zero hn) (e - f) hrange

/-! ## Integers and other formats -/

theorem ofInt_rounds [F.Proper] {n : ℤ} (hrange : |(n : ℚ)| ≤ F.bound) :
    (ofInt n : Value F).Rounds n := by
  have hvalue : (n : ℚ) * 2 ^ (0 : ℤ) = n := by rw [zpow_zero, mul_one]
  rw [← hvalue] at hrange ⊢
  exact round_int_rounds n 0 hrange

theorem ofInt_unsigned {n : ℤ} (hn : 0 ≤ n) : (ofInt n : Value F).Unsigned := by
  rw [ofInt, decide_eq_false (not_lt.mpr hn)]
  exact round_unsigned _ _ _

theorem ofNat_rounds [F.Proper] {n : ℕ} (hrange : (n : ℚ) ≤ F.bound) :
    (ofNat n : Value F).Rounds n := by
  have hvalue : (finite false n 0 : Value F).toRat = n := by simp [toRat_finite]
  rw [← abs_of_nonneg (Nat.cast_nonneg (α := ℚ) n), ← hvalue] at hrange
  rw [← hvalue]
  exact round_one_rounds false n 0 hrange

theorem convert_rounds [G.Proper] (ha : a.isFinite = true) (hrange : |a.toRat| ≤ G.bound) :
    (a.convert G).Rounds a.toRat := by
  obtain ⟨s,m,e,rfl⟩ := exists_of_isFinite ha
  exact round_one_rounds s m e hrange

theorem Within.convert [G.Proper] (ha : a.Within x) (hholds : G.Holds x) (hrange : x ≤ G.bound) :
    (a.convert G).Within x := by
  refine (convert_rounds ha.finite ?_).within ha.nonneg hholds ha.le
  rw [abs_of_nonneg ha.nonneg]
  exact ha.le.trans hrange

/-! ## Order -/

theorem less_iff (ha : a.isFinite = true) (hb : b.isFinite = true) :
    a.less b = true ↔ a.toRat < b.toRat := by
  obtain ⟨s,m,e,rfl⟩ := exists_of_isFinite ha
  obtain ⟨t,n,f,rfl⟩ := exists_of_isFinite hb
  rw [less, decide_eq_true_iff, ← toRat_scaled s m (min_le_left e f),
    ← toRat_scaled t n (min_le_right e f), mul_lt_mul_iff_left₀ (Format.two_zpow_pos _), Int.cast_lt]

/-- Not above: false as soon as one side is not a number. -/
def atMost (a b : Value F) : Bool := a.less b || a.same b

theorem atMost_iff (ha : a.isFinite = true) (hb : b.isFinite = true) :
    a.atMost b = true ↔ a.toRat ≤ b.toRat := by
  have hsame : a.same b = true ↔ a.toRat = b.toRat := by
    have hsame' : a.same b = (!a.less b && !b.less a) := by
      obtain ⟨s,m,e,rfl⟩ := exists_of_isFinite ha
      obtain ⟨t,n,f,rfl⟩ := exists_of_isFinite hb
      rfl
    rw [hsame', Bool.and_eq_true, Bool.not_eq_true', Bool.not_eq_true', ← Bool.not_eq_true,
      ← Bool.not_eq_true, less_iff ha hb, less_iff hb ha, not_lt, not_lt, le_antisymm_iff, and_comm]
  rw [atMost, Bool.or_eq_true, less_iff ha hb, hsame, le_iff_lt_or_eq]

theorem less_eq_false_of_isNaN (hb : b.isNaN = true) : a.less b = false := by
  cases b with
  | nan => cases a <;> rfl
  | infinite negative => cases hb
  | finite s m e => cases hb

/-- What is not above `c` is above no finite value that `c` does not pass. -/
theorem less_eq_false_of_atMost {c : Value F} (ha : a.isFinite = true) (hc : c.isFinite = true)
    (hle : c.toRat ≤ a.toRat) (hb : b.atMost c = true) : a.less b = false := by
  obtain ⟨s,m,e,rfl⟩ := exists_of_isFinite ha
  obtain ⟨t,n,f,rfl⟩ := exists_of_isFinite hc
  cases b with
  | nan => rfl
  | infinite negative =>
    cases negative with
    | true => rfl
    | false => cases hb
  | finite r k g =>
    rw [atMost_iff rfl rfl] at hb
    rw [← Bool.not_eq_true, less_iff rfl rfl, not_lt]
    exact hb.trans hle

/-- What `c` does not pass is above every finite value that `c` is above. -/
theorem less_of_atMost {c : Value F} (ha : a.isFinite = true) (hc : c.isFinite = true)
    (hlt : a.toRat < c.toRat) (hb : c.atMost b = true) : a.less b = true := by
  obtain ⟨s,m,e,rfl⟩ := exists_of_isFinite ha
  obtain ⟨t,n,f,rfl⟩ := exists_of_isFinite hc
  cases b with
  | nan => cases hb
  | infinite negative =>
    cases negative with
    | true => cases hb
    | false => rfl
  | finite r k g =>
    rw [atMost_iff rfl rfl] at hb
    rw [less_iff rfl rfl]
    exact hlt.trans_le hb

theorem clamp_finite [F.Proper] {lo hi : Value F} (ha : a.isFinite = true) (hlo : lo.isFinite = true)
    (hhi : hi.isFinite = true) :
    (a.clamp lo hi).isFinite = true ∧
      (a.clamp lo hi).toRat = min (max a.toRat lo.toRat) hi.toRat := by
  have hmax : (if a.less lo = true then lo else a).isFinite = true ∧
      (if a.less lo = true then lo else a).toRat = max a.toRat lo.toRat := by
    split
    · rename_i hlow
      rw [less_iff ha hlo] at hlow
      exact ⟨hlo,(max_eq_right hlow.le).symm⟩
    · rename_i hlow
      rw [less_iff ha hlo, not_lt] at hlow
      exact ⟨ha,(max_eq_left hlow).symm⟩
  rw [clamp]
  generalize (if a.less lo = true then lo else a) = b at hmax
  rw [← hmax.2]
  split
  · rename_i hhigh
    rw [less_iff hhi hmax.1] at hhigh
    exact ⟨hhi,(min_eq_right hhigh.le).symm⟩
  · rename_i hhigh
    rw [less_iff hhi hmax.1, not_lt] at hhigh
    exact ⟨hmax.1,(min_eq_left hhigh).symm⟩

/-- Whatever is a number, infinite or not, is moved into the range. -/
theorem clamp_mem [F.Proper] {lo hi : Value F} (ha : a.isNaN = false) (hlo : lo.isFinite = true)
    (hhi : hi.isFinite = true) (hle : lo.toRat ≤ hi.toRat) :
    (a.clamp lo hi).isFinite = true ∧ lo.toRat ≤ (a.clamp lo hi).toRat ∧
      (a.clamp lo hi).toRat ≤ hi.toRat := by
  cases a with
  | nan => cases ha
  | finite s m e =>
    obtain ⟨hfinite,hvalue⟩ := clamp_finite (a := finite s m e) rfl hlo hhi
    rw [hvalue]
    exact ⟨hfinite,le_min (le_max_right _ _) hle,min_le_right _ _⟩
  | infinite negative =>
    obtain ⟨s,m,e,rfl⟩ := exists_of_isFinite hlo
    obtain ⟨t,n,f,rfl⟩ := exists_of_isFinite hhi
    cases negative with
    | false => exact ⟨rfl,hle,le_rfl⟩
    | true =>
      have hclamp : (infinite true : Value F).clamp (finite s m e) (finite t n f) =
          if (finite t n f : Value F).less (finite s m e) = true then finite t n f
          else finite s m e := rfl
      rw [hclamp, if_neg (by rw [less_iff rfl rfl, not_lt]; exact hle)]
      exact ⟨rfl,le_rfl,hle⟩

/-! ## To integers -/

theorem abs_toIntEven_sub_le (ha : a.isFinite = true) : |(a.toIntEven : ℚ) - a.toRat| ≤ 1 / 2 := by
  obtain ⟨s,m,e,rfl⟩ := exists_of_isFinite ha
  have hpos : 0 < 1 <<< (-e).toNat := by
    rw [Nat.one_shiftLeft]
    positivity
  have hnearest := abs_nearest_sub_le (m <<< e.toNat) hpos
  rw [shifted_ratio, Nat.cast_one, div_one] at hnearest
  cases s with
  | false => simpa [toIntEven, toRat_finite] using hnearest
  | true =>
    rw [abs_sub_comm] at hnearest
    simpa [toIntEven, toRat_finite, neg_add_eq_sub] using hnearest

theorem cut_eq_floor (m : ℕ) (e : ℤ) : cut m e = ⌊(m : ℚ) * 2 ^ e⌋₊ := by
  have hratio := shifted_ratio m 1 e
  rw [Nat.cast_one, div_one] at hratio
  rw [cut, Nat.shiftRight_eq_div_pow, ← Nat.one_shiftLeft, ← hratio, Nat.floor_div_natCast,
    Nat.floor_natCast]

/-- Without a negative number behind it the sign of a value is that of a zero. -/
theorem significand_of_nonneg {m : ℕ} {e : ℤ} (h : 0 ≤ (finite true m e : Value F).toRat) : m = 0 := by
  have hpow := Format.two_zpow_pos e
  rw [toRat_finite, if_pos rfl, neg_mul, neg_nonneg] at h
  have hm : (m : ℚ) ≤ 0 := nonpos_of_mul_nonpos_left h hpow
  exact_mod_cast le_antisymm hm m.cast_nonneg

theorem toUInt16_eq_floor (ha : a.isFinite = true) (hnonneg : 0 ≤ a.toRat) (hle : a.toRat ≤ 65535) :
    a.toUInt16.toNat = ⌊a.toRat⌋₊ := by
  obtain ⟨s,m,e,rfl⟩ := exists_of_isFinite ha
  cases s with
  | false =>
    rw [toRat_finite, if_neg Bool.false_ne_true] at hle ⊢
    have hcut : cut m e ≤ 65535 := by
      rw [cut_eq_floor]
      exact Nat.floor_le_of_le (by exact_mod_cast hle)
    rw [← cut_eq_floor, toUInt16, if_neg Bool.false_ne_true, min_eq_left hcut]
    exact Nat.mod_eq_of_lt (by omega)
  | true =>
    rw [significand_of_nonneg hnonneg]
    simp [toUInt16, toRat_finite]

theorem isNaN_roundAway (ha : a.isNaN = false) : a.roundAway.isNaN = false := by
  cases a with
  | nan => cases ha
  | infinite s => rfl
  | finite s m e =>
    rw [roundAway]
    split
    · rfl
    · rcases F.round_cases s ((cut (2 * m) e + 1) / 2) 1 0 with h | ⟨k,u,h⟩ <;> rw [h] <;> rfl

/-- Up to the first number that needs all places, a half is rounded up. -/
theorem roundAway_eq_floor [F.Proper] (hleast : F.least ≤ 0) (hgreatest : 1 ≤ F.greatest)
    (ha : a.isFinite = true) (hnonneg : 0 ≤ a.toRat) (hle : a.toRat ≤ 2 ^ F.precision) :
    a.roundAway.isFinite = true ∧ a.roundAway.toRat = ⌊a.toRat + 1 / 2⌋₊ := by
  have hbound : (2 : ℚ) ^ F.precision ≤ F.bound := by
    rw [← zpow_natCast]
    exact Format.two_zpow_le_bound (by omega)
  -- The sign is only that of a zero, and the significand of a zero is rounded to itself.
  have hround : ∀ (s : Bool) (k : ℕ), (s = true → k = 0) → (k : ℚ) ≤ 2 ^ F.precision →
      (F.round s k 1 0).isFinite = true ∧ (F.round s k 1 0).toRat = k := by
    intro s k hs hk
    have hvalue : (finite s k 0 : Value F).toRat = k := by
      cases s with
      | false => simp [toRat_finite]
      | true => simp [hs rfl, toRat_finite]
    have hrounds := round_one_rounds (F := F) s k 0 (by
      rw [hvalue, abs_of_nonneg k.cast_nonneg]
      exact hk.trans hbound)
    rw [hvalue] at hrounds
    have hholds : F.Holds k := Format.holds_intCast (n := k) (by simpa using mod_cast hk) hleast
    exact ⟨hrounds.finite,hrounds.nearest.eq_of_holds hholds⟩
  obtain ⟨s,m,e,rfl⟩ := exists_of_isFinite ha
  have hsign : s = true → m = 0 := by
    rintro rfl
    exact significand_of_nonneg hnonneg
  have hvalue : (finite s m e : Value F).toRat = m * 2 ^ e := by
    cases s with
    | false => simp [toRat_finite]
    | true => simp [hsign rfl, toRat_finite]
  rw [hvalue] at hnonneg hle ⊢
  rw [roundAway]
  split
  · rename_i he
    have hwhole : (m : ℚ) * 2 ^ e = (m * 2 ^ e.toNat : ℕ) := by
      push_cast
      rw [← zpow_natCast, Int.toNat_of_nonneg he]
    refine ⟨rfl,?_⟩
    rw [hvalue, hwhole, Nat.cast_inj, eq_comm, Nat.floor_eq_iff (by positivity)]
    constructor <;> linarith
  · have hhalf : (cut (2 * m) e + 1) / 2 = ⌊(m : ℚ) * 2 ^ e + 1 / 2⌋₊ := by
      have hdouble : (0 : ℚ) ≤ (2 * m : ℕ) * 2 ^ e :=
        mul_nonneg (Nat.cast_nonneg _) (Format.two_zpow_pos e).le
      rw [cut_eq_floor, ← Nat.floor_add_one hdouble, ← Nat.floor_div_ofNat]
      congr 1
      push_cast
      ring
    rw [hhalf]
    refine hround s _ ?_ ?_
    · intro hs
      rw [hsign hs]
      norm_num
    · have hfloor := Nat.floor_le (a := (m : ℚ) * 2 ^ e + 1 / 2) (by linarith)
      have hlt : ((⌊(m : ℚ) * 2 ^ e + 1 / 2⌋₊ : ℕ) : ℚ) < (2 ^ F.precision + 1 : ℕ) := by
        push_cast
        linarith
      have hle' := Nat.lt_succ_iff.mp (Nat.cast_lt.mp hlt)
      exact_mod_cast hle'

end SensorRelay.Binary.Value
