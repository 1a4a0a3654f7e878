import SensorRelay.Proofs.Bilateral.Window
import SensorRelay.Proofs.Binary.Exp

/-! # Weights

A Gaussian divides a squared difference by its spread. The square of a width that is accepted may be too
great or too small for a value of four bytes. An infinite spread does no harm: every weight is one then.
A spread of zero makes the weight of the centre a zero divided by a zero, which is not a number. With
spreads that are not zero, weights are finite, not negative and small, and the centre weighs one.
-/
namespace SensorRelay

open Binary Value

namespace Bilateral
variable {p : Bilateral} {a s sigma : Single} {m n : Nat} {e f : Int}

/-! ## Spreads -/

theorem eq_finite_of_isWidth (hsigma : isWidth sigma = true) :
    ∃ m e, m ≠ 0 ∧ sigma = .finite false m e := by
  simp only [isWidth, Bool.and_eq_true] at hsigma
  obtain ⟨s,m,e,rfl⟩ := exists_of_isFinite hsigma.1
  have hpos := (less_iff rfl rfl).mp hsigma.2
  rw [toRat_zero] at hpos
  cases s with
  | true =>
    rw [toRat_finite, if_pos rfl, neg_mul, neg_pos] at hpos
    exact absurd hpos (not_lt.mpr (toRat_nonneg (F := .single) m e))
  | false =>
    refine ⟨m,e,?_,rfl⟩
    rintro rfl
    simp [toRat_finite] at hpos

/-- Multiplying by a width neither makes a value negative nor loses it. -/
theorem mul_width_unsigned (ha : a.Unsigned) (hm : m ≠ 0) : (a * .finite false m e).Unsigned := by
  cases ha with
  | infinite =>
    have hmul : (infinite false : Single) * finite false m e = .infinite false := if_neg hm
    rw [hmul]
    exact .infinite
  | finite n f => exact round_unsigned _ _ _

theorem spread_unsigned (hsigma : isWidth sigma = true) : (spread sigma).Unsigned := by
  obtain ⟨m,e,hm,rfl⟩ := eq_finite_of_isWidth hsigma
  exact mul_width_unsigned (mul_width_unsigned (round_unsigned _ _ _) hm) hm

/-- A spread that is not zero, as values are compared. -/
def IsSpread (s : Single) : Prop := s.same (.zero false) = false

instance : DecidablePred IsSpread := fun s =>
  inferInstanceAs (Decidable (s.same (.zero false) = false))

theorem isSpread_finite_iff : IsSpread (.finite false m e) ↔ m ≠ 0 := by
  have hnotneg : (finite false m e : Single).less (.zero false) = false := by
    rw [← Bool.not_eq_true, less_iff rfl rfl, toRat_zero, not_lt]
    exact toRat_nonneg m e
  have hpos : (zero false : Single).less (.finite false m e) = true ↔ m ≠ 0 := by
    rw [less_iff rfl rfl, toRat_zero, toRat_finite, if_neg Bool.false_ne_true,
      mul_pos_iff_of_pos_right (Format.two_zpow_pos e), Nat.cast_pos, Nat.pos_iff_ne_zero]
  have hsame : (finite false m e : Single).same (.zero false) =
      (!(finite false m e : Single).less (.zero false) &&
        !(zero false : Single).less (.finite false m e)) := rfl
  rw [IsSpread, hsame, hnotneg, ← hpos]
  simp

/-! ## Gaussians -/

/-- The exponent of a Gaussian, whose spread is a number other than zero. -/
theorem exponent_isNegative (hs : s.Unsigned) (hspread : IsSpread s) (n : Nat) (f : Int) :
    (-(finite false n f : Single) / s).isNegative = true := by
  cases hs with
  | infinite => rfl
  | finite m e =>
    have hdiv : -(finite false n f : Single) / finite false m e =
        Format.single.round true n m (f - e) := if_neg (isSpread_finite_iff.mp hspread)
    rw [hdiv]
    rcases Format.round_cases .single true n m (f - e) with h | ⟨k,u,h⟩ <;> rw [h] <;> rfl

theorem gaussian_within (hs : s.Unsigned) (hspread : IsSpread s) (n : Nat) (f : Int) :
    (gaussian (.finite false n f) s).Within 4 := exp_of_isNegative (exponent_isNegative hs hspread n f)

/-- One as a value. -/
def unit : Single := .finite false (2 ^ 23) (-23)

theorem toRat_unit : unit.toRat = 1 := by
  rw [unit, toRat_finite]
  norm_num

theorem gaussian_zero (hs : s.Unsigned) (hspread : IsSpread s) : gaussian (.zero false) s = unit := by
  cases hs with
  | infinite => exact exp_zero true
  | finite m e =>
    have hdiv : -(zero false : Single) / finite false m e =
        Format.single.round true 0 m (Format.single.least - e) :=
      if_neg (isSpread_finite_iff.mp hspread)
    rw [gaussian, hdiv, Format.round_zero]
    exact exp_zero true

theorem gaussian_infinite (n : Nat) (f : Int) : gaussian (.finite false n f) (.infinite false) = unit :=
  exp_zero true

theorem gaussian_zero_of_not_isSpread (hs : s.Unsigned) (hspread : ¬IsSpread s) :
    gaussian (.zero false) s = .nan := by
  cases hs with
  | infinite => exact absurd rfl hspread
  | finite m e =>
    obtain rfl := not_not.mp (mt isSpread_finite_iff.mpr hspread)
    rfl

/-! ## Squared differences -/

theorem toNat_le_two_zpow (d : UInt16) : (d.toNat : ℚ) ≤ 2 ^ (16 : ℤ) := by
  exact_mod_cast d.toNat_lt.le

theorem sample_rounds (d : UInt16) : (sample d).Rounds d.toNat :=
  ofNat_rounds ((toNat_le_two_zpow d).trans (Format.two_zpow_le_bound (by decide)))

/-- A sample is small enough to be read without a rounding. -/
theorem toRat_sample (d : UInt16) : (sample d).toRat = d.toNat := by
  refine (sample_rounds d).nearest.eq_of_holds (Format.holds_intCast (n := d.toNat) ?_ (by decide))
  rw [abs_of_nonneg (Int.natCast_nonneg _)]
  exact_mod_cast d.toNat_lt.le.trans (by decide)

theorem sample_within (d : UInt16) : (sample d).Within (2 ^ (16 : ℤ)) :=
  (sample_rounds d).within d.toNat.cast_nonneg (Format.holds_two_zpow (by decide)) (toNat_le_two_zpow d)

/-- The squared difference of two samples is a finite value without a sign. -/
theorem square_eq_finite (d c : UInt16) :
    ∃ n f, (sample d - sample c) * (sample d - sample c) = .finite false n f := by
  have hd := sample_within d
  have hc := sample_within c
  have hdifference : |(sample d).toRat - (sample c).toRat| ≤ 2 ^ (16 : ℤ) :=
    abs_sub_le_of_nonneg_of_le hd.nonneg hd.le hc.nonneg hc.le
  have hrounds := sub_rounds hd.finite hc.finite
    (hdifference.trans (Format.two_zpow_le_bound (by decide)))
  have hbounded := hrounds.bounded (Format.holds_two_zpow (by decide)) hdifference
  have hpower : (2 : ℚ) ^ (16 : ℤ) * 2 ^ (16 : ℤ) = 2 ^ (32 : ℤ) := (Format.two_zpow_add 16 16).symm
  have hsquare := (hbounded.mul hbounded (hpower ▸ Format.holds_two_zpow (by decide))
    (hpower ▸ Format.two_zpow_le_bound (by decide))).finite
  exact (mul_self_unsigned hbounded.finite).eq_finite hsquare

/-- The squared length of an offset in the window is one as well. -/
theorem offset_eq_finite {o : Int × Int} (ho : o ∈ p.offsets) :
    ∃ n f, (ofInt (o.1 * o.1 + o.2 * o.2) : Single) = .finite false n f := by
  have hbounds := mem_offsets.mp ho
  have hradius : (p.radius : Int) ≤ 2 ^ 63 := by
    have hwindow := p.window.toNat_lt
    rw [radius]
    omega
  have hsquare : ∀ {k : Int}, -p.radius ≤ k → k ≤ p.radius → k * k ≤ 2 ^ 126 := by
    intro k hlow hhigh
    have hk : |k| ≤ 2 ^ 63 := (abs_le.mpr ⟨hlow,hhigh⟩).trans hradius
    calc k * k = |k| * |k| := (abs_mul_abs_self k).symm
      _ ≤ 2 ^ 63 * 2 ^ 63 := mul_le_mul hk hk (abs_nonneg k) (by norm_num)
      _ = 2 ^ 126 := by norm_num
  have hsum : o.1 * o.1 + o.2 * o.2 ≤ 2 ^ 127 := by
    have hcolumn := hsquare hbounds.1.1 hbounds.1.2
    have hrow := hsquare hbounds.2.1 hbounds.2.2
    omega
  have hnonneg : 0 ≤ o.1 * o.1 + o.2 * o.2 := add_nonneg (mul_self_nonneg _) (mul_self_nonneg _)
  have hrange : |((o.1 * o.1 + o.2 * o.2 : Int) : ℚ)| ≤ Format.single.bound := by
    rw [abs_of_nonneg (by exact_mod_cast hnonneg)]
    have hpower : (2 : ℚ) ^ (127 : ℤ) ≤ Format.single.bound := Format.two_zpow_le_bound (by decide)
    refine le_trans ?_ hpower
    exact_mod_cast hsum
  exact (ofInt_unsigned hnonneg).eq_finite (ofInt_rounds hrange).finite

/-! ## Weights -/

/-- Neither Gaussian divides by zero. -/
structure HasSpread (p : Bilateral) : Prop where
  spatial : IsSpread (spread p.sigmaSpatial)
  range : IsSpread (spread p.sigmaRange)

instance (p : Bilateral) : Decidable p.HasSpread :=
  decidable_of_iff (IsSpread (spread p.sigmaSpatial) ∧ IsSpread (spread p.sigmaRange))
    ⟨fun h => ⟨h.1,h.2⟩,fun h => ⟨h.1,h.2⟩⟩

theorem widths_of_isValid (hvalid : p.isValid = true) :
    isWidth p.sigmaSpatial = true ∧ isWidth p.sigmaRange = true := by
  simp only [isValid, Bool.and_eq_true] at hvalid
  exact ⟨hvalid.1.2,hvalid.2⟩

theorem weight_within (hvalid : p.isValid = true) (hspread : p.HasSpread) {o : Int × Int}
    (ho : o ∈ p.offsets) (centre d : UInt16) : (p.weight centre (o, d)).Within 16 := by
  obtain ⟨hspatial,hrange⟩ := widths_of_isValid hvalid
  obtain ⟨n,f,hoffset⟩ := offset_eq_finite ho
  obtain ⟨k,g,hsquare⟩ := square_eq_finite d centre
  have hplace := gaussian_within (spread_unsigned hspatial) hspread.spatial n f
  have hdistance := gaussian_within (spread_unsigned hrange) hspread.range k g
  rw [← hoffset] at hplace
  rw [← hsquare] at hdistance
  have hbound : (16 : ℚ) ≤ Format.single.bound := by
    have hpower : (2 : ℚ) ^ (4 : ℤ) ≤ Format.single.bound := Format.two_zpow_le_bound (by decide)
    linarith
  exact (hplace.mul hdistance (by norm_num) ⟨16,0,by decide,by decide,by norm_num⟩ hbound).2

theorem unit_mul_unit : unit * unit = unit := by decide +kernel

/-- A neighbour at the distance of the centre is weighed by its place alone. -/
theorem weight_same_distance (p : Bilateral) (o : Int × Int) (centre : UInt16) :
    p.weight centre (o, centre) =
      gaussian (.ofInt (o.1 * o.1 + o.2 * o.2)) (spread p.sigmaSpatial) *
        gaussian (.zero false) (spread p.sigmaRange) := by
  rw [weight, sub_self_eq (sample_rounds centre).finite]
  rfl

theorem weight_centre (hvalid : p.isValid = true) (hspread : p.HasSpread) (centre : UInt16) :
    p.weight centre ((0, 0), centre) = unit := by
  obtain ⟨hspatial,hrange⟩ := widths_of_isValid hvalid
  have hzero : (ofInt (0 * 0 + 0 * 0) : Single) = .zero false := rfl
  rw [weight_same_distance, hzero, gaussian_zero (spread_unsigned hspatial) hspread.spatial,
    gaussian_zero (spread_unsigned hrange) hspread.range, unit_mul_unit]

theorem weight_centre_of_no_spread (hvalid : p.isValid = true) (hspread : ¬p.HasSpread)
    (centre : UInt16) : p.weight centre ((0, 0), centre) = .nan := by
  obtain ⟨hspatial,hrange⟩ := widths_of_isValid hvalid
  have hzero : (ofInt (0 * 0 + 0 * 0) : Single) = .zero false := rfl
  rw [weight_same_distance, hzero]
  by_cases hplace : IsSpread (spread p.sigmaSpatial)
  · have hdistance : ¬IsSpread (spread p.sigmaRange) := fun h => hspread ⟨hplace,h⟩
    rw [gaussian_zero_of_not_isSpread (spread_unsigned hrange) hdistance, mul_nan]
  · rw [gaussian_zero_of_not_isSpread (spread_unsigned hspatial) hplace, nan_mul]

/-- Where the spread in space is infinite, the place of a neighbour takes nothing off its weight. -/
theorem weight_of_infinite_spread (hvalid : p.isValid = true) (hspread : p.HasSpread)
    (hinfinite : spread p.sigmaSpatial = .infinite false) {o : Int × Int} (ho : o ∈ p.offsets)
    (centre : UInt16) : p.weight centre (o, centre) = unit := by
  obtain ⟨-,hrange⟩ := widths_of_isValid hvalid
  obtain ⟨n,f,hoffset⟩ := offset_eq_finite ho
  rw [weight_same_distance, hoffset, hinfinite, gaussian_infinite,
    gaussian_zero (spread_unsigned hrange) hspread.range, unit_mul_unit]

end Bilateral
end SensorRelay
