import SensorRelay.Proofs.Binary.Nearest

/-! # Rounding gives the nearest number

The integer operations of the rounding are related to the ratio that they stand for: the difference of
two logarithms is one too much at most, the shifts scale the ratio to one step of the grid, and the
integer next to the scaled ratio is a place of the grid that no other number of the format is closer to.
A ratio that is not above half the range of the format does not overflow.
-/
namespace SensorRelay.Binary

/-! ## The integer next to a ratio -/

theorem nearest_cases (n d : ℕ) :
    nearest n d = n / d ∧ 2 * (n % d) ≤ d ∨ nearest n d = n / d + 1 ∧ d ≤ 2 * (n % d) := by
  rw [nearest]
  split
  · omega
  · split
    · omega
    · rcases Nat.mod_two_eq_zero_or_one (n / d) with heven | hodd
      · omega
      · omega

theorem abs_nearest_sub_le (n : ℕ) {d : ℕ} (hd : 0 < d) : |(nearest n d : ℚ) - n / d| ≤ 1 / 2 := by
  have hd' : (0 : ℚ) < d := by exact_mod_cast hd
  have hsplit : (n : ℚ) = d * (n / d : ℕ) + (n % d : ℕ) := by exact_mod_cast (Nat.div_add_mod n d).symm
  have hrest : ((n % d : ℕ) : ℚ) ≤ d := by exact_mod_cast (Nat.mod_lt n hd).le
  have hrest' : (0 : ℚ) ≤ (n % d : ℕ) := Nat.cast_nonneg _
  have hscaled : 2 * |(nearest n d : ℚ) * d - n| ≤ d := by
    rcases nearest_cases n d with ⟨hdown,hle⟩ | ⟨hup,hle⟩
    · have hle' : (2 : ℚ) * (n % d : ℕ) ≤ d := by exact_mod_cast hle
      have hdiff : (nearest n d : ℚ) * d - n = -(n % d : ℕ) := by
        rw [hdown]
        linarith
      rwa [hdiff, abs_neg, abs_of_nonneg hrest']
    · have hle' : (d : ℚ) ≤ 2 * (n % d : ℕ) := by exact_mod_cast hle
      have hdiff : (nearest n d : ℚ) * d - n = d - (n % d : ℕ) := by
        rw [hup]
        push_cast
        linarith
      rw [hdiff, abs_of_nonneg (by linarith)]
      linarith
  rw [← mul_div_cancel_right₀ (nearest n d : ℚ) hd'.ne', ← sub_div, abs_div, abs_of_pos hd',
    div_le_iff₀ hd']
  linarith

theorem abs_sub_le_of_half {a : ℤ} {y : ℚ} (h : |a - y| ≤ 1 / 2) (b : ℤ) : |a - y| ≤ |b - y| := by
  rcases eq_or_ne a b with rfl | hne
  · exact le_rfl
  · have hone : (1 : ℚ) ≤ |(a : ℚ) - b| := by
      exact_mod_cast Int.one_le_abs (sub_ne_zero.mpr hne)
    have htriangle := abs_sub_le (a : ℚ) y b
    rw [abs_sub_comm y] at htriangle
    linarith

theorem shifted_ratio (n d : ℕ) (k : ℤ) :
    ((n <<< k.toNat : ℕ) : ℚ) / (d <<< (-k).toNat : ℕ) = n / d * 2 ^ k := by
  have hsplit : (2 : ℚ) ^ k.toNat = 2 ^ k * 2 ^ (-k).toNat := by
    rw [← zpow_natCast, ← zpow_natCast, ← zpow_add₀ two_ne_zero]
    congr 1
    omega
  rw [Nat.shiftLeft_eq, Nat.shiftLeft_eq]
  push_cast
  rw [hsplit]
  field_simp

theorem two_zpow_log2_le {n : ℕ} (hn : 0 < n) :
    (2 : ℚ) ^ (n.log2 : ℤ) ≤ n ∧ (n : ℚ) < 2 ^ ((n.log2 : ℤ) + 1) := by
  have hle : (2 : ℚ) ^ n.log2 ≤ n := by exact_mod_cast Nat.log2_self_le hn.ne'
  have hlt : (n : ℚ) < 2 ^ (n.log2 + 1) := by exact_mod_cast Nat.lt_log2_self
  rw [zpow_natCast]
  exact ⟨hle,by exact_mod_cast hlt⟩

theorem shift_le_shift_iff {n d : ℕ} (hd : 0 < d) (k : ℤ) :
    d <<< k.toNat ≤ n <<< (-k).toNat ↔ (2 : ℚ) ^ k ≤ n / d := by
  have hratio := shifted_ratio n d (-k)
  rw [neg_neg] at hratio
  have hpos : (0 : ℚ) < (d <<< k.toNat : ℕ) := by
    rw [Nat.shiftLeft_eq]
    positivity
  rw [← Nat.cast_le (α := ℚ), ← one_le_div hpos, hratio, zpow_neg, ← div_eq_mul_inv,
    one_le_div (zpow_pos two_pos k)]

/-- The quotient of two logarithms is that of the ratio or one too much. -/
theorem ratioLog_spec {n d : ℕ} (hn : 0 < n) (hd : 0 < d) :
    (2 : ℚ) ^ ratioLog n d ≤ n / d ∧ (n : ℚ) / d < 2 ^ (ratioLog n d + 1) := by
  have hd' : (0 : ℚ) < d := by exact_mod_cast hd
  obtain ⟨hn₁,hn₂⟩ := two_zpow_log2_le hn
  obtain ⟨hd₁,hd₂⟩ := two_zpow_log2_le hd
  have hlow : (2 : ℚ) ^ ((n.log2 : ℤ) - d.log2 - 1) ≤ n / d := by
    rw [le_div_iff₀ hd']
    calc (2 : ℚ) ^ ((n.log2 : ℤ) - d.log2 - 1) * d
        ≤ 2 ^ ((n.log2 : ℤ) - d.log2 - 1) * 2 ^ ((d.log2 : ℤ) + 1) :=
          mul_le_mul_of_nonneg_left hd₂.le (zpow_pos two_pos _).le
      _ = 2 ^ (n.log2 : ℤ) := by
          rw [← zpow_add₀ two_ne_zero]
          congr 1
          omega
      _ ≤ n := hn₁
  have hhigh : (n : ℚ) / d < 2 ^ ((n.log2 : ℤ) - d.log2 + 1) := by
    rw [div_lt_iff₀ hd']
    calc (n : ℚ) < 2 ^ ((n.log2 : ℤ) + 1) := hn₂
      _ = 2 ^ ((n.log2 : ℤ) - d.log2 + 1) * 2 ^ (d.log2 : ℤ) := by
          rw [← zpow_add₀ two_ne_zero]
          congr 1
          omega
      _ ≤ 2 ^ ((n.log2 : ℤ) - d.log2 + 1) * d :=
          mul_le_mul_of_nonneg_left hd₁ (zpow_pos two_pos _).le
  rw [ratioLog]
  split
  · rename_i hle
    exact ⟨(shift_le_shift_iff hd _).mp hle,hhigh⟩
  · rename_i hlt
    rw [shift_le_shift_iff hd, not_le] at hlt
    rw [sub_add_cancel]
    exact ⟨hlow,hlt⟩

/-! ## The place on the grid -/

namespace Format
variable {F : Format} {x : ℚ}

/-- The step of the grid for a number with the logarithm `l`, and the place next to the number. -/
theorem nearest_of_place [F.Proper] {l : ℤ} (hlow : 2 ^ l ≤ x) (hhigh : x < 2 ^ (l + 1)) {m : ℕ}
    (hm : |(m : ℚ) - x / 2 ^ max F.least (l + 1 - F.precision)| ≤ 1 / 2) :
    m ≤ 2 ^ F.precision ∧ F.Nearest x (m * 2 ^ max F.least (l + 1 - F.precision)) := by
  generalize hu : max F.least (l + 1 - F.precision) = u at hm ⊢
  have hpow := two_zpow_pos u
  have hscale : ∀ y : ℚ, |y - x / 2 ^ u| * 2 ^ u = |y * 2 ^ u - x| := by
    intro y
    rw [← abs_two_zpow u, ← abs_mul, sub_mul, abs_two_zpow, div_mul_cancel₀ _ hpow.ne']
  have hclosest : ∀ b : ℤ, |m * 2 ^ u - x| ≤ |b * 2 ^ u - x| := by
    intro b
    rw [← hscale, ← hscale]
    exact mul_le_mul_of_nonneg_right (abs_sub_le_of_half (a := m) (by exact_mod_cast hm) b) hpow.le
  have hplaces : m ≤ 2 ^ F.precision := by
    have hquot : x / 2 ^ u < 2 ^ F.precision := by
      rw [div_lt_iff₀ hpow, ← zpow_natCast, ← two_zpow_add]
      exact hhigh.trans_le (two_zpow_le (by omega))
    have hlt : (m : ℚ) < 2 ^ F.precision + 1 := by
      have hupper := (abs_le.mp hm).2
      linarith
    have hlt' : m < 2 ^ F.precision + 1 := by exact_mod_cast hlt
    exact Nat.lt_succ_iff.mp hlt'
  refine ⟨hplaces,⟨m,u,?_,?_,by push_cast; rfl⟩,?_⟩
  · rw [abs_of_nonneg (Int.natCast_nonneg m)]
    exact_mod_cast hplaces
  · exact hu ▸ le_max_left _ _
  · rintro w ⟨n,e,hn,he,rfl⟩
    rcases le_or_gt u e with hcoarse | hfine
    · obtain ⟨b,hb⟩ := exists_multiple n hcoarse
      rw [hb]
      exact hclosest b
    · -- A finer number is not above `2 ^ l`, which is on the grid and not above `x`.
      have hfull : u ≤ l := by
        have hpos := Proper.precision_pos (F := F)
        omega
      obtain ⟨b,hb⟩ := exists_multiple 1 hfull
      rw [Int.cast_one, one_mul] at hb
      have hle : (n : ℚ) * 2 ^ e ≤ 2 ^ l := by
        calc (n : ℚ) * 2 ^ e ≤ 2 ^ F.precision * 2 ^ e := by
              refine mul_le_mul_of_nonneg_right ?_ (two_zpow_pos e).le
              exact_mod_cast (le_abs_self n).trans hn
          _ = 2 ^ (F.precision + e) := by rw [two_zpow_add, zpow_natCast]
          _ ≤ 2 ^ l := two_zpow_le (by omega)
      calc |m * 2 ^ u - x| ≤ |b * 2 ^ u - x| := hclosest b
        _ = x - 2 ^ l := by rw [← hb, abs_sub_comm, abs_of_nonneg (sub_nonneg.mpr hlow)]
        _ ≤ x - n * 2 ^ e := sub_le_sub_left hle x
        _ = |n * 2 ^ e - x| := by
            rw [abs_sub_comm, abs_of_nonneg (sub_nonneg.mpr (hle.trans hlow))]

/-! ## Rounding -/

/-- Half of the range of the format, up to which nothing overflows. -/
def bound (F : Format) : ℚ := 2 ^ (F.greatest + F.precision - 1)

/-- The significand of a rounded quotient, before a carry out of the highest place. -/
def place (F : Format) (n d : ℕ) (e : ℤ) : ℕ :=
  nearest (n <<< (e - F.unit n d e).toNat) (d <<< (F.unit n d e - e).toNat)

variable {negative : Bool} {n d : ℕ} {e : ℤ}

theorem round_zero (F : Format) (negative : Bool) (d : ℕ) (e : ℤ) :
    F.round negative 0 d e = .finite negative 0 F.least := if_pos rfl

theorem round_cases (F : Format) (negative : Bool) (n d : ℕ) (e : ℤ) :
    F.round negative n d e = .infinite negative ∨
      ∃ m u, F.round negative n d e = .finite negative m u := by
  rw [round]
  split
  · exact .inr ⟨_,_,rfl⟩
  · exact (ite_eq_or_eq _ _ _).imp_right fun h => ⟨_,_,h⟩

theorem round_of_fits (hn : n ≠ 0) (hplace : F.place n d e ≠ 2 ^ F.precision)
    (hunit : F.unit n d e ≤ F.greatest) :
    F.round negative n d e = .finite negative (F.place n d e) (F.unit n d e) := by
  have hplace' : nearest (n <<< (e - F.unit n d e).toNat) (d <<< (F.unit n d e - e).toNat) ≠
      1 <<< F.precision := by rwa [Nat.one_shiftLeft]
  simp only [round, if_neg hn, if_neg hplace', if_neg (not_lt.mpr hunit), place]

theorem round_of_carried (hn : n ≠ 0) (hplace : F.place n d e = 2 ^ F.precision)
    (hunit : F.unit n d e < F.greatest) :
    F.round negative n d e = .finite negative (F.place n d e / 2) (F.unit n d e + 1) := by
  have hplace' : nearest (n <<< (e - F.unit n d e).toNat) (d <<< (F.unit n d e - e).toNat) =
      1 <<< F.precision := by rwa [Nat.one_shiftLeft]
  have hfits : ¬F.greatest < F.unit n d e + 1 := by omega
  simp only [round, if_neg hn, if_pos hplace', if_neg hfits, place]

theorem place_nearest [F.Proper] (hn : 0 < n) (hd : 0 < d) (e : ℤ) :
    F.place n d e ≤ 2 ^ F.precision ∧
      F.Nearest ((n : ℚ) / d * 2 ^ e) (F.place n d e * 2 ^ F.unit n d e) := by
  obtain ⟨hlow,hhigh⟩ := ratioLog_spec hn hd
  have hlow' : 2 ^ (ratioLog n d + e) ≤ (n : ℚ) / d * 2 ^ e := by
    rw [two_zpow_add]
    exact mul_le_mul_of_nonneg_right hlow (two_zpow_pos e).le
  have hhigh' : (n : ℚ) / d * 2 ^ e < 2 ^ (ratioLog n d + e + 1) := by
    rw [add_right_comm, two_zpow_add]
    exact mul_lt_mul_of_pos_right hhigh (two_zpow_pos e)
  refine nearest_of_place hlow' hhigh' ?_
  have hshifted := shifted_ratio n d (e - F.unit n d e)
  rw [neg_sub, sub_eq_add_neg, two_zpow_add, ← sub_eq_add_neg, zpow_neg, ← mul_assoc,
    ← div_eq_mul_inv] at hshifted
  change |(F.place n d e : ℚ) - (n : ℚ) / d * 2 ^ e / 2 ^ F.unit n d e| ≤ 1 / 2
  rw [← hshifted]
  refine abs_nearest_sub_le _ ?_
  rw [Nat.shiftLeft_eq]
  positivity

theorem two_zpow_le_bound {k : ℤ} (h : k ≤ F.greatest + F.precision - 1) : (2 : ℚ) ^ k ≤ F.bound :=
  two_zpow_le h

/-- A number that is not above the bound does not overflow, and is rounded to the nearest. -/
theorem round_nearest [F.Proper] (negative : Bool) (n : ℕ) (hd : 0 < d) (e : ℤ)
    (hrange : (n : ℚ) / d * 2 ^ e ≤ F.bound) :
    ∃ m u, F.round negative n d e = .finite negative m u ∧
      F.Nearest ((n : ℚ) / d * 2 ^ e) (m * 2 ^ u) := by
  rcases Nat.eq_zero_or_pos n with rfl | hn
  · refine ⟨0,F.least,round_zero F negative d e,?_⟩
    rw [Nat.cast_zero, zero_div, zero_mul, zero_mul]
    exact ⟨holds_zero,fun w _ => by simp⟩
  · obtain ⟨-,hnearest⟩ := place_nearest (F := F) hn hd e
    have hpositive := Proper.precision_pos (F := F)
    have hproper := Proper.least_le_greatest (F := F)
    -- Half of the range is on the grid, so that rounding does not pass it.
    have hholds : F.Holds F.bound := holds_two_zpow (by omega)
    have hbelow := hnearest.le hholds hrange
    by_cases hcarried : F.place n d e = 2 ^ F.precision
    · have hpower : ((F.place n d e : ℕ) : ℚ) = 2 ^ (F.precision : ℤ) := by
        rw [hcarried, zpow_natCast, Nat.cast_pow, Nat.cast_ofNat]
      have hunit : F.unit n d e < F.greatest := by
        rw [hpower, ← two_zpow_add, bound] at hbelow
        have hle := (zpow_le_zpow_iff_right₀ (one_lt_two (α := ℚ))).mp hbelow
        omega
      refine ⟨_,_,round_of_carried hn.ne' hcarried hunit,?_⟩
      have heven : (2 : ℚ) * (F.place n d e / 2 : ℕ) = F.place n d e := by
        have hdvd : 2 ∣ F.place n d e := hcarried ▸ dvd_pow_self 2 hpositive.ne'
        exact_mod_cast Nat.mul_div_cancel' hdvd
      have hsame : ((F.place n d e / 2 : ℕ) : ℚ) * 2 ^ (F.unit n d e + 1) =
          F.place n d e * 2 ^ F.unit n d e := by
        rw [two_zpow_add, zpow_one, ← heven]
        ring
      rw [hsame]
      exact hnearest
    · refine ⟨_,_,round_of_fits hn.ne' hcarried ?_,hnearest⟩
      -- The leading bit has the first place unless the unit is the least one.
      rw [unit, max_le_iff]
      refine ⟨hproper,?_⟩
      have hlog : (2 : ℚ) ^ (ratioLog n d + e) ≤ 2 ^ (F.greatest + F.precision - 1) := by
        rw [two_zpow_add]
        exact (mul_le_mul_of_nonneg_right (ratioLog_spec hn hd).1 (two_zpow_pos e).le).trans hrange
      have hle := (zpow_le_zpow_iff_right₀ (one_lt_two (α := ℚ))).mp hlog
      omega

end Format
end SensorRelay.Binary
