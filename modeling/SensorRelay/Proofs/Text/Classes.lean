import Mathlib.Tactic.Common
import SensorRelay.Text.Blank
import SensorRelay.Text.Digit
import SensorRelay.Text.Word

/-! # Relations between the character classes -/
namespace SensorRelay.Text

/-- The characters with a given lower case, for a letter that is one. -/
theorem toLower_eq_iff {c lower upper : Char} (hlower : ¬ ('A'.val ≤ lower.val ∧ lower.val ≤ 'Z'.val))
    (hupper : 'A'.val ≤ upper.val ∧ upper.val ≤ 'Z'.val) (h : upper.val + 32 = lower.val) :
    c.toLower = lower ↔ c = lower ∨ c = upper := by
  have hkeeps : lower.toLower = lower := dif_neg hlower
  have hmoves : upper.toLower = lower := (dif_pos hupper).trans (Char.ext h)
  constructor
  · intro hc
    by_cases hcase : 'A'.val ≤ c.val ∧ c.val ≤ 'Z'.val
    · have hmoved : c.toLower.val = c.val + 32 := congrArg Char.val (dif_pos hcase)
      have hval : c.val + 32 = upper.val + 32 := by rw [h, ← hc, hmoved]
      exact .inr (Char.ext ((UInt32.add_left_inj 32).mp hval))
    · have hsame : c.toLower = c := dif_neg hcase
      exact .inl (hsame.symm.trans hc)
  · rintro (rfl | rfl)
    · exact hkeeps
    · exact hmoves

theorem toLower_eq_t_iff {c : Char} : c.toLower = 't' ↔ c = 't' ∨ c = 'T' :=
  toLower_eq_iff (by decide) (by decide) (by decide)

theorem toLower_eq_l_iff {c : Char} : c.toLower = 'l' ↔ c = 'l' ∨ c = 'L' :=
  toLower_eq_iff (by decide) (by decide) (by decide)

theorem Ranges.has_eq_false {ranges : Ranges} {lo hi n : Nat} (h : ∀ r ∈ ranges, r.2 < lo ∨ hi < r.1)
    (hlo : lo ≤ n) (hhi : n ≤ hi) : ranges.has n = false := by
  rw [Ranges.has, List.any_eq_false]
  intro r hr hin
  rw [Bool.and_eq_true, decide_eq_true_eq, decide_eq_true_eq] at hin
  rcases h r hr with hbelow | habove
  · omega
  · omega

/-- The bands of code points with blanks. -/
theorem toNat_of_isBlank {c : Char} (h : isBlank c = true) :
    c.toNat ≤ 0x20 ∨ (0x85 ≤ c.toNat ∧ c.toNat ≤ 0xa0) ∨ (0x1680 ≤ c.toNat ∧ c.toNat ≤ 0x1680) ∨
      (0x2000 ≤ c.toNat ∧ c.toNat ≤ 0x3000) := by
  simp only [isBlank, Bool.or_eq_true, Bool.and_eq_true, decide_eq_true_eq, beq_iff_eq] at h
  omega

theorem isDigit_ascii (c : Char) : c.isDigit = decide (48 ≤ c.toNat ∧ c.toNat ≤ 57) := by
  simp only [Char.isDigit, ge_iff_le, UInt32.le_iff_toNat_le, Bool.decide_and]
  rfl

theorem isDigit_eq_false_of_isBlank {c : Char} (h : isBlank c = true) : isDigit c = false := by
  have hbands := toNat_of_isBlank h
  have hascii : c.isDigit = false := by
    rw [isDigit_ascii, decide_eq_false_iff_not]
    omega
  rw [isDigit, hascii, Bool.false_or, Bool.and_eq_false_imp]
  intro hge
  have hlarge : 128 ≤ c.toNat := of_decide_eq_true hge
  rcases hbands with hsmall | ⟨hlo,hhi⟩ | ⟨hlo,hhi⟩ | ⟨hlo,hhi⟩
  · omega
  · exact Ranges.has_eq_false (by decide) hlo hhi
  · exact Ranges.has_eq_false (by decide) hlo hhi
  · exact Ranges.has_eq_false (by decide) hlo hhi

theorem ne_newline_of_isDigit {c : Char} (h : isDigit c = true) : c ≠ '\n' := by
  rintro rfl
  cases h

end SensorRelay.Text
