import Mathlib.Algebra.Field.ZMod
import Mathlib.Algebra.Polynomial.Degree.Lemmas
import SensorRelay.Checksum

/-! # Bits and words as polynomials

A string of bits is read as a polynomial over the field of two elements, the first bit being the
coefficient of the highest power. A word is read with bit `i` as the coefficient of `X ^ i`. In either
reading exclusive or is addition, and what follows in a string moves what stands before it to higher
powers.
-/
namespace SensorRelay.Checksum
open Polynomial

/-- The bits of a byte, the lowest first. -/
def bitsLowFirst (byte : UInt8) : List Bool :=
  [0, 1, 2, 3, 4, 5, 6, 7].map fun i => byte >>> i &&& 1 == 1

def coefficient (bit : Bool) : ZMod 2 := if bit then 1 else 0

/-- The polynomial of a string of bits, the highest power first. -/
noncomputable def bitsPolynomial : List Bool → (ZMod 2)[X]
  | [] => 0
  | bit :: bits => C (coefficient bit) * X ^ bits.length + bitsPolynomial bits

/-- The polynomial of a word: bit `i` is the coefficient of `X ^ i`. -/
noncomputable def wordPolynomial {w : Nat} (word : BitVec w) : (ZMod 2)[X] :=
  ∑ i ∈ Finset.range w, C (coefficient (word.getLsbD i)) * X ^ i

variable {w : Nat} {before after : List Bool}

/-! ## Coefficients -/

@[simp] theorem coefficient_false : coefficient false = 0 := rfl

@[simp] theorem coefficient_true : coefficient true = 1 := rfl

theorem coefficient_xor (a b : Bool) : coefficient (a ^^ b) = coefficient a + coefficient b := by
  cases a <;> cases b <;> decide

theorem coefficient_injective : Function.Injective coefficient := by decide

/-! ## Words -/

@[simp] theorem coeff_wordPolynomial (word : BitVec w) (i : Nat) :
    (wordPolynomial word).coeff i = coefficient (word.getLsbD i) := by
  rw [wordPolynomial, finsetSum_coeff]
  simp only [coeff_C_mul_X_pow, Finset.sum_ite_eq, Finset.mem_range]
  split
  · rfl
  · next hge => rw [BitVec.getLsbD_of_ge _ _ (Nat.le_of_not_lt hge), coefficient_false]

theorem wordPolynomial_injective : Function.Injective (wordPolynomial (w := w)) := by
  intro u v h
  refine BitVec.eq_of_getLsbD_eq fun i _ => coefficient_injective ?_
  rw [← coeff_wordPolynomial, h, coeff_wordPolynomial]

theorem degree_wordPolynomial_lt (word : BitVec w) : (wordPolynomial word).degree < w := by
  rw [degree_lt_iff_coeff_zero]
  intro i hi
  rw [coeff_wordPolynomial, BitVec.getLsbD_of_ge _ _ hi, coefficient_false]

@[simp] theorem wordPolynomial_zero : wordPolynomial 0#w = 0 := by
  ext i
  simp

theorem wordPolynomial_xor (u v : BitVec w) :
    wordPolynomial (u ^^^ v) = wordPolynomial u + wordPolynomial v := by
  ext i
  rw [coeff_add, coeff_wordPolynomial, coeff_wordPolynomial, coeff_wordPolynomial,
    BitVec.getLsbD_xor, coefficient_xor]

/-- A shift multiplies by `X`, less the highest bit that falls out. -/
theorem wordPolynomial_mul_X (word : BitVec w) :
    wordPolynomial word * X = wordPolynomial (word <<< 1) + C (coefficient word.msb) * X ^ w := by
  ext i
  rw [coeff_add, coeff_wordPolynomial, coeff_C_mul_X_pow, BitVec.getLsbD_shiftLeft,
    BitVec.msb_eq_getLsbD_last]
  cases i with
  | zero =>
    rw [coeff_mul_X_zero]
    cases w with
    | zero => simp
    | succ w => simp
  | succ i =>
    rw [coeff_mul_X, coeff_wordPolynomial]
    rcases Nat.lt_trichotomy (i + 1) w with hlt | rfl | hgt
    · simp [hlt, hlt.ne]
    · simp
    · rw [BitVec.getLsbD_of_ge word _ (by omega)]
      simp [hgt.ne', show ¬ i + 1 < w by omega]

theorem wordPolynomial_setWidth_shiftLeft {k n : Nat} (v : BitVec k) (h : k + n ≤ w) :
    wordPolynomial (v.setWidth w <<< n) = wordPolynomial v * X ^ n := by
  ext i
  rw [coeff_mul_X_pow', coeff_wordPolynomial, coeff_wordPolynomial, BitVec.getLsbD_shiftLeft,
    BitVec.getLsbD_setWidth]
  by_cases hk : n + k ≤ i
  · rw [BitVec.getLsbD_of_ge v _ (by omega)]
    simp
  · by_cases hn : i < n
    · simp [hn, Nat.not_le.mpr hn]
    · simp [hn, Nat.le_of_not_lt hn, show i < w by omega, show i - n < w by omega]

theorem wordPolynomial_setWidth_of_lt {k : Nat} {word : BitVec w} (h : word.toNat < 2 ^ k) :
    wordPolynomial (word.setWidth k) = wordPolynomial word := by
  ext i
  rw [coeff_wordPolynomial, coeff_wordPolynomial, BitVec.getLsbD_setWidth]
  by_cases hi : i < k
  · simp [hi]
  · have hlt : word.toNat < 2 ^ i := h.trans_le (Nat.pow_le_pow_right (by decide) (Nat.le_of_not_lt hi))
    rw [BitVec.getLsbD, Nat.testBit_lt_two_pow hlt, Bool.and_false]

/-! ## Reversed words -/

theorem reverse_reverse (word : BitVec w) : word.reverse.reverse = word := by
  refine BitVec.eq_of_getLsbD_eq fun i _ => ?_
  rw [BitVec.getLsbD_reverse, BitVec.getMsbD_reverse]

theorem reverse_xor (u v : BitVec w) : (u ^^^ v).reverse = u.reverse ^^^ v.reverse := by
  ext i hi
  simp [BitVec.getElem_reverse]

theorem reverse_ushiftRight_one (v : BitVec w) : (v >>> 1).reverse = v.reverse <<< 1 := by
  refine BitVec.eq_of_getLsbD_eq fun i hi => ?_
  rw [BitVec.getLsbD_reverse, BitVec.getLsbD_shiftLeft, BitVec.getLsbD_reverse,
    BitVec.getMsbD_ushiftRight]
  simp [hi]

theorem reverse_setWidth {k : Nat} (v : BitVec k) (h : k ≤ w) :
    (v.setWidth w).reverse = v.reverse.setWidth w <<< (w - k) := by
  refine BitVec.eq_of_getLsbD_eq fun i hi => ?_
  rw [BitVec.getLsbD_reverse, BitVec.getMsbD_setWidth, BitVec.getLsbD_shiftLeft,
    BitVec.getLsbD_setWidth, BitVec.getLsbD_reverse]
  by_cases hlow : i < w - k
  · simp [hlow, Nat.not_le.mpr hlow]
  · rw [show i + k - w = i - (w - k) by omega]
    simp [hlow, hi, Nat.le_of_not_lt hlow, Nat.lt_of_le_of_lt (Nat.sub_le i (w - k)) hi]

/-! ## Strings of bits -/

theorem bitsPolynomial_append (before after : List Bool) :
    bitsPolynomial (before ++ after) =
      bitsPolynomial before * X ^ after.length + bitsPolynomial after := by
  induction before with
  | nil => simp [bitsPolynomial]
  | cons bit before ih =>
    rw [List.cons_append, bitsPolynomial, bitsPolynomial, ih, List.length_append, pow_add]
    ring

@[simp] theorem bitsPolynomial_replicate_false (n : Nat) :
    bitsPolynomial (List.replicate n false) = 0 := by
  induction n with
  | zero => rfl
  | succ n ih => rw [List.replicate_succ, bitsPolynomial, ih, coefficient_false, C_0, zero_mul, zero_add]

theorem degree_bitsPolynomial_lt (bits : List Bool) :
    (bitsPolynomial bits).degree < bits.length := by
  induction bits with
  | nil => simp [bitsPolynomial]
  | cons bit bits ih =>
    have hlt : (bits.length : WithBot Nat) < (bit :: bits).length := by
      exact_mod_cast Nat.lt_succ_self bits.length
    rw [bitsPolynomial]
    refine lt_of_le_of_lt (degree_add_le _ _) (max_lt ?_ (ih.trans hlt))
    exact lt_of_le_of_lt (degree_C_mul_X_pow_le _ _) hlt

theorem coeff_bitsPolynomial_length (bits : List Bool) :
    (bitsPolynomial bits).coeff bits.length = 0 :=
  coeff_eq_zero_of_degree_lt (degree_bitsPolynomial_lt bits)

/-- Strings of one length have different polynomials. -/
theorem eq_of_bitsPolynomial_eq (hlength : before.length = after.length)
    (h : bitsPolynomial before = bitsPolynomial after) : before = after := by
  induction before generalizing after with
  | nil => exact (List.eq_nil_of_length_eq_zero hlength.symm).symm
  | cons bit bits ih =>
    cases after with
    | nil => cases hlength
    | cons other others =>
      rw [List.length_cons, List.length_cons, Nat.succ_inj] at hlength
      rw [bitsPolynomial, bitsPolynomial, hlength] at h
      have hcoeff := congrArg (coeff · others.length) h
      simp only [coeff_add, coeff_C_mul_X_pow, if_true, coeff_bitsPolynomial_length, add_zero] at hcoeff
      rw [← hlength, coeff_bitsPolynomial_length, add_zero] at hcoeff
      rw [coefficient_injective hcoeff] at h ⊢
      rw [ih hlength (add_left_cancel h)]

/-- Bits that are listed from the lowest up, in the order of a string. -/
theorem bitsPolynomial_reverse_map_range (f : Nat → Bool) (n : Nat) :
    bitsPolynomial ((List.range n).map f).reverse =
      ∑ i ∈ Finset.range n, C (coefficient (f i)) * X ^ i := by
  induction n with
  | zero => rfl
  | succ n ih =>
    rw [List.range_succ, List.map_append, List.reverse_append, Finset.sum_range_succ, ← ih, add_comm]
    simp [bitsPolynomial]

/-! ## Bytes -/

/-- The places that a list takes up, when each of its entries is written down in `size` of them. -/
theorem length_flatMap_of_length {α β : Type} {f : α → List β} {size : Nat}
    (hf : ∀ a, (f a).length = size) (list : List α) :
    (list.flatMap f).length = size * list.length := by
  simp [List.length_flatMap, hf, Nat.mul_comm]

theorem length_flatMap_eq {α β : Type} {f : α → List β} {size : Nat}
    (hf : ∀ a, (f a).length = size) {list other : List α} (hlength : list.length = other.length) :
    (list.flatMap f).length = (other.flatMap f).length := by
  rw [length_flatMap_of_length hf, length_flatMap_of_length hf, hlength]

theorem and_one_eq_getLsbD (byte : UInt8) : (byte &&& 1 == 1) = byte.toBitVec.getLsbD 0 := by
  rw [Bool.eq_iff_iff, beq_iff_eq, ← UInt8.toBitVec_inj, UInt8.toBitVec_and]
  change byte.toBitVec &&& 1#8 = 1#8 ↔ _
  rw [BitVec.and_one_eq_setWidth_ofBool_getLsbD]
  cases byte.toBitVec.getLsbD 0 <;> decide

theorem bit_eq_getLsbD (byte i : UInt8) :
    (byte >>> i &&& 1 == 1) = byte.toBitVec.getLsbD (i.toNat % 8) := by
  rw [and_one_eq_getLsbD, UInt8.toBitVec_shiftRight]
  simp

theorem bitsHighFirst_eq (byte : UInt8) :
    bitsHighFirst byte = ((List.range 8).map byte.toBitVec.getLsbD).reverse := by
  simp [bitsHighFirst, bit_eq_getLsbD, List.range_succ]

theorem bitsLowFirst_eq (byte : UInt8) :
    bitsLowFirst byte = ((List.range 8).map byte.toBitVec.reverse.getLsbD).reverse := by
  simp [bitsLowFirst, bit_eq_getLsbD, List.range_succ, BitVec.getElem_reverse,
    BitVec.getMsbD_eq_getLsbD]

@[simp] theorem bitsHighFirst_length (byte : UInt8) : (bitsHighFirst byte).length = 8 := rfl

@[simp] theorem bitsLowFirst_length (byte : UInt8) : (bitsLowFirst byte).length = 8 := rfl

theorem bitsPolynomial_highFirst (byte : UInt8) :
    bitsPolynomial (bitsHighFirst byte) = wordPolynomial byte.toBitVec := by
  rw [bitsHighFirst_eq, bitsPolynomial_reverse_map_range, wordPolynomial]

theorem bitsPolynomial_lowFirst (byte : UInt8) :
    bitsPolynomial (bitsLowFirst byte) = wordPolynomial byte.toBitVec.reverse := by
  rw [bitsLowFirst_eq, bitsPolynomial_reverse_map_range, wordPolynomial]

end SensorRelay.Checksum
