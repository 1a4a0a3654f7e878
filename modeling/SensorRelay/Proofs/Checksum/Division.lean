import Mathlib.Algebra.CharP.Two
import Mathlib.RingTheory.AdjoinRoot
import Mathlib.Tactic.LinearCombination
import SensorRelay.Proofs.Checksum.Polynomial
import SensorRelay.Proofs.Telemetry.Layout

/-! # The registers divide

A register of division holds the remainder of what it was fed. Each of the three checks is such a
register in disguise: one of seven bits in a byte, one that takes the bits of a byte ahead of time,
and one that runs in reversed order. So each check is the remainder of its message, followed by as
many zeros as the register has bits.
-/
namespace SensorRelay.Checksum
open Polynomial

variable {w : Nat} {low register word : BitVec w} {bits : List Bool}

/-- The monic polynomial of degree `w` with the given lower terms. -/
noncomputable def modulus (low : BitVec w) : (ZMod 2)[X] := X ^ w + wordPolynomial low

/-- Feeds a bit to the register of a division by `modulus low`. -/
def divide (low register : BitVec w) (bit : Bool) : BitVec w :=
  if bit ^^ register.msb then register <<< 1 ^^^ low else register <<< 1

/-! ## Division by a modulus -/

theorem modulus_monic (low : BitVec w) : (modulus low).Monic :=
  monic_X_pow_add (degree_wordPolynomial_lt low)

theorem degree_modulus (low : BitVec w) : (modulus low).degree = w := by
  have hlt : (wordPolynomial low).degree < (X ^ w : (ZMod 2)[X]).degree := by
    rw [degree_X_pow]
    exact degree_wordPolynomial_lt low
  rw [modulus, degree_add_eq_left_of_degree_lt hlt, degree_X_pow]

/-- One step of division: the quotient gains the bit that decides on the subtraction. -/
theorem wordPolynomial_divide (low register : BitVec w) (bit : Bool) :
    wordPolynomial (divide low register bit) + C (coefficient (bit ^^ register.msb)) * modulus low =
      wordPolynomial register * X + C (coefficient bit) * X ^ w := by
  have hsub : wordPolynomial (divide low register bit) =
      wordPolynomial (register <<< 1) + C (coefficient (bit ^^ register.msb)) * wordPolynomial low := by
    rw [divide]
    cases bit ^^ register.msb with
    | false => rw [if_neg Bool.false_ne_true, coefficient_false, C_0, zero_mul, add_zero]
    | true => rw [if_pos rfl, wordPolynomial_xor, coefficient_true, C_1, one_mul]
  have htwice : wordPolynomial low + wordPolynomial low = 0 := CharTwo.add_self_eq_zero _
  rw [hsub, wordPolynomial_mul_X, modulus, coefficient_xor, C_add]
  linear_combination (C (coefficient bit) + C (coefficient register.msb)) * htwice

/-- A run of division: the register stays congruent to what has been fed to it. -/
theorem mk_foldl_divide (low register : BitVec w) (bits : List Bool) :
    AdjoinRoot.mk (modulus low) (wordPolynomial (bits.foldl (divide low) register)) =
      AdjoinRoot.mk (modulus low)
        (wordPolynomial register * X ^ bits.length + bitsPolynomial bits * X ^ w) := by
  induction bits generalizing register with
  | nil => simp [bitsPolynomial]
  | cons bit bits ih =>
    have hstep := congrArg (AdjoinRoot.mk (modulus low)) (wordPolynomial_divide low register bit)
    rw [map_add, map_mul, AdjoinRoot.mk_self, mul_zero, add_zero] at hstep
    have hfed : (wordPolynomial register * X + C (coefficient bit) * X ^ w) * X ^ bits.length +
        bitsPolynomial bits * X ^ w =
          wordPolynomial register * X ^ (bit :: bits).length + bitsPolynomial (bit :: bits) * X ^ w := by
      rw [List.length_cons, bitsPolynomial]
      ring
    rw [List.foldl_cons, ih, map_add, map_mul, hstep, ← map_mul, ← map_add, hfed]

theorem wordPolynomial_of_congruent {p : (ZMod 2)[X]}
    (h : AdjoinRoot.mk (modulus low) (wordPolynomial register) = AdjoinRoot.mk (modulus low) p) :
    wordPolynomial register = p %ₘ modulus low := by
  have hlt : (wordPolynomial register).degree < (modulus low).degree := by
    rw [degree_modulus]
    exact degree_wordPolynomial_lt register
  rw [← (modByMonic_eq_self_iff (modulus_monic low)).mpr hlt]
  exact modByMonic_eq_of_dvd_sub (modulus_monic low) (AdjoinRoot.mk_eq_mk.mp h)

theorem mk_wordPolynomial_injective (low : BitVec w) :
    Function.Injective fun word : BitVec w => AdjoinRoot.mk (modulus low) (wordPolynomial word) := by
  intro register word h
  apply wordPolynomial_injective
  rw [wordPolynomial_of_congruent h, ← wordPolynomial_of_congruent rfl]

/-- The register holds the remainder of what it started with and what it was fed. -/
theorem wordPolynomial_foldl_divide (low register : BitVec w) (bits : List Bool) :
    wordPolynomial (bits.foldl (divide low) register) =
      (wordPolynomial register * X ^ bits.length + bitsPolynomial bits * X ^ w) %ₘ modulus low :=
  wordPolynomial_of_congruent (mk_foldl_divide low register bits)

/-- A string with its remainder behind it leaves none. -/
theorem modulus_dvd_append {check : List Bool} (hlength : check.length = w)
    (hcheck : bitsPolynomial check = wordPolynomial (bits.foldl (divide low) 0#w)) :
    modulus low ∣ bitsPolynomial (bits ++ check) := by
  rw [← AdjoinRoot.mk_eq_zero, bitsPolynomial_append, map_add, hcheck, mk_foldl_divide,
    wordPolynomial_zero, zero_mul, zero_add, hlength, ← map_add, CharTwo.add_self_eq_zero, map_zero]

/-- Bits that are added to the top of the register ahead of time take effect like bits that are fed. -/
theorem foldl_divide_ahead (register : BitVec w)
    (hword : wordPolynomial word * X ^ bits.length = bitsPolynomial bits * X ^ w) :
    (List.replicate bits.length false).foldl (divide low) (register ^^^ word) =
      bits.foldl (divide low) register := by
  apply wordPolynomial_injective
  rw [wordPolynomial_foldl_divide, wordPolynomial_foldl_divide, List.length_replicate,
    bitsPolynomial_replicate_false, zero_mul, add_zero, wordPolynomial_xor, add_mul, hword]

/-- Steps that act on a view of a register as a zero that is fed. -/
theorem times_divides {α : Type} {f : α → α} (view : α → BitVec w)
    (hf : ∀ a, view (f a) = divide low (view a) false) (n : Nat) (a : α) :
    view (times f n a) = (List.replicate n false).foldl (divide low) (view a) := by
  induction n generalizing a with
  | zero => rfl
  | succ n ih => rw [times, ih, hf, List.replicate_succ, List.foldl_cons]

/-! ## The register of seven bits -/

theorem feed7_divides (register : UInt8) (bit : Bool) :
    (feed7 register bit).toBitVec.setWidth 7 =
      divide 0x09#7 (register.toBitVec.setWidth 7) bit := by
  have hshift : (register <<< 1 &&& 0x7f).toBitVec.setWidth 7 = register.toBitVec.setWidth 7 <<< 1 := by
    have hmask : (0x7f#8).setWidth 7 = BitVec.allOnes 7 := by decide
    rw [UInt8.toBitVec_and, BitVec.setWidth_and]
    change _ &&& (0x7f#8).setWidth 7 = _
    rw [hmask, BitVec.and_allOnes, UInt8.toBitVec_shiftLeft]
    ext i hi
    simp
  have htop : (register >>> 6 &&& 1 == 1) = (register.toBitVec.setWidth 7).msb := by
    rw [bit_eq_getLsbD, BitVec.msb_setWidth]
    rfl
  simp only [feed7, divide, htop]
  split
  · rw [UInt8.toBitVec_xor, BitVec.setWidth_xor, hshift]
    rfl
  · exact hshift

theorem crc7_divides (message : List UInt8) :
    (crc7 message).toBitVec.setWidth 7 =
      (message.flatMap bitsHighFirst).foldl (divide 0x09#7) 0#7 := by
  rw [List.foldl_flatMap, crc7]
  refine (List.foldl_hom (fun register : UInt8 => register.toBitVec.setWidth 7) ?_).symm
  intro register byte
  exact List.foldl_hom _ fun register bit => (feed7_divides register bit).symm

/-! ## The register of sixteen bits -/

theorem and_twoPow_bne_zero (v : BitVec w) {i : Nat} (hi : i < w) :
    (v &&& BitVec.twoPow w i != 0#w) = v.getLsbD i := by
  have hpow : BitVec.twoPow w i ≠ 0#w := by
    intro h
    have := congrArg (BitVec.getLsbD · i) h
    simp [hi] at this
  rw [BitVec.and_twoPow]
  cases v.getLsbD i with
  | false => simp
  | true => simp [hpow]

theorem shift16_divides (register : UInt16) :
    (shift16 register).toBitVec = divide 0x1021#16 register.toBitVec false := by
  have htop : (register &&& 0x8000 != 0) = register.toBitVec.msb := by
    rw [BitVec.msb_eq_getLsbD_last, ← and_twoPow_bne_zero register.toBitVec (by decide),
      Bool.eq_iff_iff, bne_iff_ne, bne_iff_ne, ne_eq, ← UInt16.toBitVec_inj]
    rfl
  simp only [shift16, divide, htop, Bool.false_xor]
  split
  · rfl
  · rfl

theorem crc16_divides (message : List UInt8) :
    (crc16 message).toBitVec =
      (message.flatMap bitsHighFirst).foldl (divide 0x1021#16) 0xffff#16 := by
  rw [List.foldl_flatMap, crc16]
  refine (List.foldl_hom UInt16.toBitVec ?_).symm
  intro register byte
  -- The byte stands in the upper half, where its bits come out one by one.
  have hword : wordPolynomial (byte.toUInt16 <<< (8 : UInt16)).toBitVec *
      X ^ (bitsHighFirst byte).length = bitsPolynomial (bitsHighFirst byte) * X ^ 16 := by
    have hshift : (byte.toUInt16 <<< (8 : UInt16)).toBitVec = byte.toBitVec.setWidth 16 <<< 8 := rfl
    rw [hshift, wordPolynomial_setWidth_shiftLeft _ (by decide), bitsPolynomial_highFirst, mul_assoc,
      ← pow_add]
    rfl
  rw [← foldl_divide_ahead _ hword, ← UInt16.toBitVec_xor]
  exact (times_divides UInt16.toBitVec shift16_divides 8 _).symm

/-! ## The register of thirty-two bits -/

theorem shift32_divides (register : UInt32) :
    (shift32 register).toBitVec.reverse = divide 0x04c11db7#32 register.toBitVec.reverse false := by
  have hlow : (register &&& 1 != 0) = register.toBitVec.reverse.msb := by
    rw [BitVec.msb_reverse, ← and_twoPow_bne_zero register.toBitVec (by decide),
      Bool.eq_iff_iff, bne_iff_ne, bne_iff_ne, ne_eq, ← UInt32.toBitVec_inj]
    rfl
  have hshift : (register >>> 1).toBitVec.reverse = register.toBitVec.reverse <<< 1 :=
    reverse_ushiftRight_one register.toBitVec
  have hgenerator : generator32.toBitVec.reverse = 0x04c11db7#32 := by decide +kernel
  simp only [shift32, divide, hlow, Bool.false_xor]
  split
  · rw [UInt32.toBitVec_xor, reverse_xor, hshift, hgenerator]
  · exact hshift

theorem crc32_divides (message : List UInt8) :
    (~~~(crc32 message).toBitVec).reverse =
      (message.flatMap bitsLowFirst).foldl (divide 0x04c11db7#32) 0xffffffff#32 := by
  have hstart : (0xffffffff : UInt32).toBitVec.reverse = 0xffffffff#32 := by decide +kernel
  rw [List.foldl_flatMap, crc32, UInt32.toBitVec_not, BitVec.not_not, ← hstart]
  refine (List.foldl_hom (fun register : UInt32 => register.toBitVec.reverse) ?_).symm
  intro register byte
  -- Read backwards, the byte stands at the top of the register, its lowest bit first.
  have hword : wordPolynomial byte.toUInt32.toBitVec.reverse * X ^ (bitsLowFirst byte).length =
      bitsPolynomial (bitsLowFirst byte) * X ^ 32 := by
    rw [UInt8.toBitVec_toUInt32, reverse_setWidth _ (by decide),
      wordPolynomial_setWidth_shiftLeft _ (by decide), bitsPolynomial_lowFirst, mul_assoc, ← pow_add]
    rfl
  rw [← foldl_divide_ahead _ hword, ← reverse_xor, ← UInt32.toBitVec_xor]
  exact (times_divides (fun register : UInt32 => register.toBitVec.reverse) shift32_divides 8 _).symm

end SensorRelay.Checksum
