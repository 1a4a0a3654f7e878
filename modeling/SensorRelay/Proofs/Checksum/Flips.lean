import Mathlib.GroupTheory.OrderOfElement
import Mathlib.Tactic.NormNum.Prime
import SensorRelay.Proofs.Checksum.Burst

/-! # Two flipped bits

A flipped bit adds a power of `X` to the polynomial of a message. Two of them add powers whose quotient
is `X` to the distance of the bits, so that a register sees them unless the distance is a multiple of
the order of `X` modulo its generator. For the check of seven bits that order is 127, the largest that
a register of seven bits can have.
-/
namespace SensorRelay.Checksum
open Polynomial

/-- The message with one bit flipped. Bits are numbered as they are consumed, from the highest of the
first byte on. -/
def flipBit (message : List UInt8) (i : Nat) : List UInt8 :=
  message.modify (i / 8) fun byte => byte ^^^ 0x80 >>> UInt8.ofNat (i % 8)

variable {w : Nat} {low : BitVec w} {bits : List Bool}

/-! ## Flips of strings -/

theorem coefficient_not (bit : Bool) : coefficient (!bit) = coefficient bit + 1 := by
  cases bit <;> decide

theorem bitsPolynomial_flip {i : Nat} (hi : i < bits.length) :
    bitsPolynomial (bits.modify i not) = bitsPolynomial bits + X ^ (bits.length - 1 - i) := by
  have hback : (bits.drop (i + 1)).length = bits.length - 1 - i := by
    rw [List.length_drop]
    omega
  have hsplit : bits.take i ++ bits[i] :: bits.drop (i + 1) = bits := by
    rw [← List.drop_eq_getElem_cons hi, List.take_append_drop]
  conv_rhs => rw [← hsplit]
  rw [List.modify_eq_take_cons_drop hi, bitsPolynomial_append, bitsPolynomial_append, bitsPolynomial,
    bitsPolynomial, hsplit, hback, coefficient_not, C_add, C_1, List.length_cons, List.length_cons]
  ring

/-- A zero that is fed multiplies a register by the root of the modulus. -/
theorem mk_foldl_divide_zeros (low register : BitVec w) (n : Nat) :
    AdjoinRoot.mk (modulus low) (wordPolynomial ((List.replicate n false).foldl (divide low) register)) =
      AdjoinRoot.mk (modulus low) (wordPolynomial register) * AdjoinRoot.root (modulus low) ^ n := by
  rw [mk_foldl_divide, bitsPolynomial_replicate_false, List.length_replicate, zero_mul, add_zero,
    map_mul, map_pow, AdjoinRoot.mk_X]

/-- The distance of two flips alone decides whether the modulus divides what they add. -/
theorem modulus_dvd_flips_iff (hlow : low.getLsbD 0 = true) (m d : Nat) :
    modulus low ∣ X ^ (m + d) + X ^ m ↔ orderOf (AdjoinRoot.root (modulus low)) ∣ d := by
  have hshift : (X ^ (m + d) + X ^ m : (ZMod 2)[X]) = (X ^ d - 1) * X ^ m := by
    rw [CharTwo.sub_eq_add]
    ring
  have hpower : modulus low ∣ X ^ d - 1 ↔ AdjoinRoot.root (modulus low) ^ d = 1 := by
    rw [← AdjoinRoot.mk_eq_mk, map_pow, map_one, AdjoinRoot.mk_X]
  rw [hshift, orderOf_dvd_iff_pow_eq_one, ← hpower]
  exact ⟨(isCoprime_modulus_X_pow hlow m).dvd_of_dvd_mul_right,fun h => h.mul_right _⟩

/-- Two flips leave a register where it was if their distance is a multiple of the order of `X`. -/
theorem foldl_divide_flips_eq_iff (hlow : low.getLsbD 0 = true) {i j : Nat} (hij : i < j)
    (hj : j < bits.length) (register : BitVec w) :
    ((bits.modify i not).modify j not).foldl (divide low) register =
        bits.foldl (divide low) register ↔
      orderOf (AdjoinRoot.root (modulus low)) ∣ j - i := by
  have hlength : (bits.modify i not).length = bits.length := List.length_modify _ _ _
  have hj' : j < (bits.modify i not).length := hlength ▸ hj
  have hplace : bits.length - 1 - i = bits.length - 1 - j + (j - i) := by omega
  rw [foldl_divide_eq_iff hlow ((List.length_modify _ _ _).trans hlength), bitsPolynomial_flip hj',
    bitsPolynomial_flip (hij.trans hj), hlength, add_assoc, add_sub_cancel_left, hplace,
    modulus_dvd_flips_iff hlow]

/-! ## Flips of messages -/

theorem modify_append {α : Type} (front back : List α) (i : Nat) (f : α → α) :
    (front ++ back).modify i f =
      if i < front.length then front.modify i f ++ back
      else front ++ back.modify (i - front.length) f := by
  split
  · next hi =>
    have hi' : i < (front ++ back).length := by
      rw [List.length_append]
      omega
    rw [List.modify_eq_take_cons_drop hi', List.modify_eq_take_cons_drop hi,
      List.take_append_of_le_length hi.le, List.drop_append_of_le_length hi,
      List.getElem_append_left hi, List.append_assoc, List.cons_append]
  · next hi =>
    have hle : front.length + (i - front.length) = i := by omega
    conv_lhs => rw [← hle]
    exact List.modifyTailIdx_add _ _ _ _

theorem bitsHighFirst_flip (byte : UInt8) {i : Nat} (hi : i < 8) :
    bitsHighFirst (byte ^^^ 0x80 >>> UInt8.ofNat i) = (bitsHighFirst byte).modify i not := by
  rw [bitsHighFirst_eq, bitsHighFirst_eq, UInt8.toBitVec_xor]
  interval_cases i <;> simp [List.range_succ]

/-- A flip within the first byte, and one behind it. -/
theorem flipBit_cons (byte : UInt8) (rest : List UInt8) (i : Nat) :
    flipBit (byte :: rest) i =
      if i < 8 then (byte ^^^ 0x80 >>> UInt8.ofNat i) :: rest else byte :: flipBit rest (i - 8) := by
  split
  · next hi => rw [flipBit, Nat.div_eq_of_lt hi, Nat.mod_eq_of_lt hi, List.modify_zero_cons]
  · next hi =>
    obtain ⟨k,rfl⟩ : ∃ k, i = k + 8 := ⟨i - 8,by omega⟩
    rw [flipBit, Nat.add_div_right _ (by decide), Nat.add_mod_right, List.modify_succ_cons,
      Nat.add_sub_cancel, flipBit]

/-- In the bits of a message, `flipBit` flips the one with its number. -/
theorem bits_flipBit (message : List UInt8) (i : Nat) :
    (flipBit message i).flatMap bitsHighFirst = (message.flatMap bitsHighFirst).modify i not := by
  induction message generalizing i with
  | nil => simp [flipBit]
  | cons byte rest ih =>
    rw [flipBit_cons, List.flatMap_cons]
    rw [modify_append, bitsHighFirst_length]
    split
    · next hi => rw [List.flatMap_cons, bitsHighFirst_flip byte hi]
    · rw [List.flatMap_cons, ih]

/-! ## The check of seven bits -/

theorem orderOf_root_seven : orderOf (AdjoinRoot.root (modulus 0x09#7)) = 127 := by
  have : Fact (Nat.Prime 127) := ⟨by norm_num⟩
  have hone : wordPolynomial 1#7 = 1 := by simp [wordPolynomial, Finset.sum_range_succ]
  have htwo : wordPolynomial 2#7 = X := by simp [wordPolynomial, Finset.sum_range_succ]
  refine orderOf_eq_prime ?_ ?_
  · -- A register at one comes round to one after 127 zeros.
    have hround : (List.replicate 127 false).foldl (divide 0x09#7) 1#7 = 1#7 := by decide +kernel
    have hmk := mk_foldl_divide_zeros 0x09#7 1#7 127
    rw [hround, hone, map_one, one_mul] at hmk
    exact hmk.symm
  · intro h
    rw [← AdjoinRoot.mk_X, ← htwo, ← map_one (AdjoinRoot.mk (modulus 0x09#7)), ← hone] at h
    exact absurd (mk_wordPolynomial_injective 0x09#7 h) (by decide)

theorem crc7_eq_iff (message other : List UInt8) :
    crc7 message = crc7 other ↔
      (message.flatMap bitsHighFirst).foldl (divide 0x09#7) 0#7 =
        (other.flatMap bitsHighFirst).foldl (divide 0x09#7) 0#7 := by
  rw [← crc7_divides, ← crc7_divides]
  refine ⟨fun h => by rw [h],fun h => ?_⟩
  have hword := congrArg BitVec.toNat h
  rw [BitVec.toNat_setWidth, BitVec.toNat_setWidth, UInt8.toNat_toBitVec, UInt8.toNat_toBitVec,
    Nat.mod_eq_of_lt (crc7_lt message), Nat.mod_eq_of_lt (crc7_lt other)] at hword
  exact UInt8.toNat_inj.mp hword

/-- Flipping two bits of a message leaves the check of seven bits as it is exactly if their distance is
a multiple of 127. -/
theorem crc7_two_flips_eq_iff (message : List UInt8) {i j : Nat} (hij : i < j)
    (hj : j < 8 * message.length) :
    crc7 (flipBit (flipBit message i) j) = crc7 message ↔ 127 ∣ j - i := by
  have hlow : (0x09#7).getLsbD 0 = true := by decide
  have hlt : j < (message.flatMap bitsHighFirst).length := by
    rwa [length_flatMap_of_length bitsHighFirst_length]
  rw [crc7_eq_iff, bits_flipBit, bits_flipBit, foldl_divide_flips_eq_iff hlow hij hlt,
    orderOf_root_seven]

/-- In seventeen bytes, flips 127 bits apart go unseen, and flips 128 bits apart do not. -/
theorem crc7_two_flips_eq_iff_seventeen_bytes :
    (3 < 130 ∧ 3 < 131 ∧ 131 < 8 * (List.replicate 17 (0xa5 : UInt8)).length) ∧
      crc7 (flipBit (flipBit (List.replicate 17 0xa5) 3) 130) = crc7 (List.replicate 17 0xa5) ∧
      crc7 (flipBit (flipBit (List.replicate 17 0xa5) 3) 131) ≠ crc7 (List.replicate 17 0xa5) := by
  have hfar : 127 ∣ 130 - 3 := by decide
  have hnear : ¬ 127 ∣ 131 - 3 := by decide
  have hbits : 131 < 8 * (List.replicate 17 (0xa5 : UInt8)).length := by decide
  exact ⟨⟨by decide,by decide,hbits⟩,
    (crc7_two_flips_eq_iff _ (by decide) (Nat.lt_of_succ_lt hbits)).mpr hfar,
    fun h => hnear ((crc7_two_flips_eq_iff _ (by decide) hbits).mp h)⟩

end SensorRelay.Checksum
