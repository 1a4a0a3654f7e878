import SensorRelay.Proofs.Checksum.Division

/-! # The checks as remainders

Each check is the remainder of a polynomial division: of the message, its bits in the order in which
they are consumed, followed by as many zeros as the check has bits. A register that does not start at
zero adds its start in front of the message, and the check of thirty-two bits writes the remainder
down backwards and complemented.
-/
namespace SensorRelay.Checksum
open Polynomial

/-! ## The moduli -/

theorem modulus_seven : modulus 0x09#7 = X ^ 7 + X ^ 3 + 1 := by
  have hlow : wordPolynomial 0x09#7 = 1 + X ^ 3 := by
    simp [wordPolynomial, Finset.sum_range_succ]
  rw [modulus, hlow]
  ring

theorem modulus_sixteen : modulus 0x1021#16 = X ^ 16 + X ^ 12 + X ^ 5 + 1 := by
  have hlow : wordPolynomial 0x1021#16 = 1 + X ^ 5 + X ^ 12 := by
    simp [wordPolynomial, Finset.sum_range_succ]
  rw [modulus, hlow]
  ring

/-- A word with its leading one in front is the modulus that it stands for. -/
theorem modulus_eq_wordPolynomial_cons {w : Nat} (low : BitVec w) :
    modulus low = wordPolynomial (BitVec.cons true low) := by
  have hlow : wordPolynomial low =
      ∑ i ∈ Finset.range w, C (coefficient ((BitVec.cons true low).getLsbD i)) * X ^ i := by
    refine Finset.sum_congr rfl fun i hi => ?_
    rw [BitVec.getLsbD_cons, if_neg (Finset.mem_range.mp hi).ne]
  rw [modulus, hlow, wordPolynomial, Finset.sum_range_succ, BitVec.getLsbD_cons, if_pos rfl,
    coefficient_true, C_1, one_mul, add_comm]

/-! ## The checks -/

theorem wordPolynomial_crc7 (message : List UInt8) :
    wordPolynomial (crc7 message).toBitVec =
      (bitsPolynomial (message.flatMap bitsHighFirst) * X ^ 7) %ₘ modulus 0x09#7 := by
  rw [← wordPolynomial_setWidth_of_lt (crc7_lt message), crc7_divides, wordPolynomial_foldl_divide,
    wordPolynomial_zero, zero_mul, zero_add]

theorem wordPolynomial_crc16 (message : List UInt8) :
    wordPolynomial (crc16 message).toBitVec =
      (wordPolynomial 0xffff#16 * X ^ (8 * message.length) +
        bitsPolynomial (message.flatMap bitsHighFirst) * X ^ 16) %ₘ modulus 0x1021#16 := by
  rw [crc16_divides, wordPolynomial_foldl_divide, length_flatMap_of_length bitsHighFirst_length]

theorem wordPolynomial_crc32 (message : List UInt8) :
    wordPolynomial (~~~(crc32 message).toBitVec).reverse =
      (wordPolynomial 0xffffffff#32 * X ^ (8 * message.length) +
        bitsPolynomial (message.flatMap bitsLowFirst) * X ^ 32) %ₘ modulus 0x04c11db7#32 := by
  rw [crc32_divides, wordPolynomial_foldl_divide, length_flatMap_of_length bitsLowFirst_length]

/-- The three checks of any message are the remainders of their divisions: of seven bits from a register
at zero, of sixteen bits from one at `0xffff`, and of thirty-two bits, the lowest bit of each byte
first, from one at `0xffffffff`, reversed and complemented. -/
theorem checks_are_remainders (message : List UInt8) :
    wordPolynomial (crc7 message).toBitVec =
        (bitsPolynomial (message.flatMap bitsHighFirst) * X ^ 7) %ₘ (X ^ 7 + X ^ 3 + 1) ∧
      wordPolynomial (crc16 message).toBitVec =
        (wordPolynomial 0xffff#16 * X ^ (8 * message.length) +
          bitsPolynomial (message.flatMap bitsHighFirst) * X ^ 16) %ₘ
            (X ^ 16 + X ^ 12 + X ^ 5 + 1) ∧
      ∃ remainder : BitVec 32, (crc32 message).toBitVec = ~~~remainder.reverse ∧
        wordPolynomial remainder =
          (wordPolynomial 0xffffffff#32 * X ^ (8 * message.length) +
            bitsPolynomial (message.flatMap bitsLowFirst) * X ^ 32) %ₘ
              wordPolynomial 0x104c11db7#33 := by
  refine ⟨?_,?_,(~~~(crc32 message).toBitVec).reverse,?_,?_⟩
  · rw [wordPolynomial_crc7, modulus_seven]
  · rw [wordPolynomial_crc16, modulus_sixteen]
  · rw [reverse_reverse, BitVec.not_not]
  · rw [wordPolynomial_crc32, modulus_eq_wordPolynomial_cons]
    rfl

end SensorRelay.Checksum
