import Mathlib.Algebra.Polynomial.FieldDivision
import SensorRelay.Proofs.Checksum.Division

/-! # Bursts

A burst changes some of the bits within a few consecutive places. Two strings that differ by a burst no
longer than a register leave it in different states: their difference is a polynomial of a degree
below that of the modulus, moved to higher powers, and a modulus with a constant term does not divide
it. So each check tells a message from all those that a burst of its own width makes of it.
-/
namespace SensorRelay.Checksum
open Polynomial

/-- The lists differ at most within `width` consecutive places. -/
def Burst {α : Type} (width : Nat) (before after : List α) : Prop :=
  ∃ start, ∀ i : Nat, before[i]? ≠ after[i]? → start ≤ i ∧ i < start + width

section Burst

variable {α β : Type} {width : Nat} {before after front back : List α}

/-! ## Lists that differ by a burst -/

/-- What stands on either side of a burst is the same in both lists. -/
theorem Burst.exists_parts (h : Burst width before after) (hlength : before.length = after.length) :
    ∃ front old new back, before = front ++ old ++ back ∧ after = front ++ new ++ back ∧
      old.length = new.length ∧ old.length ≤ width := by
  obtain ⟨start,hstart⟩ := h
  have hsame : ∀ i : Nat, i < start ∨ start + width ≤ i → after[i]? = before[i]? := by
    intro i hi
    by_contra hne
    have := hstart i (Ne.symm hne)
    omega
  have hfront : after.take start = before.take start := by
    refine List.ext_getElem? fun i => ?_
    rw [List.getElem?_take, List.getElem?_take]
    split
    · next hi => exact hsame i (.inl hi)
    · rfl
  have hback : after.drop (start + width) = before.drop (start + width) := by
    refine List.ext_getElem? fun i => ?_
    rw [List.getElem?_drop, List.getElem?_drop]
    exact hsame _ (.inr (Nat.le_add_right _ _))
  have hparts : ∀ list : List α,
      list = list.take start ++ (list.drop start).take width ++ list.drop (start + width) := by
    intro list
    rw [List.append_assoc, ← List.drop_drop, List.take_append_drop, List.take_append_drop]
  refine ⟨before.take start,(before.drop start).take width,(after.drop start).take width,
    before.drop (start + width),hparts before,?_,?_,List.length_take_le _ _⟩
  · rw [← hfront, ← hback]
    exact hparts after
  · rw [List.length_take, List.length_take, List.length_drop, List.length_drop, hlength]

theorem burst_of_parts (front old new back : List α) (hlength : old.length = new.length)
    (hwidth : old.length ≤ width) : Burst width (front ++ old ++ back) (front ++ new ++ back) := by
  refine ⟨front.length,fun i hne => ?_⟩
  by_contra hout
  apply hne
  by_cases hfront : i < front.length
  · rw [List.append_assoc, List.append_assoc, List.getElem?_append_left hfront,
      List.getElem?_append_left hfront]
  · have hback : (front ++ old).length ≤ i := by
      rw [List.length_append]
      omega
    have hback' : (front ++ new).length ≤ i := by
      rw [List.length_append, ← hlength, ← List.length_append]
      exact hback
    rw [List.getElem?_append_right hback, List.getElem?_append_right hback', List.length_append,
      List.length_append, hlength]

theorem Burst.append_left (h : Burst width before after) (front : List α) :
    Burst width (front ++ before) (front ++ after) := by
  obtain ⟨start,hstart⟩ := h
  refine ⟨front.length + start,fun i hne => ?_⟩
  by_cases hfront : i < front.length
  · rw [List.getElem?_append_left hfront, List.getElem?_append_left hfront] at hne
    exact absurd rfl hne
  · rw [List.getElem?_append_right (Nat.le_of_not_lt hfront),
      List.getElem?_append_right (Nat.le_of_not_lt hfront)] at hne
    have := hstart _ hne
    omega

/-- A place at which the lists agree can be taken out. -/
theorem Burst.remove {x : α} {front' back' : List α} (hlength : front.length = front'.length)
    (h : Burst width (front ++ x :: back) (front' ++ x :: back')) :
    Burst width (front ++ back) (front' ++ back') := by
  obtain ⟨start,hstart⟩ := h
  -- What lay behind the place moves up by one, and with it a burst that began behind it.
  refine ⟨if start ≤ front.length then start else start - 1,fun i hne => ?_⟩
  by_cases hfront : i < front.length
  · rw [List.getElem?_append_left hfront, List.getElem?_append_left (hlength ▸ hfront)] at hne
    have := hstart i
      (by rwa [List.getElem?_append_left hfront, List.getElem?_append_left (hlength ▸ hfront)])
    split <;> omega
  · have hle := Nat.le_of_not_lt hfront
    rw [List.getElem?_append_right hle, List.getElem?_append_right (hlength ▸ hle)] at hne
    have hnext : (front ++ x :: back)[i + 1]? ≠ (front' ++ x :: back')[i + 1]? := by
      rw [List.getElem?_append_right (by omega), List.getElem?_append_right (by omega), ← hlength,
        Nat.sub_add_comm hle, List.getElem?_cons_succ, List.getElem?_cons_succ]
      rwa [← hlength] at hne
    have := hstart (i + 1) hnext
    split <;> omega

/-- Where every entry is written down in `size` places, a burst of entries is one of places. -/
theorem Burst.flatMap {f : α → List β} {size : Nat} (h : Burst width before after)
    (hlength : before.length = after.length) (hf : ∀ a, (f a).length = size) :
    Burst (size * width) (before.flatMap f) (after.flatMap f) := by
  obtain ⟨front,old,new,back,rfl,rfl,hsame,hwidth⟩ := h.exists_parts hlength
  rw [List.flatMap_append, List.flatMap_append, List.flatMap_append, List.flatMap_append]
  refine burst_of_parts _ _ _ _ (length_flatMap_eq hf hsame) ?_
  rw [length_flatMap_of_length hf]
  exact Nat.mul_le_mul_left _ hwidth

/-- Entries that are written down in equally many places can be read back. -/
theorem flatMap_injective {f : α → List β} {size : Nat} (hinjective : Function.Injective f)
    (hf : ∀ a, (f a).length = size) (hlength : before.length = after.length)
    (h : before.flatMap f = after.flatMap f) : before = after := by
  induction before generalizing after with
  | nil => exact (List.eq_nil_of_length_eq_zero hlength.symm).symm
  | cons a before ih =>
    cases after with
    | nil => cases hlength
    | cons b after =>
      rw [List.flatMap_cons, List.flatMap_cons] at h
      obtain ⟨hhead,htail⟩ := List.append_inj h ((hf a).trans (hf b).symm)
      rw [hinjective hhead, ih (Nat.succ_inj.mp hlength) htail]

end Burst

/-! ## Registers that a burst reaches -/

variable {w : Nat} {low : BitVec w} {before after : List Bool} {message other : List UInt8}

theorem isCoprime_modulus_X_pow (hlow : low.getLsbD 0 = true) (n : Nat) :
    IsCoprime (modulus low) (X ^ n) := by
  have hw : w ≠ 0 := by
    rintro rfl
    rw [BitVec.getLsbD_of_ge _ _ (Nat.le_refl 0)] at hlow
    cases hlow
  have hconstant : ¬ X ∣ modulus low := by
    rw [X_dvd_iff, modulus, coeff_add, coeff_wordPolynomial, hlow, coeff_X_pow, if_neg hw.symm]
    decide
  exact ((irreducible_X.coprime_iff_not_dvd.mpr hconstant).pow_left).symm

/-- Congruent strings that differ at most by a burst are equal. -/
theorem eq_of_burst_of_dvd (hlow : low.getLsbD 0 = true) (hlength : before.length = after.length)
    (hburst : Burst w before after)
    (hdvd : modulus low ∣ bitsPolynomial before - bitsPolynomial after) : before = after := by
  obtain ⟨front,old,new,back,rfl,rfl,hsame,hwidth⟩ := hburst.exists_parts hlength
  have hshift : bitsPolynomial (front ++ old ++ back) - bitsPolynomial (front ++ new ++ back) =
      (bitsPolynomial old - bitsPolynomial new) * X ^ back.length := by
    simp only [bitsPolynomial_append, hsame]
    ring
  rw [hshift] at hdvd
  -- The power of `X` is prime to the modulus, so the changed bits alone would have to be divisible.
  have hchanged := (isCoprime_modulus_X_pow hlow back.length).dvd_of_dvd_mul_right hdvd
  have hdegree : ∀ bits : List Bool, bits.length ≤ w → (bitsPolynomial bits).degree < w := by
    intro bits hbits
    exact (degree_bitsPolynomial_lt bits).trans_le (by exact_mod_cast hbits)
  have hlt : (bitsPolynomial old - bitsPolynomial new).degree < (modulus low).degree := by
    rw [degree_modulus]
    exact (degree_sub_le _ _).trans_lt (max_lt (hdegree old hwidth) (hdegree new (hsame ▸ hwidth)))
  have hzero := eq_zero_of_dvd_of_degree_lt hchanged hlt
  rw [eq_of_bitsPolynomial_eq hsame (sub_eq_zero.mp hzero)]

/-- Strings of one length leave the register in the same state if the modulus divides their
difference. -/
theorem foldl_divide_eq_iff (hlow : low.getLsbD 0 = true) (hlength : before.length = after.length)
    (register : BitVec w) :
    before.foldl (divide low) register = after.foldl (divide low) register ↔
      modulus low ∣ bitsPolynomial before - bitsPolynomial after := by
  have hmk : before.foldl (divide low) register = after.foldl (divide low) register ↔
      modulus low ∣ (bitsPolynomial before - bitsPolynomial after) * X ^ w := by
    rw [← (mk_wordPolynomial_injective low).eq_iff, mk_foldl_divide, mk_foldl_divide,
      AdjoinRoot.mk_eq_mk, hlength, add_sub_add_left_eq_sub, ← sub_mul]
  rw [hmk]
  exact ⟨(isCoprime_modulus_X_pow hlow w).dvd_of_dvd_mul_right,fun h => h.mul_right _⟩

/-- Strings that differ by a burst as wide as the register leave it in different states. -/
theorem foldl_divide_injective (hlow : low.getLsbD 0 = true) (hlength : before.length = after.length)
    (hburst : Burst w before after) (register : BitVec w)
    (h : before.foldl (divide low) register = after.foldl (divide low) register) :
    before = after :=
  eq_of_burst_of_dvd hlow hlength hburst ((foldl_divide_eq_iff hlow hlength register).mp h)

/-! ## Checks of messages -/

theorem bitsHighFirst_injective : Function.Injective bitsHighFirst := by
  intro a b h
  have hword := congrArg bitsPolynomial h
  rw [bitsPolynomial_highFirst, bitsPolynomial_highFirst] at hword
  exact UInt8.toBitVec_inj.mp (wordPolynomial_injective hword)

theorem bitsLowFirst_injective : Function.Injective bitsLowFirst := by
  intro a b h
  have hword := congrArg bitsPolynomial h
  rw [bitsPolynomial_lowFirst, bitsPolynomial_lowFirst] at hword
  have hreverse := congrArg BitVec.reverse (wordPolynomial_injective hword)
  rw [reverse_reverse, reverse_reverse] at hreverse
  exact UInt8.toBitVec_inj.mp hreverse

theorem foldl_divide_message_injective {bits : UInt8 → List Bool}
    (hinjective : Function.Injective bits) (hbits : ∀ byte, (bits byte).length = 8)
    (hlow : low.getLsbD 0 = true) (hlength : message.length = other.length)
    (hburst : Burst w (message.flatMap bits) (other.flatMap bits)) (register : BitVec w)
    (h : (message.flatMap bits).foldl (divide low) register =
      (other.flatMap bits).foldl (divide low) register) : message = other :=
  flatMap_injective hinjective hbits hlength
    (foldl_divide_injective hlow (length_flatMap_eq hbits hlength) hburst register h)

theorem eq_of_crc7_eq (hlength : message.length = other.length)
    (hburst : Burst 7 (message.flatMap bitsHighFirst) (other.flatMap bitsHighFirst))
    (h : crc7 message = crc7 other) : message = other := by
  have hlow : (0x09#7).getLsbD 0 = true := by decide
  refine foldl_divide_message_injective bitsHighFirst_injective bitsHighFirst_length hlow hlength
    hburst 0#7 ?_
  rw [← crc7_divides, ← crc7_divides, h]

theorem eq_of_crc16_eq (hlength : message.length = other.length)
    (hburst : Burst 16 (message.flatMap bitsHighFirst) (other.flatMap bitsHighFirst))
    (h : crc16 message = crc16 other) : message = other := by
  have hlow : (0x1021#16).getLsbD 0 = true := by decide
  refine foldl_divide_message_injective bitsHighFirst_injective bitsHighFirst_length hlow hlength
    hburst 0xffff#16 ?_
  rw [← crc16_divides, ← crc16_divides, h]

theorem eq_of_crc32_eq (hlength : message.length = other.length)
    (hburst : Burst 32 (message.flatMap bitsLowFirst) (other.flatMap bitsLowFirst))
    (h : crc32 message = crc32 other) : message = other := by
  have hlow : (0x04c11db7#32).getLsbD 0 = true := by decide
  refine foldl_divide_message_injective bitsLowFirst_injective bitsLowFirst_length hlow hlength
    hburst 0xffffffff#32 ?_
  rw [← crc32_divides, ← crc32_divides, h]

/-- Two messages of one length that differ by a burst as wide as a check have different checks. -/
theorem checks_detect_bursts (hlength : message.length = other.length) (hne : message ≠ other) :
    (Burst 7 (message.flatMap bitsHighFirst) (other.flatMap bitsHighFirst) →
        crc7 message ≠ crc7 other) ∧
      (Burst 16 (message.flatMap bitsHighFirst) (other.flatMap bitsHighFirst) →
        crc16 message ≠ crc16 other) ∧
      (Burst 32 (message.flatMap bitsLowFirst) (other.flatMap bitsLowFirst) →
        crc32 message ≠ crc32 other) := by
  refine ⟨fun hburst h => hne ?_,fun hburst h => hne ?_,fun hburst h => hne ?_⟩
  · exact eq_of_crc7_eq hlength hburst h
  · exact eq_of_crc16_eq hlength hburst h
  · exact eq_of_crc32_eq hlength hburst h

/-- The last bit of a byte and the first bit of the next one are flipped. -/
theorem checks_detect_bursts_byte_border :
    Burst 7 ([0xff, 0x00].flatMap bitsHighFirst) ([0xfe, 0x80].flatMap bitsHighFirst) ∧
      Burst 16 ([0xff, 0x00].flatMap bitsHighFirst) ([0xfe, 0x80].flatMap bitsHighFirst) ∧
      Burst 32 ([0xff, 0x00].flatMap bitsLowFirst) ([0xfe, 0x80].flatMap bitsLowFirst) ∧
      crc7 [0xff, 0x00] ≠ crc7 [0xfe, 0x80] ∧ crc16 [0xff, 0x00] ≠ crc16 [0xfe, 0x80] ∧
      crc32 [0xff, 0x00] ≠ crc32 [0xfe, 0x80] := by
  have hnarrow : ∀ width, 2 ≤ width →
      Burst width ([0xff, 0x00].flatMap bitsHighFirst) ([0xfe, 0x80].flatMap bitsHighFirst) :=
    fun width => burst_of_parts (List.replicate 7 true) [true, false] [false, true]
      (List.replicate 7 false) rfl
  have hwide : Burst 32 ([0xff, 0x00].flatMap bitsLowFirst) ([0xfe, 0x80].flatMap bitsLowFirst) :=
    burst_of_parts [] ([0xff, 0x00].flatMap bitsLowFirst) ([0xfe, 0x80].flatMap bitsLowFirst) []
      rfl (by decide)
  obtain ⟨h7,h16,h32⟩ := @checks_detect_bursts [0xff, 0x00] [0xfe, 0x80] rfl (by decide)
  have hseven := hnarrow 7 (by decide)
  have hsixteen := hnarrow 16 (by decide)
  exact ⟨hseven,hsixteen,hwide,h7 hseven,h16 hsixteen,h32 hwide⟩

end SensorRelay.Checksum
