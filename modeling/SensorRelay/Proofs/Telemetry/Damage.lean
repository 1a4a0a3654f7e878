import SensorRelay.Proofs.Checksum.Burst
import SensorRelay.Proofs.Telemetry.Front

/-! # Damaged chunks

A burst of seven bits in the payload or the check of a chunk leaves no chunk where it stood. The check
fills a byte but for the highest bit, so that a burst may reach over that bit from the payload into the
check. Without it, payload and check form a string that the modulus divides, and no other such string
differs from it by a burst.
-/
namespace SensorRelay

namespace Checksum

variable {message other : List UInt8}

/-- The seven bits of a check. -/
def checkBits (check : UInt8) : List Bool := (bitsHighFirst check).tail

theorem bitsHighFirst_crc7 (message : List UInt8) :
    bitsHighFirst (crc7 message) = false :: checkBits (crc7 message) := by
  have htop : (crc7 message >>> 7 &&& 1 == 1) = false := by
    rw [bit_eq_getLsbD]
    exact Nat.testBit_lt_two_pow (crc7_lt message)
  rw [← htop]
  rfl

theorem bitsPolynomial_checkBits (check : UInt8) :
    bitsPolynomial (checkBits check) = wordPolynomial (check.toBitVec.setWidth 7) := by
  have hbits : checkBits check = ((List.range 7).map (check.toBitVec.setWidth 7).getLsbD).reverse := by
    simp [checkBits, bitsHighFirst_eq, List.range_succ]
  rw [hbits, bitsPolynomial_reverse_map_range, wordPolynomial]

theorem modulus_dvd_checked (message : List UInt8) :
    modulus 0x09#7 ∣ bitsPolynomial (message.flatMap bitsHighFirst ++ checkBits (crc7 message)) := by
  refine modulus_dvd_append rfl ?_
  rw [bitsPolynomial_checkBits, crc7_divides]

/-- Messages that differ by a burst, their checks included, are not both followed by their checks. -/
theorem eq_of_checked_burst (hlength : message.length = other.length)
    (hburst : Burst 7 ((message ++ [crc7 message]).flatMap bitsHighFirst)
      ((other ++ [crc7 other]).flatMap bitsHighFirst)) : message = other := by
  have hbits : (message.flatMap bitsHighFirst).length = (other.flatMap bitsHighFirst).length :=
    length_flatMap_eq bitsHighFirst_length hlength
  rw [List.flatMap_append, List.flatMap_append, List.flatMap_singleton, List.flatMap_singleton,
    bitsHighFirst_crc7, bitsHighFirst_crc7] at hburst
  have hlow : (0x09#7).getLsbD 0 = true := by decide
  have hchecked : (message.flatMap bitsHighFirst ++ checkBits (crc7 message)).length =
      (other.flatMap bitsHighFirst ++ checkBits (crc7 other)).length := by
    rw [List.length_append, List.length_append, hbits]
    rfl
  -- The highest bit of either check is zero and can be taken out of the burst.
  have hsame := eq_of_burst_of_dvd hlow hchecked (hburst.remove hbits)
    (dvd_sub (modulus_dvd_checked message) (modulus_dvd_checked other))
  exact flatMap_injective bitsHighFirst_injective bitsHighFirst_length hlength
    (List.append_inj hsame hbits).1

end Checksum

namespace Telemetry

open Checksum (Burst bitsHighFirst)

variable {first : UInt8} {rest payload damaged : List UInt8}

theorem push_of_rejected (h : front first rest = .rejected) :
    Decoder.push {} (first :: rest) =
      ((Decoder.push {} rest).1,
        { (Decoder.push {} rest).2 with rejected := (Decoder.push {} rest).2.rejected + 1 }) := by
  simp only [Decoder.push, List.nil_append, search_of_rejected h]
  rfl

/-- What has the length and the first two bytes of a chunk. -/
theorem exists_body_of_take_two (hpayload : payload.length ≤ maxPayload)
    (hlength : damaged.length = (encode payload).length)
    (hhead : damaged.take 2 = (encode payload).take 2) :
    ∃ body check, body.length = payload.length ∧
      damaged = sync :: UInt8.ofNat payload.length :: (body ++ [check]) := by
  have hrest : (damaged.drop 2).length = payload.length + 1 := by
    rw [List.length_drop, hlength, encode_length_of_le hpayload]
    omega
  have hne : damaged.drop 2 ≠ [] := List.ne_nil_of_length_eq_add_one hrest
  refine ⟨(damaged.drop 2).dropLast,(damaged.drop 2).getLast hne,?_,?_⟩
  · rw [List.length_dropLast, hrest, Nat.add_sub_cancel]
  · rw [List.dropLast_append_getLast hne]
    conv_lhs => rw [← List.take_append_drop 2 damaged, hhead, encode_of_length_le hpayload]
    rfl

theorem body_eq_of_burst {length : UInt8} {body : List UInt8} (hbody : body.length = payload.length)
    (hburst : Burst 7 ((payload ++ [Checksum.crc7 (length :: payload)]).flatMap bitsHighFirst)
      ((body ++ [Checksum.crc7 (length :: body)]).flatMap bitsHighFirst)) : body = payload := by
  -- The check covers the length byte too, which stands in front of the burst.
  have hcovered := hburst.append_left (bitsHighFirst length)
  rw [← List.flatMap_cons, ← List.flatMap_cons] at hcovered
  have hlength : (length :: payload).length = (length :: body).length :=
    congrArg Nat.succ hbody.symm
  exact (List.cons.inj (Checksum.eq_of_checked_burst hlength hcovered)).2.symm

/-- A chunk that a burst of seven bits reached, in its payload, its check or both, is none any more:
its first byte is rejected, and what the decoder emits stands in the bytes behind. -/
theorem damaged_chunk_rejected (hpayload : payload.length ≤ maxPayload)
    (hlength : damaged.length = (encode payload).length)
    (hhead : damaged.take 2 = (encode payload).take 2) (hne : damaged ≠ encode payload)
    (hburst : Burst 7 (((encode payload).drop 2).flatMap bitsHighFirst)
      ((damaged.drop 2).flatMap bitsHighFirst)) :
    let pushed := Decoder.push {} damaged
    let behind := Decoder.push {} damaged.tail
    1 ≤ pushed.2.rejected ∧ ¬ BeginsWhole damaged ∧
      pushed.1 = behind.1 ∧ pushed.2 = { behind.2 with rejected := behind.2.rejected + 1 } := by
  obtain ⟨body,check,hbody,rfl⟩ := exists_body_of_take_two hpayload hlength hhead
  have hcheck : Checksum.crc7 (UInt8.ofNat body.length :: body) ≠ check := by
    rintro rfl
    rw [encode_of_length_le hpayload] at hne hburst
    rw [hbody] at hne hburst
    have hsame := body_eq_of_burst hbody hburst
    exact hne (by rw [hsame])
  have hfront : front sync (UInt8.ofNat payload.length :: (body ++ [check])) = .rejected := by
    rw [← hbody, front_complete (hbody ▸ hpayload), if_neg hcheck]
  have hpush := push_of_rejected hfront
  refine ⟨?_,(front_rejected_iff.mp hfront).1,?_,?_⟩
  · rw [hpush]
    exact Nat.le_add_left _ _
  · rw [hpush, List.tail_cons]
  · rw [hpush, List.tail_cons]

/-- The burst goes from the last bit of the payload into the check. The payload holds a whole chunk,
which the decoder finds once the chunk around it is lost. -/
theorem damaged_chunk_rejected_around_chunk :
    encode [0xa5, 0, 0, 0xff] = [0xa5, 4, 0xa5, 0, 0, 0xff, 0x5c] ∧
      Burst 7 ([0xa5, 0, 0, 0xff, 0x5c].flatMap bitsHighFirst)
        ([0xa5, 0, 0, 0xfe, 0x58].flatMap bitsHighFirst) ∧
      ¬ BeginsWhole [0xa5, 4, 0xa5, 0, 0, 0xfe, 0x58] ∧
      1 ≤ (Decoder.push {} [0xa5, 4, 0xa5, 0, 0, 0xfe, 0x58]).2.rejected ∧
      (Decoder.push {} [0xa5, 4, 0xa5, 0, 0, 0xfe, 0x58]).1 = [[]] := by
  have hencode : encode [0xa5, 0, 0, 0xff] = [0xa5, 4, 0xa5, 0, 0, 0xff, 0x5c] := by
    decide +kernel
  have hburst : Burst 7 ([0xa5, 0, 0, 0xff, 0x5c].flatMap bitsHighFirst)
      ([0xa5, 0, 0, 0xfe, 0x58].flatMap bitsHighFirst) :=
    Checksum.burst_of_parts ([0xa5, 0, 0].flatMap bitsHighFirst ++ List.replicate 7 true)
      [true, false, true, false, true, true, true] [false, false, true, false, true, true, false]
      [false, false] rfl (by decide)
  obtain ⟨hrejected,hbegins,-⟩ := @damaged_chunk_rejected [0xa5, 0, 0, 0xff]
    [0xa5, 4, 0xa5, 0, 0, 0xfe, 0x58] (by decide) (by rw [hencode]; rfl) (by rw [hencode]; rfl)
    (by rw [hencode]; decide) (by rw [hencode]; exact hburst)
  exact ⟨hencode,hburst,hbegins,hrejected,by decide +kernel⟩

end Telemetry
end SensorRelay
