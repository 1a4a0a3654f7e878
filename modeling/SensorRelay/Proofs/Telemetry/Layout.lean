import Mathlib.Algebra.Group.Nat.Defs
import Mathlib.Data.List.Basic
import SensorRelay.Telemetry.Chunk

/-! # The bytes of a chunk

The bytes of a chunk determine its payload. The check has seven bits and so is never the sync byte,
unlike bytes of the payload.
-/
namespace SensorRelay

namespace Checksum

theorem feed7_lt (register : UInt8) (bit : Bool) : (feed7 register bit).toNat < 2 ^ 7 := by
  have hshifted : (register <<< 1 &&& 0x7f).toNat < 2 ^ 7 := by
    rw [UInt8.toNat_and]
    exact Nat.lt_succ_of_le Nat.and_le_right
  rw [feed7]
  split
  · rw [UInt8.toNat_xor]
    exact Nat.xor_lt_two_pow hshifted (by decide)
  · exact hshifted

theorem foldl_feed7_lt {register : UInt8} (h : register.toNat < 2 ^ 7) (bits : List Bool) :
    (bits.foldl feed7 register).toNat < 2 ^ 7 := by
  induction bits generalizing register with
  | nil => exact h
  | cons bit bits ih => exact ih (feed7_lt register bit)

theorem crc7_lt (bytes : List UInt8) : (crc7 bytes).toNat < 2 ^ 7 := by
  have hzero : (0 : UInt8).toNat < 2 ^ 7 := by decide
  refine List.foldlRecOn (motive := fun register : UInt8 => register.toNat < 2 ^ 7) bytes _ hzero ?_
  intro register hregister byte _
  exact foldl_feed7_lt hregister (bitsHighFirst byte)

end Checksum

namespace Telemetry

variable {payload other : List UInt8}

theorem encode_of_length_le (h : payload.length ≤ maxPayload) :
    encode payload = sync :: UInt8.ofNat payload.length ::
      (payload ++ [Checksum.crc7 (UInt8.ofNat payload.length :: payload)]) := by
  rw [encode, List.take_of_length_le h]
  rfl

theorem encode_length_of_le (h : payload.length ≤ maxPayload) :
    (encode payload).length = payload.length + 3 := by
  rw [encode_of_length_le h]
  simp

theorem encode_getElem?_zero (payload : List UInt8) : (encode payload)[0]? = some sync := rfl

theorem encode_getElem?_one (h : payload.length ≤ maxPayload) :
    (encode payload)[1]? = some (UInt8.ofNat payload.length) := by
  rw [encode_of_length_le h]
  rfl

theorem encode_getElem?_last (h : payload.length ≤ maxPayload) :
    (encode payload)[payload.length + 2]? =
      some (Checksum.crc7 (UInt8.ofNat payload.length :: payload)) := by
  rw [encode_of_length_le h, List.getElem?_cons_succ, List.getElem?_cons_succ,
    List.getElem?_append_right (Nat.le_refl _), Nat.sub_self]
  rfl

theorem crc7_ne_sync (bytes : List UInt8) : Checksum.crc7 bytes ≠ sync := by
  intro h
  have hlt := Checksum.crc7_lt bytes
  rw [h] at hlt
  exact absurd hlt (by decide)

theorem encode_injective (h : payload.length ≤ maxPayload) (h' : other.length ≤ maxPayload)
    (heq : encode payload = encode other) : payload = other := by
  rw [encode_of_length_le h, encode_of_length_le h', List.cons.injEq, List.cons.injEq] at heq
  exact (List.append_inj' heq.2.2 rfl).1

end Telemetry
end SensorRelay
