import SensorRelay.Proofs.Checksum.Burst
import SensorRelay.Proofs.Frame.Edits

/-! # Frames that were rewritten

The checksum of a frame covers its distances, two bytes each. Two neighbours are thirty-two bits in the
order in which the check consumes them, so a rewrite of these alone never has the checksum that was
sealed. The frame fails its verification until it is sealed again.
-/
namespace SensorRelay

open Checksum (Burst bitsLowFirst)

theorem littleEndian16_length (n : UInt16) : (littleEndian16 n).length = 2 := rfl

theorem littleEndian16_injective : Function.Injective littleEndian16 := by
  intro m n h
  simp only [littleEndian16, List.cons.injEq, and_true] at h
  have hlow := congrArg UInt8.toNat h.1
  have hhigh := congrArg UInt8.toNat h.2
  rw [UInt16.toNat_toUInt8, UInt16.toNat_toUInt8] at hlow
  rw [UInt16.toNat_toUInt8, UInt16.toNat_toUInt8, UInt16.toNat_shiftRight, UInt16.toNat_shiftRight,
    Nat.shiftRight_eq_div_pow, Nat.shiftRight_eq_div_pow] at hhigh
  change m.toNat / 2 ^ 8 % 2 ^ 8 = n.toNat / 2 ^ 8 % 2 ^ 8 at hhigh
  have hm := m.toNat_lt
  have hn := n.toNat_lt
  exact UInt16.toNat_inj.mp (by omega)

namespace Frame

variable {f g : Frame} {distance : Array UInt16}

theorem payload_length_eq (hsize : f.distance.size = g.distance.size) :
    f.payload.length = g.payload.length :=
  Checksum.length_flatMap_eq littleEndian16_length hsize

/-- A burst of two distances is one of thirty-two bits of the payload. -/
theorem payload_burst (hsize : f.distance.size = g.distance.size)
    (hburst : Burst 2 f.distance.toList g.distance.toList) :
    Burst 32 (f.payload.flatMap bitsLowFirst) (g.payload.flatMap bitsLowFirst) := by
  have hbytes : Burst 4 f.payload g.payload := hburst.flatMap hsize littleEndian16_length
  exact hbytes.flatMap (payload_length_eq hsize) Checksum.bitsLowFirst_length

theorem distance_eq_of_crc32_eq (hsize : f.distance.size = g.distance.size)
    (hburst : Burst 2 f.distance.toList g.distance.toList)
    (h : Checksum.crc32 f.payload = Checksum.crc32 g.payload) : f.distance = g.distance := by
  have hpayload :=
    Checksum.eq_of_crc32_eq (payload_length_eq hsize) (payload_burst hsize hburst) h
  exact Array.toList_inj.mp
    (Checksum.flatMap_injective littleEndian16_injective littleEndian16_length hsize hpayload)

theorem edits_checksum (f : Frame) {es : List Edit} (hreseal : .reseal ∉ es) :
    (f.edits es).checksum = f.checksum := by
  induction es generalizing f with
  | nil => rfl
  | cons e es ih =>
    rw [List.mem_cons, not_or] at hreseal
    exact (ih _ hreseal.2).trans (edit_checksum f (Ne.symm hreseal.1))

/-- A rewrite of two neighbouring distances of a sealed frame fails the verification as long as the
distances stay as they are and the frame is not sealed again, and no longer. -/
theorem rewrite_detected (hsize : distance.size = f.distance.size) (hne : distance ≠ f.distance)
    {i : Nat} (hlocal : ∀ j : Nat, distance[j]? ≠ f.distance[j]? → j = i ∨ j = i + 1) :
    let g := { f.sealed with distance }
    g.verify = false ∧
      (∀ es : List Edit, .reseal ∉ es → (g.edits es).distance = distance →
        (g.edits es).verify = false) ∧
      ∀ es : List Edit, (g.edits (es ++ [.reseal])).verify = true := by
  intro g
  have hburst : Burst 2 g.distance.toList f.distance.toList := by
    refine ⟨i,fun j hj => ?_⟩
    rw [Array.getElem?_toList, Array.getElem?_toList] at hj
    have := hlocal j hj
    omega
  have hchecksum : Checksum.crc32 g.payload ≠ g.checksum :=
    fun h => hne (distance_eq_of_crc32_eq hsize hburst h)
  have hedited : ∀ es : List Edit, .reseal ∉ es → (g.edits es).distance = distance →
      (g.edits es).verify = false := by
    intro es hreseal hdistance
    rw [verify, payload, hdistance, edits_checksum g hreseal]
    exact beq_eq_false_iff_ne.mpr hchecksum
  refine ⟨hedited [] List.not_mem_nil rfl,hedited,fun es => ?_⟩
  rw [edits, List.foldl_append]
  exact sealed_verify _

/-- The first two of three distances change, all bits of the first one. -/
theorem rewrite_detected_two_pixels :
    let f : Frame := ⟨1,3,1,#[0xffff, 7, 9],#[1, 2, 3],0⟩
    let g : Frame := { f.sealed with distance := #[0, 8, 9] }
    (∀ j : Nat, g.distance[j]? ≠ f.distance[j]? → j = 0 ∨ j = 1) ∧
      (g.edits [.resize 1 3, .payload]).verify = false ∧
      (g.edits [.resize 1 3, .payload, .reseal]).verify = true := by
  intro f g
  have hlocal : ∀ j : Nat, g.distance[j]? ≠ f.distance[j]? → j = 0 ∨ j = 1 := by
    intro j hj
    rcases j with _ | _ | _ | j
    · exact .inl rfl
    · exact .inr rfl
    · exact absurd rfl hj
    · exact absurd rfl hj
  have hne : g.distance ≠ f.distance := by decide
  obtain ⟨-,hfalse,htrue⟩ := @rewrite_detected f g.distance rfl hne 0 hlocal
  exact ⟨hlocal,hfalse [.resize 1 3, .payload] (by simp) rfl,htrue [.resize 1 3, .payload]⟩

end Frame
end SensorRelay
