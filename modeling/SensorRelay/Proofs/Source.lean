import Mathlib.Tactic.Common
import SensorRelay.Source

/-! # What a source captures

Settings with pixels give a frame at every capture: it has the next number, a sample for every pixel in
either channel, and the checksum of its distances.
-/
namespace SensorRelay

namespace Frame

theorem sealed_verify (f : Frame) : f.sealed.verify = true := beq_self_eq_true _

theorem create_eq_ok {width height : UInt32} {distance amplitude : Array UInt16} (sequence : Nat)
    (hpixels : width.toNat * height.toNat ≠ 0) (hdistance : distance.size = width.toNat * height.toNat)
    (hamplitude : amplitude.size = width.toNat * height.toNat) :
    create sequence width height distance amplitude =
      .ok (sealed ⟨sequence, width, height, distance, amplitude, 0⟩) := by
  have hsame : ¬ (distance.size ≠ width.toNat * height.toNat ∨
      amplitude.size ≠ width.toNat * height.toNat) := by
    rintro (hne | hne)
    · exact hne hdistance
    · exact hne hamplitude
  simp only [create, if_neg hpixels, if_neg hsame]

end Frame

/-- Settings under which a frame has pixels. -/
def SourceSettings.HasPixels (s : SourceSettings) : Prop := s.width ≠ 0 ∧ s.height ≠ 0

namespace SourceSettings
variable {s : SourceSettings}

theorem HasPixels.width_pos (h : s.HasPixels) : 0 < s.width.toNat :=
  Nat.pos_of_ne_zero fun hzero => h.1 (UInt32.toNat_inj.mp hzero)

theorem HasPixels.height_pos (h : s.HasPixels) : 0 < s.height.toNat :=
  Nat.pos_of_ne_zero fun hzero => h.2 (UInt32.toNat_inj.mp hzero)

end SourceSettings

/-- A frame as the source captures it next. -/
structure Frame.CapturedBy (f : Frame) (s : Source) : Prop where
  sequence : f.sequence = s.frames + 1
  width : f.width = s.settings.width
  height : f.height = s.settings.height
  distance : f.distance.size = f.pixelCount
  amplitude : f.amplitude.size = f.pixelCount
  verified : f.verify = true

namespace Source
variable {s : Source}

theorem nextFrame_eq_ok (h : s.settings.HasPixels) (draws : Nat → Draw) :
    ∃ f : Frame, (s.nextFrame draws).1 = .ok f ∧ f.CapturedBy s := by
  have hpixels : s.settings.width.toNat * s.settings.height.toNat ≠ 0 :=
    Nat.ne_of_gt (Nat.mul_pos h.width_pos h.height_pos)
  let pixels := Array.ofFn fun i : Fin (s.settings.width.toNat * s.settings.height.toNat) =>
    s.step.pixel (draws i) i
  have hsize : pixels.size = s.settings.width.toNat * s.settings.height.toNat := Array.size_ofFn
  have hdistance : (pixels.map (·.1)).size = s.settings.width.toNat * s.settings.height.toNat := by
    rw [Array.size_map, hsize]
  have hamplitude : (pixels.map (·.2)).size = s.settings.width.toNat * s.settings.height.toNat := by
    rw [Array.size_map, hsize]
  exact ⟨_,Frame.create_eq_ok (s.frames + 1) hpixels hdistance hamplitude,
    rfl,rfl,rfl,hdistance,hamplitude,Frame.sealed_verify _⟩

end Source
end SensorRelay
