import Mathlib.Tactic.Common
import SensorRelay.Bilateral

/-! # What the filter changes

The filter answers with a frame unless its parameters or the dimensions of the frame are wrong. The
frame that it answers with has other distances, but at the same number of pixels, and nothing else
about it is new. A pixel without a return stays one.
-/
namespace SensorRelay.Bilateral
variable {p : Bilateral} {f g : Frame}

theorem validate_eq_ok_iff : p.validate = .ok () ↔ p.isValid = true := by
  cases hvalid : p.isValid <;> simp [validate, hvalid]

/-- The distances after the filter. -/
def smoothed (p : Bilateral) (f : Frame) : Array UInt16 :=
  f.distance.mapIdx fun i centre =>
    if centre = Frame.noReturn then centre
    else p.smooth f.width.toNat f.height.toNat f.distance (i % f.width.toNat) (i / f.width.toNat)
      centre

theorem apply_eq (p : Bilateral) (f : Frame) :
    p.apply f = if p.isValid = true ∧ f.distance.size = f.pixelCount
      then .ok { f with distance := p.smoothed f } else .error .invalidParameter := by
  cases hvalid : p.isValid with
  | false => simp [apply, hvalid]
  | true =>
    by_cases hsize : f.distance.size = f.pixelCount
    · simp [apply, hvalid, hsize, smoothed]
    · simp [apply, hvalid, hsize]

theorem apply_eq_ok_iff : p.apply f = .ok g ↔
    p.isValid = true ∧ f.distance.size = f.pixelCount ∧ { f with distance := p.smoothed f } = g := by
  rw [apply_eq]
  by_cases haccepted : p.isValid = true ∧ f.distance.size = f.pixelCount
  · simp [haccepted]
  · simp only [if_neg haccepted, reduceCtorEq, false_iff]
    exact fun hok => haccepted ⟨hok.1,hok.2.1⟩

theorem apply_eq_error_iff {e : Failure} : p.apply f = .error e ↔
    e = .invalidParameter ∧ (p.validate ≠ .ok () ∨ f.distance.size ≠ f.pixelCount) := by
  rw [apply_eq, Ne, validate_eq_ok_iff]
  by_cases haccepted : p.isValid = true ∧ f.distance.size = f.pixelCount
  · simp [haccepted]
  · rw [if_neg haccepted, Except.error.injEq, eq_comm, iff_self_and]
    exact fun _ => not_and_or.mp haccepted

/-! ## Pixel by pixel -/

@[simp] theorem smoothed_size : (p.smoothed f).size = f.distance.size := Array.size_mapIdx

theorem smoothed_of_return {i : Nat} {d : UInt16} (hd : f.distance[i]? = some d)
    (hreturn : d ≠ Frame.noReturn) :
    (p.smoothed f)[i]? = some (p.smooth f.width.toNat f.height.toNat f.distance
      (i % f.width.toNat) (i / f.width.toNat) d) := by
  rw [smoothed, Array.getElem?_mapIdx, hd, Option.map_some, if_neg hreturn]

theorem smoothed_of_noReturn {i : Nat} (hd : f.distance[i]? = some Frame.noReturn) :
    (p.smoothed f)[i]? = some Frame.noReturn := by
  rw [smoothed, Array.getElem?_mapIdx, hd, Option.map_some, if_pos rfl]

end SensorRelay.Bilateral
