import Mathlib.Algebra.Order.Group.Abs
import Mathlib.Algebra.Order.Group.Int
import Mathlib.Data.List.Basic
import SensorRelay.Proofs.Bilateral.Apply

/-! # The window around a pixel

The filter counts the positions of its window and the samples of a frame row by row, and cuts the
window at the borders of the frame before it starts. Seen from the centre, all of this is a walk over the
offsets of the window, of which those outside the frame show nothing. What the walk shows is all that
the new distance is made of.
-/
namespace SensorRelay

open Binary

namespace Frame

/-- The sample in column `x` and row `y`. -/
def pixel (f : Frame) (x y : Nat) : UInt16 := f.distance.getD (y * f.width.toNat + x) noReturn

/-- The distance at an offset from column `x` and row `y`, if there is a pixel with a return. -/
def seen (f : Frame) (x y : Nat) (o : Int × Int) : Option UInt16 :=
  if 0 ≤ x + o.1 ∧ x + o.1 < f.width.toNat ∧ 0 ≤ y + o.2 ∧ y + o.2 < f.height.toNat then
    (some (f.pixel (x + o.1).toNat (y + o.2).toNat)).filter (· ≠ noReturn)
  else none

end Frame

namespace Bilateral
variable {p : Bilateral} {f g : Frame}

/-- The offsets of the window from its centre, row by row. -/
def offsets (p : Bilateral) : List (Int × Int) :=
  (List.range (2 * p.radius + 1)).flatMap fun (j : Nat) =>
    (List.range (2 * p.radius + 1)).map fun (i : Nat) => ((i : Int) - p.radius, (j : Int) - p.radius)

/-- What the window shows around column `x` and row `y`: the offset and the distance of every pixel with
a return. -/
def around (p : Bilateral) (f : Frame) (x y : Nat) : List ((Int × Int) × UInt16) :=
  p.offsets.filterMap fun o => (f.seen x y o).map fun d => (o, d)

/-- The weight of the distance `d` at an offset from a pixel whose distance is `centre`. -/
def weight (p : Bilateral) (centre : UInt16) (n : (Int × Int) × UInt16) : Single :=
  gaussian (.ofInt (n.1.1 * n.1.1 + n.1.2 * n.1.2)) (spread p.sigmaSpatial) *
    gaussian ((sample n.2 - sample centre) * (sample n.2 - sample centre)) (spread p.sigmaRange)

/-- The weighted mean of the distances that a pixel sees. -/
def meanOf (p : Bilateral) (centre : UInt16) (ns : List ((Int × Int) × UInt16)) : Mean :=
  ns.foldl (fun m n => m.add (p.weight centre n) (sample n.2)) {}

/-! ## Positions and offsets -/

theorem window_eq (hvalid : p.isValid = true) : p.window.toNat = 2 * p.radius + 1 := by
  simp only [isValid, Bool.and_eq_true, beq_iff_eq] at hvalid
  have hodd := congrArg UInt64.toNat hvalid.1.1.2
  rw [UInt64.toNat_mod] at hodd
  have hodd' : p.window.toNat % 2 = 1 := hodd
  rw [radius]
  omega

theorem mem_offsets {o : Int × Int} : o ∈ p.offsets ↔
    (-p.radius ≤ o.1 ∧ o.1 ≤ p.radius) ∧ -p.radius ≤ o.2 ∧ o.2 ≤ p.radius := by
  simp only [offsets, List.mem_flatMap, List.mem_map, List.mem_range]
  constructor
  · rintro ⟨j,hj,i,hi,rfl⟩
    dsimp only
    omega
  · intro ho
    refine ⟨(o.2 + p.radius).toNat,by omega,(o.1 + p.radius).toNat,by omega,?_⟩
    ext
    · dsimp only
      omega
    · dsimp only
      omega

/-- Where an offset is in the square, counted row by row. -/
def position (p : Bilateral) (o : Int × Int) : Nat :=
  (o.2 + p.radius).toNat * p.window.toNat + (o.1 + p.radius).toNat

/-- The weight that the kernel has at a position is that of the offset there. -/
theorem kernelAt_position (hvalid : p.isValid = true) {o : Int × Int} (ho : o ∈ p.offsets) :
    p.kernelAt (p.position o) = gaussian (.ofInt (o.1 * o.1 + o.2 * o.2)) (spread p.sigmaSpatial) := by
  have hbounds := mem_offsets.mp ho
  have hwindow := window_eq hvalid
  have hcolumn : (o.1 + p.radius).toNat < p.window.toNat := by omega
  have hdiv : p.position o / p.window.toNat = (o.2 + p.radius).toNat := by
    rw [position, Nat.mul_comm, Nat.mul_add_div (by omega), Nat.div_eq_of_lt hcolumn, Nat.add_zero]
  have hmod : p.position o % p.window.toNat = (o.1 + p.radius).toNat := by
    rw [position, Nat.mul_comm, Nat.mul_add_mod, Nat.mod_eq_of_lt hcolumn]
  have hdy : ((o.2 + p.radius).toNat : Int) - p.radius = o.2 := by omega
  have hdx : ((o.1 + p.radius).toNat : Int) - p.radius = o.1 := by omega
  rw [kernelAt, hdiv, hmod, hdy, hdx]

/-! ## The clipped walk -/

/-- The coordinate at place `i` of the window's edge, if the frame has it. -/
def coordinate (centre radius size i : Nat) : Option Nat :=
  if radius ≤ centre + i ∧ centre + i - radius < size then some (centre + i - radius) else none

theorem near_eq_filterMap (centre radius size : Nat) :
    near centre radius size = (List.range (2 * radius + 1)).filterMap (coordinate centre radius size) := by
  -- Places before the frame and behind it give nothing; those between give consecutive coordinates.
  let before := radius - centre
  let inside := min size (centre + radius + 1) - (centre - radius)
  have hsplit : List.range (2 * radius + 1) = List.range' 0 before ++ List.range' before inside ++
      List.range' (before + inside) (2 * radius + 1 - before - inside) := by
    have hlength : before + inside + (2 * radius + 1 - before - inside) = 2 * radius + 1 := by omega
    have hfront := List.range'_append_1 (s := 0) (m := before) (n := inside)
    have hall := List.range'_append_1 (s := 0) (m := before + inside)
      (n := 2 * radius + 1 - before - inside)
    rw [Nat.zero_add] at hfront hall
    rw [hfront, hall, hlength, List.range_eq_range']
  have hbefore : (List.range' 0 before).filterMap (coordinate centre radius size) = [] := by
    rw [List.filterMap_eq_nil_iff]
    intro i hi
    have hi := List.mem_range'_1.mp hi
    exact if_neg (by omega)
  have hbehind : (List.range' (before + inside) (2 * radius + 1 - before - inside)).filterMap
      (coordinate centre radius size) = [] := by
    rw [List.filterMap_eq_nil_iff]
    intro i hi
    have hi := List.mem_range'_1.mp hi
    exact if_neg (by omega)
  have hinside : (List.range' before inside).filterMap (coordinate centre radius size) =
      List.range' (centre - radius) inside := by
    rw [List.range'_eq_map_range, List.range'_eq_map_range, List.filterMap_map, ← List.filterMap_eq_map]
    refine List.filterMap_congr ?_
    intro k hk
    have hk := List.mem_range.mp hk
    have hsame : centre + (before + k) - radius = centre - radius + k := by omega
    rw [Function.comp_apply, coordinate, if_pos (by omega), hsame]
    rfl
  rw [hsplit, List.filterMap_append, List.filterMap_append, hbefore, hbehind, hinside,
    List.nil_append, List.append_nil, near]

theorem seen_of_coordinates (f : Frame) {x y nx ny i j : Nat}
    (hx : coordinate x p.radius f.width.toNat i = some nx)
    (hy : coordinate y p.radius f.height.toNat j = some ny) :
    f.seen x y ((i : Int) - p.radius, (j : Int) - p.radius) =
      (some (f.pixel nx ny)).filter (· ≠ Frame.noReturn) := by
  simp only [coordinate, Option.ite_none_right_eq_some, Option.some.injEq] at hx hy
  have hcolumn : ((x : Int) + (i - p.radius)).toNat = nx := by omega
  have hrow : ((y : Int) + (j - p.radius)).toNat = ny := by omega
  rw [Frame.seen, if_pos (by dsimp only; omega), hcolumn, hrow]

theorem seen_of_no_coordinate (f : Frame) {x y i j : Nat}
    (h : coordinate x p.radius f.width.toNat i = none ∨
      coordinate y p.radius f.height.toNat j = none) :
    f.seen x y ((i : Int) - p.radius, (j : Int) - p.radius) = none := by
  simp only [coordinate, ite_eq_right_iff, reduceCtorEq, imp_false] at h
  exact if_neg (by dsimp only; omega)

theorem position_of_coordinates {x y nx ny i j width height : Nat}
    (hx : coordinate x p.radius width i = some nx) (hy : coordinate y p.radius height j = some ny) :
    (ny + p.radius - y) * p.window.toNat + (nx + p.radius - x) =
      p.position ((i : Int) - p.radius, (j : Int) - p.radius) := by
  simp only [coordinate, Option.ite_none_right_eq_some, Option.some.injEq] at hx hy
  have hcolumn : nx + p.radius - x = ((i : Int) - p.radius + p.radius).toNat := by omega
  have hrow : ny + p.radius - y = ((j : Int) - p.radius + p.radius).toNat := by omega
  rw [hcolumn, hrow, position]

/-- The neighbours that the filter looks up are those that the window shows. -/
theorem neighbours_eq (p : Bilateral) (f : Frame) (x y : Nat) :
    p.neighbours f.width.toNat f.height.toNat f.distance x y =
      (p.around f x y).map fun n => (p.position n.1, n.2) := by
  rw [neighbours, near_eq_filterMap y, List.filterMap_eq_flatMap_toList, List.flatMap_assoc, around,
    List.map_filterMap, offsets, List.filterMap_flatMap]
  refine List.flatMap_congr ?_
  intro j hj
  rw [List.filterMap_map]
  cases hy : coordinate y p.radius f.height.toNat j with
  | none =>
    rw [Option.toList_none, List.flatMap_nil, eq_comm, List.filterMap_eq_nil_iff]
    intro i hi
    rw [Function.comp_apply, seen_of_no_coordinate f (.inr hy), Option.map_none, Option.map_none]
  | some ny =>
    rw [Option.toList_some, List.flatMap_singleton, near_eq_filterMap x, List.filterMap_filterMap]
    refine List.filterMap_congr ?_
    intro i hi
    rw [Function.comp_apply]
    cases hx : coordinate x p.radius f.width.toNat i with
    | none =>
      rw [seen_of_no_coordinate f (.inl hx)]
      rfl
    | some nx =>
      rw [seen_of_coordinates f hx hy, Option.bind_some, position_of_coordinates hx hy]
      by_cases hd : f.pixel nx ny = Frame.noReturn
      · rw [Option.filter_some_neg (by simpa using hd)]
        exact if_pos hd
      · rw [Option.filter_some_pos (by simpa using hd)]
        exact if_neg hd

/-! ## The new distance -/

theorem smooth_eq (hvalid : p.isValid = true) (f : Frame) (x y : Nat) (centre : UInt16) :
    p.smooth f.width.toNat f.height.toNat f.distance x y centre =
      (p.meanOf centre (p.around f x y)).toDistance := by
  rw [smooth, neighbours_eq, List.foldl_map, meanOf]
  refine congrArg Mean.toDistance (List.foldl_ext _ _ _ ?_)
  rintro m ⟨o,d⟩ hn
  obtain ⟨o',ho,hseen⟩ := List.mem_filterMap.mp hn
  obtain ⟨d',-,heq⟩ := Option.map_eq_some_iff.mp hseen
  obtain ⟨rfl,rfl⟩ := Prod.mk.inj heq
  dsimp only
  rw [kernelAt_position hvalid ho, weight]

theorem index_lt {x y : Nat} (hx : x < f.width.toNat) (hy : y < f.height.toNat) :
    y * f.width.toNat + x < f.pixelCount := by
  calc y * f.width.toNat + x < y * f.width.toNat + f.width.toNat := Nat.add_lt_add_left hx _
    _ = (y + 1) * f.width.toNat := (Nat.succ_mul y _).symm
    _ ≤ f.height.toNat * f.width.toNat := Nat.mul_le_mul_right _ hy
    _ = f.pixelCount := Nat.mul_comm _ _

theorem getElem?_pixel (hsize : f.distance.size = f.pixelCount) {x y : Nat} (hx : x < f.width.toNat)
    (hy : y < f.height.toNat) : f.distance[y * f.width.toNat + x]? = some (f.pixel x y) := by
  have hindex : y * f.width.toNat + x < f.distance.size := hsize ▸ index_lt hx hy
  rw [Frame.pixel, Array.getD_eq_getD_getElem?, Array.getElem?_eq_getElem hindex, Option.getD_some]

/-- A pixel after the filter: none stays none, and a return becomes the mean of what its window shows. -/
theorem pixel_smoothed (hvalid : p.isValid = true) (hsize : f.distance.size = f.pixelCount) {x y : Nat}
    (hx : x < f.width.toNat) (hy : y < f.height.toNat) :
    Frame.pixel { f with distance := p.smoothed f } x y =
      if f.pixel x y = Frame.noReturn then Frame.noReturn
      else (p.meanOf (f.pixel x y) (p.around f x y)).toDistance := by
  have hcolumn : (y * f.width.toNat + x) % f.width.toNat = x := by
    rw [Nat.mul_comm, Nat.mul_add_mod, Nat.mod_eq_of_lt hx]
  have hrow : (y * f.width.toNat + x) / f.width.toNat = y := by
    rw [Nat.mul_comm, Nat.mul_add_div (Nat.zero_lt_of_lt hx), Nat.div_eq_of_lt hx, Nat.add_zero]
  have hold := getElem?_pixel hsize hx hy
  by_cases hnone : f.pixel x y = Frame.noReturn
  · rw [hnone] at hold
    rw [if_pos hnone, Frame.pixel, Array.getD_eq_getD_getElem?, smoothed_of_noReturn hold,
      Option.getD_some]
  · rw [if_neg hnone, Frame.pixel, Array.getD_eq_getD_getElem?, smoothed_of_return hold hnone,
      Option.getD_some, hcolumn, hrow, smooth_eq hvalid]

/-- What a window shows is what the frame has within the radius of the window. -/
theorem around_congr (hwidth : g.width = f.width) (hheight : g.height = f.height) {x y : Nat}
    (hsame : ∀ x' y', x' < f.width.toNat → y' < f.height.toNat →
      |(x' : Int) - x| ≤ p.radius → |(y' : Int) - y| ≤ p.radius → f.pixel x' y' = g.pixel x' y') :
    p.around f x y = p.around g x y := by
  refine List.filterMap_congr ?_
  intro o ho
  have hbounds := mem_offsets.mp ho
  by_cases hinside : 0 ≤ x + o.1 ∧ x + o.1 < f.width.toNat ∧ 0 ≤ y + o.2 ∧ y + o.2 < f.height.toNat
  · have hpixel := hsame (x + o.1).toNat (y + o.2).toNat (by omega) (by omega)
      (abs_le.mpr (by omega)) (abs_le.mpr (by omega))
    rw [Frame.seen, Frame.seen, hwidth, hheight, if_pos hinside, if_pos hinside, hpixel]
  · rw [Frame.seen, Frame.seen, hwidth, hheight, if_neg hinside, if_neg hinside]

/-- The new distance of a pixel depends on the old distances within the radius of the window, at their
offsets from the pixel, and on nothing else: two frames that agree there get the same one. -/
theorem smoothed_depends_on_window (hvalid : p.isValid = true)
    (hf : f.distance.size = f.pixelCount) (hg : g.distance.size = g.pixelCount)
    (hwidth : g.width = f.width) (hheight : g.height = f.height) :
    ∃ f' g', p.apply f = .ok f' ∧ p.apply g = .ok g' ∧
      ∀ x y, x < f.width.toNat → y < f.height.toNat →
        (f'.pixel x y = if f.pixel x y = Frame.noReturn then Frame.noReturn
          else (p.meanOf (f.pixel x y) (p.around f x y)).toDistance) ∧
        ((∀ x' y', x' < f.width.toNat → y' < f.height.toNat →
            |(x' : Int) - x| ≤ p.radius → |(y' : Int) - y| ≤ p.radius →
            f.pixel x' y' = g.pixel x' y') →
          f'.pixel x y = g'.pixel x y) := by
  refine ⟨_,_,apply_eq_ok_iff.mpr ⟨hvalid,hf,rfl⟩,apply_eq_ok_iff.mpr ⟨hvalid,hg,rfl⟩,?_⟩
  intro x y hx hy
  refine ⟨pixel_smoothed hvalid hf hx hy,?_⟩
  intro hsame
  have hcentre : f.pixel x y = g.pixel x y := hsame x y hx hy (by simp) (by simp)
  rw [pixel_smoothed hvalid hf hx hy, pixel_smoothed hvalid hg (hwidth ▸ hx) (hheight ▸ hy),
    around_congr hwidth hheight hsame, hcentre]

theorem smoothed_depends_on_window_row_end :
    let p : Bilateral := { standard with window := 3 }
    let f : Frame := ⟨0,4,2,#[100, 110, 7, 500, 120, 0, 9, 10],#[0, 0, 0, 0, 0, 0, 0, 0],0⟩
    let g : Frame := ⟨1,4,2,#[100, 110, 8, 900, 120, 0, 0, 11],#[1, 1, 1, 1, 1, 1, 1, 1],5⟩
    p.isValid = true ∧ f.distance.size = f.pixelCount ∧ g.distance.size = g.pixelCount ∧
      ∃ f' g', p.apply f = .ok f' ∧ p.apply g = .ok g' ∧ f'.pixel 0 1 = g'.pixel 0 1 := by
  intro p f g
  have hvalid : p.isValid = true := by decide +kernel
  obtain ⟨f',g',hf,hg,hpixels⟩ := smoothed_depends_on_window (f := f) (g := g) hvalid rfl rfl rfl rfl
  -- The sample stored before that of the pixel is at the end of the row above, and differs.
  have hsame : ∀ x' : Nat, x' < 4 → ∀ y' : Nat, y' < 2 → |(x' : Int) - (0 : Nat)| ≤ p.radius →
      f.pixel x' y' = g.pixel x' y' := by decide
  exact ⟨hvalid,rfl,rfl,f',g',hf,hg,
    (hpixels 0 1 (by decide) (by decide)).2 fun x' y' hx' hy' hcolumn _ => hsame x' hx' y' hy' hcolumn⟩

end Bilateral
end SensorRelay
