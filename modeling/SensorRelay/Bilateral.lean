import SensorRelay.Binary.Exp
import SensorRelay.Frame

/-! # Bilateral filter

Every valid pixel becomes the mean of the valid pixels in a square around it. A neighbour's weight
falls with its place and with its distance from the centre's value, both times as a Gaussian. Pixels
without a return are neither used nor changed. All arithmetic is in four-byte values and is done in
the order of rows and, in a row, of columns. -/
namespace SensorRelay

open Binary

/-- The square's edge and the two widths of the Gaussians. -/
structure Bilateral where
  window : UInt64
  sigmaSpatial : Single
  /-- In units of distance. -/
  sigmaRange : Single
deriving DecidableEq

namespace Bilateral

def standard : Bilateral := ⟨5, .ofDecimal false 15 (-1), .ofNat 30⟩

/-- Numeric equality, in which not a number differs from itself. -/
def same (p q : Bilateral) : Bool :=
  p.window == q.window && p.sigmaSpatial.same q.sigmaSpatial && p.sigmaRange.same q.sigmaRange

/-- Whether a Gaussian can have this width. -/
def isWidth (sigma : Single) : Bool := sigma.isFinite && (Value.zero false).less sigma

def isValid (p : Bilateral) : Bool :=
  decide (3 ≤ p.window) && p.window % 2 == 1 && isWidth p.sigmaSpatial && isWidth p.sigmaRange

def validate (p : Bilateral) : Except Failure Unit :=
  if p.isValid then .ok () else .error .invalidParameter

/-- The denominator `2 * sigma * sigma` of a Gaussian's exponent. -/
def spread (sigma : Single) : Single := .ofNat 2 * sigma * sigma

/-- The Gaussian weight of a squared difference. -/
def gaussian (squared spread : Single) : Single := (-squared / spread).exp

def radius (p : Bilateral) : Nat := p.window.toNat / 2

/-- The weight at a position of the square, counted row by row from its corner. -/
def kernelAt (p : Bilateral) (position : Nat) : Single :=
  let dy : Int := (position / p.window.toNat : Nat) - p.radius
  let dx : Int := (position % p.window.toNat : Nat) - p.radius
  gaussian (.ofInt (dx * dx + dy * dy)) (spread p.sigmaSpatial)

/-- The coordinates below `size` that are at most `radius` from `centre`. -/
def near (centre radius size : Nat) : List Nat :=
  List.range' (centre - radius) (min size (centre + radius + 1) - (centre - radius))

/-- A weighted sum and the sum of its weights. -/
structure Mean where
  sum : Single := .zero false
  weight : Single := .zero false

namespace Mean

def add (m : Mean) (weight value : Single) : Mean :=
  ⟨m.sum + weight * value, m.weight + weight⟩

/-- The mean as a valid distance: rounded, a half going up, and kept in range. -/
def toDistance (m : Mean) : UInt16 :=
  ((m.sum / m.weight).roundAway.clamp (.ofNat 1) (.ofNat 65535)).toUInt16

end Mean

/-- A sample read as a value. -/
def sample (d : UInt16) : Single := .ofNat d.toNat

/-- The valid pixels of the square around `(x, y)`: the position in the square and the distance. -/
def neighbours (p : Bilateral) (width height : Nat) (source : Array UInt16) (x y : Nat) :
    List (Nat × UInt16) :=
  (near y p.radius height).flatMap fun ny =>
    (near x p.radius width).filterMap fun nx =>
      let d := source.getD (ny * width + nx) Frame.noReturn
      if d = Frame.noReturn then none
      else some ((ny + p.radius - y) * p.window.toNat + (nx + p.radius - x), d)

/-- The mean around a pixel whose distance is `centre`. -/
def smooth (p : Bilateral) (width height : Nat) (source : Array UInt16) (x y : Nat)
    (centre : UInt16) : UInt16 :=
  let weigh := fun (m : Mean) ((position, d) : Nat × UInt16) =>
    let difference := sample d - sample centre
    m.add (p.kernelAt position * gaussian (difference * difference) (spread p.sigmaRange)) (sample d)
  ((p.neighbours width height source x y).foldl weigh {}).toDistance

/-- The frame with its distances filtered. The checksum stays as it was sealed.

The program writes all `window * window` weights of the square down before it filters. It ends there, and
gives no result, if their number is not a word of 64 bits or they do not fit the memory. Here a weight is
computed where it is read, so that there is a result for such a window too. -/
def apply (p : Bilateral) (f : Frame) : Except Failure Frame :=
  if !p.isValid then .error .invalidParameter
  else if f.distance.size ≠ f.pixelCount then .error .invalidParameter
  else
    let width := f.width.toNat
    .ok { f with distance := f.distance.mapIdx fun i centre =>
      if centre = Frame.noReturn then centre
      else p.smooth width f.height.toNat f.distance (i % width) (i / width) centre }

end Bilateral

end SensorRelay
