import SensorRelay.Binary.Arithmetic
import SensorRelay.Frame
import SensorRelay.Machine
import SensorRelay.Telemetry.Chunk
import SensorRelay.Wait

/-! # Synthetic capture source

A stand-in for a depth sensor: frames of a ramp that drifts with time, with noise and missing
returns, and telemetry chunks with the source's counters. What is random comes in as a value, so a
frame is a function of the draws for its pixels.

Distances are computed in signed words of 32 bits, which the settings allow rows to be too wide for. The
plain operations take such a sum round the end of the words; the traced ones have the steps as well, and
where these are checked a capture ends the program at the first sum that is not a word. -/
namespace SensorRelay

open Binary

structure SourceSettings where
  width : UInt32 := 80
  height : UInt32 := 60
  /-- Frames a second. -/
  targetFps : UInt32 := 30
  /-- The greatest distance noise either way. -/
  noise : UInt16 := 12
  /-- The share of pixels without a return. -/
  dropout : Single := .ofDecimal false 1 (-2)
deriving DecidableEq

/-- The number of chances that a draw tells apart. -/
def chances : Nat := 0x1000000

/-- The random choices for one pixel. -/
structure Draw where
  /-- The chance drawn, in steps of one part of `chances`. -/
  chance : Fin chances := ⟨0, by decide⟩
  /-- Chooses the noise, by its remainder. -/
  jitter : Nat := 0
  /-- The amplitude above the lowest. -/
  strength : Fin 1000 := 0

namespace Draw

/-- The chance as a value in `0 .. 1`, without the end. -/
def fraction (d : Draw) : Single := Format.single.round false d.chance.val chances 0

/-- The noise within `-noise .. noise`. -/
def offset (d : Draw) (noise : UInt16) : Int32 :=
  Int32.ofInt (((d.jitter % (2 * noise.toNat + 1) : Nat) : Int) - noise.toNat)

def amplitude (d : Draw) : UInt16 := UInt16.ofNat (200 + d.strength.val)

end Draw

structure Source where
  settings : SourceSettings
  /-- Frames captured. A word of 64 bits, which would take 2 ^ 64 captures to pass. -/
  frames : Nat := 0
  /-- Chunks emitted, a word like `frames`. -/
  chunks : Nat := 0
  /-- How far the scene has moved, in units of distance. -/
  drift : Nat := 0
deriving DecidableEq

/-- The eight bytes of a number, the low one first. -/
def littleEndian64 (n : Nat) : List UInt8 :=
  (List.range 8).map fun i => UInt8.ofNat (n >>> (8 * i))

namespace Source

/-- The time between two frames. -/
def interval (s : Source) : Nanoseconds := Nanoseconds.perSecond / max s.settings.targetFps.toNat 1

/-- The scene moves on at every tenth frame, and starts again after a thousand units. -/
def step (s : Source) : Source :=
  let frames := s.frames + 1
  { s with frames, drift := if frames % 10 = 0 then (s.drift + 25) % 1000 else s.drift }

/-- The distance of the ramp in column `x`, without noise. -/
def ramp (s : Source) (x : Nat) : Int32 := 800 + Int32.ofNat s.drift + Int32.ofNat x * 10

/-- A distance with a valid return: kept in the range of a sample that is not zero. -/
def toDistance (d : Int32) : UInt16 :=
  if d < 1 then 1 else if 65535 < d then 65535 else UInt16.ofNat d.toInt.toNat

/-- The distance and the amplitude of the `i`-th pixel. -/
def pixel (s : Source) (draw : Draw) (i : Nat) : UInt16 × UInt16 :=
  if draw.fraction.less s.settings.dropout then (Frame.noReturn, 0)
  else
    (toDistance (s.ramp (i % s.settings.width.toNat) + draw.offset s.settings.noise), draw.amplitude)

/-- Captures a frame. The counter moves on even if the settings allow none. -/
def nextFrame (s : Source) (draws : Nat → Draw) : Except FrameError Frame × Source :=
  let s := s.step
  let { width, height, .. } := s.settings
  let pixels := Array.ofFn fun i : Fin (width.toNat * height.toNat) => s.pixel (draws i) i
  (Frame.create s.frames width height (pixels.map (·.1)) (pixels.map (·.2)), s)

/-! ## The same with every step -/

open Traced

def rampTraced (s : Source) (x : Nat) : Traced Int32 := do
  let place ← add32 800 (Int32.ofNat s.drift)
  let slope ← mul32 (Int32.ofNat x) 10
  add32 place slope

/-- The ramp is computed for a pixel without a return too, the noise is not. -/
def pixelTraced (s : Source) (draw : Draw) (i : Nat) : Traced (UInt16 × UInt16) := do
  let base ← s.rampTraced (i % s.settings.width.toNat)
  if draw.fraction.less s.settings.dropout then return (Frame.noReturn, 0)
  else
    let distance ← add32 base (draw.offset s.settings.noise)
    return (toDistance distance, draw.amplitude)

def nextFrameTraced (s : Source) (draws : Nat → Draw) : Traced (Except FrameError Frame × Source) := do
  let s := s.step
  let { width, height, .. } := s.settings
  let pixels ← ofFn fun i : Fin (width.toNat * height.toNat) => s.pixelTraced (draws i) i
  return (Frame.create s.frames width height (pixels.map (·.1)) (pixels.map (·.2)), s)

/-- Emits a chunk with the number of chunks, this one included, and of frames. -/
def nextChunk (s : Source) : List UInt8 × Source :=
  let s := { s with chunks := s.chunks + 1 }
  (Telemetry.encode (littleEndian64 s.chunks ++ littleEndian64 s.frames), s)

end Source

end SensorRelay
