import SensorRelay.Checksum
import SensorRelay.ItemQueue

/-! # Depth frames

A frame has a distance and an amplitude for every pixel, row by row, and a checksum over the
distances that is set when the frame is built and when it is sealed again. -/
namespace SensorRelay

/-- The bytes of a number of two bytes, the low one first. -/
def littleEndian16 (n : UInt16) : List UInt8 := [n.toUInt8, (n >>> 8).toUInt8]

structure Frame where
  /-- The place of the frame in its source's order. A word of 64 bits, so below 2 ^ 64. -/
  sequence : Nat
  width : UInt32
  height : UInt32
  distance : Array UInt16
  amplitude : Array UInt16
  checksum : UInt32
deriving DecidableEq

/-- Why no frame can be built. -/
inductive FrameError where
  | noPixels
  | channelLength (expected distance amplitude : Nat)
deriving DecidableEq

def FrameError.message : FrameError → String
  | noPixels => "frame dimensions must be non-zero"
  | channelLength expected distance amplitude =>
    "frame channel length mismatch: expected " ++ toString expected ++ ", distance " ++
      toString distance ++ ", amplitude " ++ toString amplitude

namespace Frame

/-- The distance of a pixel that has no valid return. -/
def noReturn : UInt16 := 0

def pixelCount (f : Frame) : Nat := f.width.toNat * f.height.toNat

/-- The bytes that the checksum covers: the distances, each with its low byte first. -/
def payload (f : Frame) : List UInt8 := f.distance.toList.flatMap littleEndian16

/-- The frame with the checksum of its distances. -/
def sealed (f : Frame) : Frame := { f with checksum := Checksum.crc32 f.payload }

/-- Whether the distances are those that were sealed. -/
def verify (f : Frame) : Bool := Checksum.crc32 f.payload == f.checksum

/-- A sealed frame; both channels need one sample a pixel. -/
def create (sequence : Nat) (width height : UInt32) (distance amplitude : Array UInt16) :
    Except FrameError Frame :=
  let pixels := width.toNat * height.toNat
  if pixels = 0 then .error .noPixels
  else if distance.size ≠ pixels ∨ amplitude.size ≠ pixels then
    .error (.channelLength pixels distance.size amplitude.size)
  else .ok (sealed ⟨sequence, width, height, distance, amplitude, 0⟩)

/-- How many pixels have a valid distance. -/
def validPixels (f : Frame) : Nat := f.distance.toList.countP (· != noReturn)

/-- The frame with other dimensions and the same channels. -/
def resized (f : Frame) (width height : UInt32) : Frame := { f with width, height }

end Frame

/-- A queue of frames. What it discards is released, which cannot fail. -/
abbrev FrameQueue := ItemQueue Frame

def FrameQueue.create (capacity : UInt64) (overflow : Overflow) : Except Failure FrameQueue :=
  ItemQueue.create capacity overflow (some ⟨fun _ => false⟩)

end SensorRelay
