import SensorRelay.Bilateral
import SensorRelay.ByteQueue
import SensorRelay.Source
import SensorRelay.Telemetry.Decoder

/-! # From the source to the consumer

A source feeds two queues: one of frames and one with the bytes of its telemetry. The consumer filters
frames and puts the bytes together again. -/
namespace SensorRelay

structure Pipeline where
  source : Source
  frames : FrameQueue
  bytes : ByteQueue
  denoise : Bilateral
  decoder : Telemetry.Decoder := {}

/-- What a capture did to the frame queue, if there was a frame, and whether its chunk was stored. -/
structure Captured where
  frame : Except FrameError (ItemQueue.Effect Frame (Except (Refusal Frame) Unit))
  chunk : Except Failure Unit

/-- A frame that was consumed: whether its checksum was right before and after the filter, what the
filter said, and the frame sealed in the end. -/
structure Consumed where
  verified : Bool
  denoised : Except Failure Unit
  unchanged : Bool
  frame : Frame

/-- Telemetry that was read: the number of bytes and the payloads that they complete. -/
structure TelemetryRead where
  bytes : Nat
  payloads : List (List UInt8)
deriving DecidableEq

namespace Pipeline

/-- The frame queue is made before the byte queue. -/
def create (source : SourceSettings) (capacity : UInt64) (overflow : Overflow)
    (byteCapacity : UInt64) (denoise : Bilateral) : Except Failure Pipeline := do
  let frames ← FrameQueue.create capacity overflow
  let bytes ← ByteQueue.create byteCapacity
  return { source := { settings := source }, frames, bytes, denoise }

/-- Puts a captured frame into the frame queue. -/
def offer (frames : FrameQueue) :
    Except FrameError Frame →
      Except FrameError (ItemQueue.Effect Frame (Except (Refusal Frame) Unit)) × FrameQueue
  | .error e => (.error e, frames)
  | .ok frame =>
    let effect := frames.enqueue frame
    (.ok effect, effect.queue)

/-- Puts a chunk into the byte queue. -/
def offerChunk (bytes : ByteQueue) (chunk : List UInt8) : Except Failure Unit × ByteQueue :=
  match bytes.enqueue chunk with
  | .error f => (.error f, bytes)
  | .ok bytes => (.ok (), bytes)

/-- Puts what a capture gave, and then the source's next chunk, into the queues. -/
def deliver (p : Pipeline) : Except FrameError Frame × Source → Captured × Pipeline
  | (frame, source) =>
    let (frame, frames) := offer p.frames frame
    let (chunk, source) := source.nextChunk
    let (chunk, bytes) := offerChunk p.bytes chunk
    (⟨frame, chunk⟩, { p with source, frames, bytes })

/-- Puts the source's next frame and then its next chunk into the queues. -/
def capture (p : Pipeline) (draws : Nat → Draw) : Captured × Pipeline :=
  p.deliver (p.source.nextFrame draws)

/-- The same with the steps of the capture. The queues come to no step that is not sound. -/
def captureTraced (p : Pipeline) (draws : Nat → Draw) : Traced (Captured × Pipeline) :=
  p.deliver <$> p.source.nextFrameTraced draws

/-- Filters a frame and seals it. -/
def process (denoise : Bilateral) (f : Frame) : Consumed :=
  let denoised := denoise.apply f
  let filtered := match denoised with
    | .ok g => g
    | .error _ => f
  ⟨f.verify, denoised.map fun _ => (), filtered.verify, filtered.sealed⟩

/-- Takes the oldest frame, without waiting, and filters it. -/
def consume (p : Pipeline) : Except Failure Consumed × Pipeline :=
  let (frame, frames) := p.frames.receive .poll
  (frame.map (process p.denoise), { p with frames })

/-- Moves at most `max` bytes to the decoder, without waiting. -/
def readTelemetry (p : Pipeline) (max : Nat) : Except Failure TelemetryRead × Pipeline :=
  match settle p.bytes (p.bytes.dequeue max .poll) with
  | (.error f, bytes) => (.error f, { p with bytes })
  | (.ok run, bytes) =>
    let (payloads, decoder) := p.decoder.push run
    (.ok ⟨run.length, payloads⟩, { p with bytes, decoder })

def clear (p : Pipeline) : ItemQueue.Effect Frame (Except Failure Nat) × Pipeline :=
  let effect := p.frames.clear
  (effect, { p with frames := effect.queue })

def closeFrames (p : Pipeline) : ItemQueue.Effect Frame (Except Failure Unit) × Pipeline :=
  let effect := p.frames.close
  (effect, { p with frames := effect.queue })

def closeBytes (p : Pipeline) : Except Failure Pipeline :=
  p.bytes.close.map fun bytes => { p with bytes }

end Pipeline

end SensorRelay
