import SensorRelay.CommandLine
import SensorRelay.Consumer
import SensorRelay.Pipeline
import SensorRelay.Settings.Load

/-! # The relay program

The settings are loaded, the device is probed, the queues are made, and then frames go from the source
to the consumer. -/
namespace SensorRelay

/-- All that a start of the program depends on. -/
structure Surroundings where
  arguments : List (List Char)
  files : Files
  environment : Environment
  /-- What the echo program prints for its arguments, if there is one. -/
  echo : List String → Option (List UInt8)

/-- Why the program fails. -/
inductive RelayError where
  | load (error : LoadError)
  | unreachable (address : List Char)
  | frameQueue (failure : Failure)
  | telemetryQueue (failure : Failure)
  | consumer (error : ConsumerError)
deriving DecidableEq

namespace RelayError

def kind : RelayError → String
  | load e => e.kind
  | _ => "Config"

def message : RelayError → String
  | load e => e.message
  | unreachable address => "sensor " ++ String.ofList address ++ " is not reachable"
  | frameQueue _ => "create frame queue"
  | telemetryQueue _ => "create telemetry queue"
  | consumer e => e.message

end RelayError

/-- A program that is ready to stream. -/
structure Relay where
  pipeline : Pipeline
  consumer : Consumer
  dequeueTimeout : Timeout

/-- How a start ended. -/
inductive Launch where
  | help
  | misuse
  | failed (error : RelayError)
  | ready (relay : Relay)

namespace Relay

/-- The most telemetry that a turn reads. -/
def readSize : Nat := 512

/-- The probe that the settings ask for. -/
def probe? (world : Surroundings) (options : Options) (s : Settings) : Option Probe.Report :=
  if options.skipProbe then none
  else s.device.address.map fun address =>
    Probe.probe world.echo address s.device.requiredSuccesses s.device.probeTimeoutMillis

/-- The queues and the consumer for the settings. -/
def assemble (options : Options) (s : Settings) : Except RelayError Relay := do
  let frames ← (FrameQueue.create s.queue.capacity s.queue.overflow).mapError .frameQueue
  let bytes ← (ByteQueue.create s.queue.byteCapacity).mapError .telemetryQueue
  return {
    pipeline := { source := { settings := s.source }, frames, bytes, denoise := s.denoise }
    consumer := {
      limit := options.frames.getD 0
      denoise := if options.noDenoise then none else some s.denoise }
    dequeueTimeout := s.queue.dequeueTimeout }

/-- Everything before the first frame, and the arguments of the echo program if it was run. -/
def launch (world : Surroundings) : Launch × Option (List String) :=
  match Command.parse world.arguments with
  | .help => (.help, none)
  | .misuse => (.misuse, none)
  | .run options =>
    match Settings.load world.files world.environment options.config with
    | .error e => (.failed (.load e), none)
    | .ok s =>
      let report := probe? world options s
      let arguments := report.bind (·.arguments)
      match report, s.device.address with
      | some ⟨false, _⟩, some address => (.failed (.unreachable address), arguments)
      | _, _ => match assemble options s with
        | .error e => (.failed e, arguments)
        | .ok relay => (.ready relay, arguments)

/-- How streaming stands. -/
inductive Streaming where
  | goesOn (relay : Relay)
  | stopped (consumed : Nat)
  | failed (error : RelayError)
  /-- The capture ended at this step. No frame comes any more, and the consumer waits. -/
  | stalled (step : Machine.Step)

/-- The consumer's telemetry read. -/
def readTelemetry (r : Relay) : Streaming :=
  let (run, bytes) := settle r.pipeline.bytes (r.pipeline.bytes.dequeue readSize .poll)
  match r.consumer.readTelemetry run with
  | .goesOn consumer => .goesOn { r with pipeline := { r.pipeline with bytes }, consumer }
  | .stopped consumed => .stopped consumed
  | .failed e => .failed (.consumer e)

/-- A capture and then a turn of the consumer. -/
def step (r : Relay) (draws : Nat → Draw) : Streaming :=
  if r.consumer.isDone then .stopped r.consumer.consumed
  else
    match (r.pipeline.captureTraced draws).outcome with
    | .error step => .stalled step
    | .ok (_, p) =>
      let (frame, frames) := p.frames.receive r.dequeueTimeout
      let p := { p with frames }
      match r.consumer.takeFrame frame with
      | .telemetry consumer => { r with pipeline := p, consumer }.readTelemetry
      | .nextTurn consumer => .goesOn { r with pipeline := p, consumer }
      | .stopped consumed => .stopped consumed
      | .failed e => .failed (.consumer e)

/-- At most `n` steps. -/
def stream (r : Relay) (draws : Nat → Nat → Draw) : Nat → Streaming
  | 0 => .goesOn r
  | n + 1 => match r.step (draws n) with
    | .goesOn r => r.stream draws n
    | ended => ended

end Relay

end SensorRelay
