import SensorRelay.Relay

/-! # Running the relay

The program starts no other program, so a device that is to be probed counts as one that cannot be
reached. -/
namespace SensorRelay

def usageText : String :=
  "Usage: relay [--config PATH] [--frames N] [--skip-probe] [--no-denoise]"

/-- The variables that the program reads. -/
def variableNames : List String :=
  ["SENSOR_QUEUE_CONFIG", "SENSOR_QUEUE_CAPACITY", "SENSOR_QUEUE_MODE",
    "SENSOR_QUEUE_BYTE_CAPACITY", "SENSOR_QUEUE_DEQUEUE_TIMEOUT_MS", "SENSOR_QUEUE_DEVICE_ADDR",
    "SENSOR_QUEUE_DENOISE_WINDOW"]

def readEnvironment : IO Environment := do
  let found ← variableNames.mapM fun name => return (name, ← IO.getEnv name)
  return ⟨fun name => (found.lookup name).join.map String.toList⟩

/-- The file that the settings come from, with its bytes if it can be read. -/
def readFiles (path : Option (List Char)) : IO Files := do
  match path with
  | none => return fun _ => none
  | some path =>
    try
      let bytes ← IO.FS.readBinFile (String.ofList path)
      return fun other => if other = path then some bytes.toList else none
    catch _ => return fun _ => none

def surroundings (args : List String) : IO Surroundings := do
  let arguments := args.map String.toList
  let environment ← readEnvironment
  let named := environment.get? "SENSOR_QUEUE_CONFIG"
  let files ← match Command.parse arguments with
    | .run options => readFiles (options.config.or named)
    | _ => readFiles none
  return ⟨arguments, files, environment, fun _ => none⟩

/-- Random choices for every pixel of a frame. -/
def draw (s : SourceSettings) : IO (Nat → Draw) := do
  let mut draws := #[]
  for _ in List.range (s.width.toNat * s.height.toNat) do
    let chance ← IO.rand 0 (chances - 1)
    let jitter ← IO.rand 0 (2 * s.noise.toNat)
    let strength ← IO.rand 0 999
    draws := draws.push ⟨⟨chance % chances, Nat.mod_lt _ (by decide)⟩, jitter, Fin.ofNat _ strength⟩
  return fun i => draws.getD i {}

/-- Streams until the consumer or the capture ends. -/
def streamAll (relay : Relay) : IO UInt32 := do
  let mut relay := relay
  repeat
    let draws ← draw relay.pipeline.source.settings
    match relay.step draws with
    | .goesOn next =>
      relay := next
      IO.sleep (UInt32.ofNat (relay.pipeline.source.interval / 1000000))
    | .stopped consumed =>
      let source := relay.pipeline.source
      IO.eprintln ("relay stopped: captured=" ++ toString source.frames ++ " consumed=" ++
        toString consumed ++ " chunks_emitted=" ++ toString source.chunks)
      return 0
    | .failed e =>
      IO.eprintln ("Error: " ++ e.message)
      return 1
    | .stalled step =>
      IO.eprintln ("Error: capture thread panicked: " ++ step.complaint?.getD "")
      return 1
  return 0

end SensorRelay

open SensorRelay in
def main (args : List String) : IO UInt32 := do
  match (Relay.launch (← surroundings args)).1 with
  | .help => IO.println usageText; return 0
  | .misuse => IO.eprintln usageText; return 2
  | .failed e => IO.eprintln ("Error: " ++ e.message); return 1
  | .ready relay => streamAll relay
