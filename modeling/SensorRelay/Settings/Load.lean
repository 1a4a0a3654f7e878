import SensorRelay.Probe.Reachable
import SensorRelay.Settings.Environment
import SensorRelay.Settings.File
import SensorRelay.Text.Quoted

/-! # Loading the settings

The file, then the environment over it, then a check of the result. -/
namespace SensorRelay

/-- The text for a settings error. -/
def SettingsError.message : SettingsError → String
  | capacityVariable => "SENSOR_QUEUE_CAPACITY must be a positive integer"
  | modeVariable => "SENSOR_QUEUE_MODE must be avoid_drop or drop_oldest"
  | byteCapacityVariable => "SENSOR_QUEUE_BYTE_CAPACITY must be a positive integer"
  | timeoutVariable =>
    "SENSOR_QUEUE_DEQUEUE_TIMEOUT_MS must be an integer number of milliseconds"
  | windowVariable => "SENSOR_QUEUE_DENOISE_WINDOW must be an odd integer >= 3"
  | noCapacity => "queue capacity must be greater than zero"
  | noByteCapacity => "byte queue capacity must be greater than zero"
  | denoise => "denoise window must be odd and >= 3 with positive sigmas"
  | requiredSuccesses =>
    "device required_successes must be between 1 and " ++ toString Probe.maxRequired.toNat
  | address a =>
    "device address " ++ String.ofList (Text.quote a) ++ " is not a host name or IP"
  | source => "source dimensions and fps must be greater than zero"

namespace Settings

/-- The first rule that the settings break, if they break one. -/
def fault? (s : Settings) : Option SettingsError :=
  if s.queue.capacity = 0 then some .noCapacity
  else if s.queue.byteCapacity = 0 then some .noByteCapacity
  else if !s.denoise.isValid then some .denoise
  else if s.device.requiredSuccesses = 0 ∨ Probe.maxRequired < s.device.requiredSuccesses then
    some .requiredSuccesses
  else match s.device.address.filter fun a => !Probe.isAddress a with
    | some a => some (.address a)
    | none =>
      if s.source.width = 0 ∨ s.source.height = 0 ∨ s.source.targetFps = 0 then some .source
      else none

/-- The settings of a file and an environment. -/
def resolve (file : SettingsFile) (env : Environment) : Except SettingsError Settings := do
  let s ← file.settings.override env
  match s.fault? with
  | some error => throw error
  | none => return s

end Settings

/-- Why settings cannot be loaded. -/
inductive LoadError where
  | file (error : FileError)
  | settings (error : SettingsError)
deriving DecidableEq

namespace LoadError

def kind : LoadError → String
  | file .unreadable => "ConfigRead"
  | file .malformed => "ConfigParse"
  | settings _ => "Config"

def message : LoadError → String
  | file .unreadable => "failed to read config file"
  | file .malformed => "invalid config file"
  | settings e => e.message

end LoadError

/-- The files that can be read. -/
abbrev Files := List Char → Option (List UInt8)

namespace Settings

/-- Loads the settings from the file at `path`, if one is given, and the environment. -/
def loadFrom (files : Files) (env : Environment) (path : Option (List Char)) :
    Except LoadError Settings := do
  let file ← match path with
    | some path => (SettingsFile.read (files path)).mapError .file
    | none => pure {}
  (resolve file env).mapError .settings

/-- Loads the settings from the file at `path`, or else from the one that the environment names. -/
def load (files : Files) (env : Environment) (path : Option (List Char)) :
    Except LoadError Settings :=
  loadFrom files env (path.or (env.get? "SENSOR_QUEUE_CONFIG"))

end Settings

end SensorRelay
