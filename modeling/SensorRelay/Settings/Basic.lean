import SensorRelay.Bilateral
import SensorRelay.Probe.Address
import SensorRelay.Source

/-! # Settings of the relay

Every setting may come from a file and has a default. -/
namespace SensorRelay

open Binary

structure QueueSettings where
  /-- The slots of the frame queue. -/
  capacity : UInt64 := 8
  overflow : Overflow := .dropOldest
  /-- The bytes of the telemetry queue. -/
  byteCapacity : UInt64 := 4096
  dequeueTimeout : Timeout := .ofMillis 200
deriving DecidableEq

structure DeviceSettings where
  /-- The device to probe; without one there is no probe. -/
  address : Option (List Char) := none
  /-- The number of replies that a probe needs. -/
  requiredSuccesses : UInt32 := 2
  probeTimeoutMillis : UInt32 := 1000
deriving DecidableEq

structure Settings where
  queue : QueueSettings := {}
  device : DeviceSettings := {}
  denoise : Bilateral := .standard
  source : SourceSettings := {}
deriving DecidableEq

/-- The queue settings that a file gives. -/
structure QueueFile where
  capacity : Option UInt64 := none
  overflow : Option Overflow := none
  byteCapacity : Option UInt64 := none
  dequeueTimeoutMillis : Option UInt32 := none
deriving DecidableEq

/-- The device settings that a file gives. -/
structure DeviceFile where
  address : Option (List Char) := none
  requiredSuccesses : Option UInt32 := none
  probeTimeoutMillis : Option UInt32 := none
deriving DecidableEq

/-- The filter settings that a file gives. -/
structure DenoiseFile where
  window : Option UInt64 := none
  sigmaSpatial : Option Single := none
  sigmaRange : Option Single := none
deriving DecidableEq

/-- The source settings that a file gives. -/
structure SourceFile where
  width : Option UInt32 := none
  height : Option UInt32 := none
  targetFps : Option UInt32 := none
  noise : Option UInt16 := none
  dropout : Option Single := none
deriving DecidableEq

/-- The settings that a file gives. -/
structure SettingsFile where
  queue : QueueFile := {}
  device : DeviceFile := {}
  denoise : DenoiseFile := {}
  source : SourceFile := {}
deriving DecidableEq

def QueueFile.settings (f : QueueFile) : QueueSettings :=
  let default : QueueSettings := {}
  { capacity := f.capacity.getD default.capacity
    overflow := f.overflow.getD default.overflow
    byteCapacity := f.byteCapacity.getD default.byteCapacity
    dequeueTimeout := (f.dequeueTimeoutMillis.map Timeout.ofMillis).getD default.dequeueTimeout }

/-- A blank address is none. -/
def DeviceFile.settings (f : DeviceFile) : DeviceSettings :=
  let default : DeviceSettings := {}
  { address := f.address.filter fun a => !a.all Text.isBlank
    requiredSuccesses := f.requiredSuccesses.getD default.requiredSuccesses
    probeTimeoutMillis := f.probeTimeoutMillis.getD default.probeTimeoutMillis }

def DenoiseFile.settings (f : DenoiseFile) : Bilateral :=
  { window := f.window.getD Bilateral.standard.window
    sigmaSpatial := f.sigmaSpatial.getD Bilateral.standard.sigmaSpatial
    sigmaRange := f.sigmaRange.getD Bilateral.standard.sigmaRange }

def SourceFile.settings (f : SourceFile) : SourceSettings :=
  let default : SourceSettings := {}
  { width := f.width.getD default.width
    height := f.height.getD default.height
    targetFps := f.targetFps.getD default.targetFps
    noise := f.noise.getD default.noise
    dropout := f.dropout.getD default.dropout }

def SettingsFile.settings (f : SettingsFile) : Settings :=
  ⟨f.queue.settings, f.device.settings, f.denoise.settings, f.source.settings⟩

end SensorRelay
