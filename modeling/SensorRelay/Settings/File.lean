import SensorRelay.Json.Number
import SensorRelay.Json.Tree
import SensorRelay.Settings.Basic
import SensorRelay.Text.Utf8

/-! # The settings file

A JSON text with four sections. A section may be missing, and so may a setting; null stands for a
missing one. A section is an object, in which unknown keys are passed over, or an array with all its
settings in order. -/
namespace SensorRelay

open Binary

namespace Json

/-- The value under a key: null without one, nothing if the key is there twice. -/
def member? (members : List (List Char × Json)) (key : String) : Option Json :=
  match members.filter fun m => m.1 == key.toList with
  | [] => some .null
  | [(_, value)] => some value
  | _ => none

/-- The values of a section's settings, in the order of `keys`. -/
def section? (keys : List String) : Json → Option (List Json)
  | .array items => if items.length = keys.length then some items else none
  | .object members => do
    let members ← members.mapM fun (key, value) => (text? key).map (·, value)
    keys.mapM (member? members)
  | _ => none

/-- A value that may be null. -/
def optional? {α : Type} (read : Json → Option α) : Json → Option (Option α)
  | .null => some none
  | value => (read value).map some

/-- A whole number below `limit`, written as one. -/
def natural? (limit : Nat) : Json → Option Nat
  | .number n => match n.read with
    | some (.natural k) => if k < limit then some k else none
    | _ => none
  | _ => none

def word16? (j : Json) : Option UInt16 := (j.natural? UInt16.size).map UInt16.ofNat
def word32? (j : Json) : Option UInt32 := (j.natural? UInt32.size).map UInt32.ofNat
def word64? (j : Json) : Option UInt64 := (j.natural? UInt64.size).map UInt64.ofNat

/-- A number as a four-byte value. -/
def single? : Json → Option Single
  | .number n => n.read.map fun
    | .natural k => .ofNat k
    | .negative i => .ofInt i
    | .real x => x.convert .single
  | _ => none

def string? : Json → Option (List Char)
  | .string symbols => text? symbols
  | _ => none

/-- The exact name of a way to overflow. -/
def overflowName? (name : List Char) : Option Overflow :=
  if name = Overflow.avoidDrop.name.toList then some .avoidDrop
  else if name = Overflow.dropOldest.name.toList then some .dropOldest
  else none

/-- A way to overflow: its name, or an object with nothing under its name. -/
def overflow? : Json → Option Overflow
  | .string symbols => (text? symbols).bind overflowName?
  | .object [(key, .null)] => (text? key).bind overflowName?
  | _ => none

end Json

open Json

def QueueFile.ofJson? (j : Json) : Option QueueFile := do
  match ← j.section? ["capacity", "mode", "byte_capacity", "dequeue_timeout_ms"] with
  | [capacity, overflow, byteCapacity, timeout] =>
    return ⟨← optional? word64? capacity, ← optional? overflow? overflow,
      ← optional? word64? byteCapacity, ← optional? word32? timeout⟩
  | _ => none

def DeviceFile.ofJson? (j : Json) : Option DeviceFile := do
  match ← j.section? ["addr", "required_successes", "probe_timeout_ms"] with
  | [address, successes, timeout] =>
    return ⟨← optional? string? address, ← optional? word32? successes, ← optional? word32? timeout⟩
  | _ => none

def DenoiseFile.ofJson? (j : Json) : Option DenoiseFile := do
  match ← j.section? ["window", "sigma_spatial", "sigma_range"] with
  | [window, spatial, range] =>
    return ⟨← optional? word64? window, ← optional? single? spatial, ← optional? single? range⟩
  | _ => none

def SourceFile.ofJson? (j : Json) : Option SourceFile := do
  match ← j.section? ["width", "height", "target_fps", "noise", "dropout"] with
  | [width, height, fps, noise, dropout] =>
    return ⟨← optional? word32? width, ← optional? word32? height, ← optional? word32? fps,
      ← optional? word16? noise, ← optional? single? dropout⟩
  | _ => none

def SettingsFile.ofJson? (j : Json) : Option SettingsFile := do
  match ← j.section? ["queue", "device", "denoise", "source"] with
  | [queue, device, denoise, source] =>
    return ⟨(← optional? QueueFile.ofJson? queue).getD {},
      (← optional? DeviceFile.ofJson? device).getD {},
      (← optional? DenoiseFile.ofJson? denoise).getD {},
      (← optional? SourceFile.ofJson? source).getD {}⟩
  | _ => none

/-- Why a settings file cannot be used. -/
inductive FileError where
  /-- There is no such file, or it is not text. -/
  | unreadable
  /-- The text is not JSON, or a setting does not have its type. -/
  | malformed
deriving DecidableEq

/-- Reads a settings file's bytes. -/
def SettingsFile.read (bytes : Option (List UInt8)) : Except FileError SettingsFile :=
  match bytes.bind Text.Utf8.decode? with
  | none => .error .unreadable
  | some text => match (Json.parse? text).bind SettingsFile.ofJson? with
    | none => .error .malformed
    | some file => .ok file

end SensorRelay
