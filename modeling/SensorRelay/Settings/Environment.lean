import SensorRelay.Settings.Basic

/-! # Settings from the environment

Six settings can be given by variables, which go before the file. A variable with a number must hold
one; a blank mode or address is as good as none. -/
namespace SensorRelay

/-- The variables that are set. One that does not hold text is as good as none. -/
structure Environment where
  get? : String → Option (List Char)

/-- Why settings cannot be used. -/
inductive SettingsError where
  | capacityVariable
  | modeVariable
  | byteCapacityVariable
  | timeoutVariable
  | windowVariable
  | noCapacity
  | noByteCapacity
  | denoise
  | requiredSuccesses
  | address (address : List Char)
  | source
deriving DecidableEq

namespace Text

/-- Adds a decimal digit to a number. -/
def addDigit (n : Nat) (c : Char) : Option Nat :=
  if c.isDigit then some (n * 10 + (c.toNat - '0'.toNat)) else none

/-- The digits of a number behind its sign. A plus is no digit, so it can stand only in front of
one. -/
def unsigned : List Char → List Char
  | '+' :: rest => rest
  | cs => cs

/-- A decimal number below `limit`, with a plus in front or without. -/
def natural? (limit : Nat) (cs : List Char) : Option Nat :=
  match unsigned cs with
  | [] => none
  | digits => (digits.foldlM addDigit 0).filter (· < limit)

end Text

namespace Environment

open Text

/-- The number in a variable: none if it is not set, an error if it holds no number below `limit`. -/
def number (env : Environment) (name : String) (limit : Nat) (error : SettingsError) :
    Except SettingsError (Option Nat) :=
  match env.get? name with
  | none => .ok none
  | some text => match natural? limit (trim text) with
    | none => .error error
    | some n => .ok (some n)

/-- A variable's text, unless it is not set or blank. -/
def nonBlank (env : Environment) (name : String) : Option (List Char) :=
  (env.get? name).filter fun text => !text.all isBlank

/-- The way to overflow in a variable. -/
def overflow (env : Environment) (name : String) : Except SettingsError (Option Overflow) :=
  match env.nonBlank name with
  | none => .ok none
  | some text => match Overflow.parse text with
    | none => .error .modeVariable
    | some overflow => .ok (some overflow)

end Environment

/-- The settings with those of the environment put over them. The first bad variable counts. -/
def Settings.override (s : Settings) (env : Environment) : Except SettingsError Settings := do
  let capacity ← env.number "SENSOR_QUEUE_CAPACITY" UInt64.size .capacityVariable
  let overflow ← env.overflow "SENSOR_QUEUE_MODE"
  let byteCapacity ← env.number "SENSOR_QUEUE_BYTE_CAPACITY" UInt64.size .byteCapacityVariable
  let millis ← env.number "SENSOR_QUEUE_DEQUEUE_TIMEOUT_MS" UInt32.size .timeoutVariable
  let address := (env.nonBlank "SENSOR_QUEUE_DEVICE_ADDR").map Text.trim
  let window ← env.number "SENSOR_QUEUE_DENOISE_WINDOW" UInt64.size .windowVariable
  return { s with
    queue := {
      capacity := (capacity.map UInt64.ofNat).getD s.queue.capacity
      overflow := overflow.getD s.queue.overflow
      byteCapacity := (byteCapacity.map UInt64.ofNat).getD s.queue.byteCapacity
      dequeueTimeout :=
        (millis.map fun ms => .ofMillis (UInt32.ofNat ms)).getD s.queue.dequeueTimeout }
    device := { s.device with address := address.or s.device.address }
    denoise := { s.denoise with window := (window.map UInt64.ofNat).getD s.denoise.window } }

end SensorRelay
