import SensorRelay.Probe.Address
import SensorRelay.Probe.Reply
import SensorRelay.Text.Utf8
import SensorRelay.Wait

/-! # Probing a device

Before frames are streamed the device is asked for echoes. The program that asks is outside; here are
its arguments, the wait for its end and what its output means. -/
namespace SensorRelay.Probe

/-- The greatest number of replies that can be asked for. -/
def maxRequired : UInt32 := 64

/-- The number of replies that a probe waits for: at least one, at most the greatest. -/
def required (n : UInt32) : UInt32 := min (max n 1) maxRequired

/-- One request more than the replies, so that one may get lost. -/
def attempts (n : UInt32) : UInt32 := required n + 1

/-- The wait for a reply in whole seconds, rounded up and at least one. -/
def waitSeconds (timeoutMillis : UInt32) : Nat := max ((timeoutMillis.toNat + 999) / 1000) 1

def arguments (address : List Char) (n timeoutMillis : UInt32) : List String :=
  ["-c", toString (attempts n).toNat, "-W", toString (waitSeconds timeoutMillis),
    String.ofList address]

/-- The time that the echo program has: for every request a second and the wait for its reply, and two
seconds more. -/
def budget (n timeoutMillis : UInt32) : Nanoseconds :=
  .ofMillis (timeoutMillis.toNat + 1000) * (attempts n).toNat + .ofParts 2 0

/-- What a look at the echo program shows. -/
inductive Status where
  | running
  | ended (code : Int)
  /-- It cannot be told. -/
  | unknown
deriving DecidableEq

/-- A run of the echo program. -/
structure Run where
  /-- The clock when it has been started. -/
  start : Nanoseconds
  /-- What each look shows, and the clock right behind it. -/
  looks : List (Sight Status)
  /-- All that the program prints, if that can be read. -/
  output : Option (List UInt8)

/-- Why there is no output. -/
inductive EchoError where
  | notStarted
  | late
  | lost
  | unreadable
deriving DecidableEq

namespace Run

/-- The program has ended at the first look. -/
def ofOutput (output : List UInt8) : Run := ⟨0, [⟨.ended 0, 0⟩], some output⟩

/-- What comes of a run, which is not known while the program is still running. How it ends does not
matter, only when. -/
def result (run : Run) (budget : Nanoseconds) : Option (Except EchoError (List UInt8)) :=
  let timeout := Timeout.after budget
  match Wait.watch (· == .running) timeout (timeout.deadline run.start) run.looks with
  | .asleep => none
  | .expired => some (.error .late)
  | .ready (.ended _) => some (match run.output with
    | some output => .ok output
    | none => .error .unreadable)
  | .ready _ => some (.error .lost)

theorem result_ofOutput (output : List UInt8) (budget : Nanoseconds) :
    (ofOutput output).result budget = some (.ok output) := rfl

end Run

/-- What a check of a device does. -/
structure Check where
  /-- The arguments with which it tries to start the echo program, if it does. -/
  started : Option (List String)
  /-- Whether the device is reachable, as soon as that is known. -/
  reachable : Option Bool

/-- Whether enough replies have come: none have without output. -/
def isEnough (n : UInt32) : Except EchoError (List UInt8) → Bool
  | .ok output => decide ((required n).toNat ≤ countReplies (Text.Utf8.decodeLossy output))
  | .error _ => false

/-- Checks an address. `start` starts the echo program with its arguments, if there is one. -/
def check (start : List String → Option Run) (address : List Char) (n timeoutMillis : UInt32) :
    Check :=
  if isAddress address then
    let arguments := arguments address n timeoutMillis
    let result : Option (Except EchoError (List UInt8)) := match start arguments with
      | none => some (.error .notStarted)
      | some run => run.result (budget n timeoutMillis)
    ⟨some arguments, result.map (isEnough n)⟩
  else ⟨none, some false⟩

/-- A probe's result, and the arguments of the echo program if it was run. -/
structure Report where
  reachable : Bool
  arguments : Option (List String)
deriving DecidableEq

/-- Probes an address. `echo` gives the bytes that the echo program prints for its arguments, and
nothing where there is no such program. -/
def probe (echo : List String → Option (List UInt8)) (address : List Char)
    (n timeoutMillis : UInt32) : Report :=
  let c := check (fun arguments => (echo arguments).map .ofOutput) address n timeoutMillis
  ⟨c.reachable == some true, c.started.filter fun arguments => (echo arguments).isSome⟩

end SensorRelay.Probe
