import SensorRelay.Failure
import SensorRelay.Machine

/-! # Circular slot indices

A ring says which of `capacity` slots are taken and where the next write lands. It holds no items.
The taken slots are the `count` slots that end just before `next`, counted around the end. Indices
are machine words, and a sum of two of them need not be one. The plain operations take such a sum round
the end of the words; the traced ones give the same values with the sums in them, so that their outcome
is where a program ends that checks its sums. -/
namespace SensorRelay

structure Ring where
  capacity : UInt64
  /-- The slot of the next write. -/
  next : UInt64 := 0
  count : UInt64 := 0
deriving DecidableEq

namespace Ring

def empty (capacity : UInt64) : Ring := ⟨capacity, 0, 0⟩

/-- The first size that no allocation can have. -/
def allocationLimit : UInt64 := 0x8000000000000000

/-- The empty ring of a new queue. -/
def create (capacity : UInt64) : Except Failure Ring :=
  if capacity = 0 then .error .invalidParameter
  else if allocationLimit ≤ capacity then .error .outOfMemory
  else .ok (empty capacity)

def isFull (r : Ring) : Bool := r.count == r.capacity

def isEmpty (r : Ring) : Bool := r.count == 0

def free (r : Ring) : UInt64 := r.capacity - r.count

/-- The slot of the entry `k` places after the oldest. -/
def slotAt (r : Ring) (k : UInt64) : UInt64 := (r.next + r.capacity - r.count + k) % r.capacity

/-- The slot of the oldest entry, if there is one. -/
def oldest (r : Ring) : UInt64 := r.slotAt 0

/-- Takes the `n` slots from `next`. Entries that these writes reach are lost. Any word may be asked for;
where it is too large for the sums, this is what the words are left with. -/
def advance (r : Ring) (n : UInt64) : Ring :=
  { r with next := (r.next + n) % r.capacity, count := min (r.count + n) r.capacity }

/-- Frees the slots of the `n` oldest entries. -/
def retire (r : Ring) (n : UInt64) : Ring := { r with count := r.count - min n r.count }

def reset (r : Ring) : Ring := empty r.capacity

/-! ## The same with every step -/

open Traced

def slotAtTraced (r : Ring) (k : UInt64) : Traced UInt64 := do
  check (.below k.toNat r.capacity.toNat)
  let past ← add r.next r.capacity
  let first ← sub past r.count
  let slot ← add first k
  mod slot r.capacity

def oldestTraced (r : Ring) : Traced UInt64 := r.slotAtTraced 0

def advanceTraced (r : Ring) (n : UInt64) : Traced Ring := do
  let past ← add r.next n
  let next ← mod past r.capacity
  let count ← add r.count n
  return { r with next, count := min count r.capacity }

def retireTraced (r : Ring) (n : UInt64) : Traced Ring := do
  check (.atMost n.toNat r.count.toNat)
  let count ← sub r.count (min n r.count)
  return { r with count }

end Ring

/-- A run of consecutive slots of a ring: `head` slots from `start`, then `tail` slots from 0. -/
structure Run where
  start : UInt64
  head : UInt64
  tail : UInt64
deriving DecidableEq

namespace Ring

/-- The `n` slots from `start`, cut where they pass the end. -/
def run (r : Ring) (start n : UInt64) : Run :=
  let head := min n (r.capacity - start)
  ⟨start, head, n - head⟩

end Ring

namespace Run

/-- What `storage` holds in the run. -/
def read (run : Run) (storage : List UInt8) : List UInt8 :=
  (storage.drop run.start.toNat).take run.head.toNat ++ storage.take run.tail.toNat

/-- `storage` with `bytes` put over its items from `start`. -/
private def overlay (storage : List UInt8) (start : Nat) (bytes : List UInt8) : List UInt8 :=
  storage.take start ++ bytes ++ storage.drop (start + bytes.length)

/-- `storage` with `bytes` in the run. -/
def write (run : Run) (storage bytes : List UInt8) : List UInt8 :=
  let storage := overlay storage run.start.toNat (bytes.take run.head.toNat)
  overlay storage 0 (bytes.drop run.head.toNat)

end Run

end SensorRelay
