import SensorRelay.Ring
import SensorRelay.Wait

/-! # Bounded queue of bytes

Bytes leave in the order in which they came. A producer never waits and is never refused for lack of
room: what does not fit takes the place of the oldest bytes. -/
namespace SensorRelay

structure ByteQueue where
  capacity : UInt64
  ring : Ring
  /-- One byte a slot; none once the queue is closed. -/
  storage : List UInt8
  closed : Bool
deriving DecidableEq

namespace ByteQueue

def create (capacity : UInt64) : Except Failure ByteQueue := do
  let ring ← Ring.create capacity
  return ⟨capacity, ring, List.replicate capacity.toNat 0, false⟩

/-- The queue with `bytes` put in. Of a run longer than the queue only the end is kept. -/
def enqueue (q : ByteQueue) (bytes : List UInt8) : Except Failure ByteQueue :=
  if q.closed then .error .invalidState
  else if bytes.isEmpty then .ok q
  else
    let kept := bytes.drop (bytes.length - q.capacity.toNat)
    let n := UInt64.ofNat kept.length
    .ok { q with
      storage := (q.ring.run q.ring.next n).write q.storage kept
      ring := q.ring.advance n }

/-- Whether an enqueue wakes the consumers before it returns. One that puts nothing in does not. -/
def enqueueNotifies (q : ByteQueue) (bytes : List UInt8) : Bool :=
  (q.enqueue bytes).isOk && !bytes.isEmpty

/-- Whether a consumer has to wait. -/
def pending (q : ByteQueue) : Bool := !q.closed && q.ring.isEmpty

/-- Moves bytes to the front of `buffer`, and gives their number, the buffer and the queue left. -/
def takeInto (q : ByteQueue) (buffer : List UInt8) :
    Except Failure (Nat × List UInt8 × ByteQueue) :=
  if q.closed then .error .invalidState
  else
    let taken := UInt64.ofNat (min buffer.length q.ring.count.toNat)
    let bytes := (q.ring.run q.ring.oldest taken).read q.storage
    .ok (taken.toNat, bytes ++ buffer.drop taken.toNat, { q with ring := q.ring.retire taken })

/-- A dequeue into `buffer`, as far as the consumer's looks at the queue decide it. -/
def dequeueIntoSeeing (buffer : List UInt8) (timeout : Timeout) (sights : List (Sight ByteQueue)) :
    Option (Except Failure (Nat × List UInt8 × ByteQueue)) :=
  if buffer.isEmpty then some (.error .invalidParameter)
  else match Wait.run pending timeout sights with
    | .ready q => some (q.takeInto buffer)
    | .expired => some (.error .timeout)
    | .asleep => none

/-- A dequeue of at most `max` bytes, as far as the consumer's looks at the queue decide it. -/
def dequeueSeeing (capacity : UInt64) (max : Nat) (timeout : Timeout)
    (sights : List (Sight ByteQueue)) : Option (Except Failure (List UInt8 × ByteQueue)) :=
  if max = 0 then some (.error .invalidParameter)
  else
    let buffer := List.replicate (min max capacity.toNat) 0
    (dequeueIntoSeeing buffer timeout sights).map fun result => do
      let (taken, buffer, q) ← result
      return (buffer.take taken, q)

/-- Fills the front of `buffer`, with no other thread about: the number of bytes, the buffer and the
queue left. There is no result for an endless wait. -/
def dequeueInto (q : ByteQueue) (buffer : List UInt8) (timeout : Timeout) :
    Option (Except Failure (Nat × List UInt8 × ByteQueue)) :=
  dequeueIntoSeeing buffer timeout (timeout.alone q)

/-- Removes at most `max` bytes, oldest first, with no other thread about. -/
def dequeue (q : ByteQueue) (max : Nat) (timeout : Timeout) :
    Option (Except Failure (List UInt8 × ByteQueue)) :=
  dequeueSeeing q.capacity max timeout (timeout.alone q)

def size (q : ByteQueue) : Except Failure Nat :=
  if q.closed then .error .invalidState else .ok q.ring.count.toNat

/-- Discards what is stored and frees the storage. -/
def close (q : ByteQueue) : Except Failure ByteQueue :=
  if q.closed then .error .invalidState
  else .ok { q with ring := q.ring.reset, storage := [], closed := true }

/-- Whether a close wakes the consumers before it returns. -/
def closeNotifies (q : ByteQueue) : Bool := q.close.isOk

end ByteQueue

end SensorRelay
