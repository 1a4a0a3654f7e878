import SensorRelay.Overflow
import SensorRelay.Ring
import SensorRelay.Wait

/-! # Bounded queue of owned items

Items leave in the order in which they came. An item that the queue discards goes to a destructor
before the call returns. A destructor can fail: then the call ends where it stands, and the queue is
poisoned and refuses every later call, so that nothing can see the half-done change. -/
namespace SensorRelay

/-- What a queue does with a discarded item. -/
structure Destructor (α : Type) where
  /-- The items that it fails on. -/
  fails : α → Bool

structure ItemQueue (α : Type) where
  capacity : UInt64
  overflow : Overflow
  /-- Without one, a discarded item just ends. -/
  destructor : Option (Destructor α)
  ring : Ring
  /-- One item or none a slot; no slots once the queue is closed. -/
  slots : Array (Option α)
  closed : Bool
  poisoned : Bool

namespace ItemQueue

/-- How a call ended. -/
inductive Ending (α ρ : Type) where
  | returned (result : ρ)
  /-- The destructor failed on this item. -/
  | failedOn (item : α)
deriving DecidableEq

/-- What a call did: how it ended, the items that the destructor finished in order, and the queue
left. -/
structure Effect (α ρ : Type) where
  ending : Ending α ρ
  destroyed : List α
  queue : ItemQueue α

variable {α ρ : Type}

/-- The ending with another result, where there is one. -/
def Ending.map {ω : Type} (f : ρ → ω) : Ending α ρ → Ending α ω
  | .returned result => .returned (f result)
  | .failedOn item => .failedOn item

/-- Whether an enqueue or a close that ended so has woken consumers before it returned. -/
def Ending.notifies {ε : Type} : Ending α (Except ε Unit) → Bool
  | .returned (.ok ()) => true
  | _ => false

def Effect.map {ω : Type} (f : ρ → ω) (e : Effect α ρ) : Effect α ω :=
  ⟨e.ending.map f, e.destroyed, e.queue⟩

def Effect.returning (q : ItemQueue α) (result : ρ) : Effect α ρ := ⟨.returned result, [], q⟩

def create (capacity : UInt64) (overflow : Overflow) (destructor : Option (Destructor α)) :
    Except Failure (ItemQueue α) := do
  let ring ← Ring.create capacity
  return ⟨capacity, overflow, destructor, ring, Array.replicate capacity.toNat none, false, false⟩

/-- Whether calls are refused. -/
def isClosed (q : ItemQueue α) : Bool := q.poisoned || q.closed

/-- The item in a slot. -/
def item? (slots : Array (Option α)) (slot : UInt64) : Option α := slots[slot.toNat]?.join

/-- The slots with one of them emptied. -/
def vacate (slots : Array (Option α)) (slot : UInt64) : Array (Option α) :=
  slots.setIfInBounds slot.toNat none

/-- What discarding one item does: the items finished, and whether the destructor failed. -/
def discard (destructor : Option (Destructor α)) (item : α) : List α × Bool :=
  match destructor with
  | none => ([], false)
  | some d => if d.fails item then ([], true) else ([item], false)

/-- How far a drain came. -/
structure Drained (α : Type) where
  slots : Array (Option α)
  destroyed : List α
  failedOn : Option α

/-- Empties the `n` taken slots from the `k`-th on, oldest first, until the destructor fails. -/
def drainFrom (destructor : Option (Destructor α)) (ring : Ring) :
    Nat → UInt64 → Array (Option α) → Drained α
  | 0, _, slots => ⟨slots, [], none⟩
  | n + 1, k, slots =>
    let slot := ring.slotAt k
    match item? slots slot with
    | none => drainFrom destructor ring n (k + 1) slots
    | some item =>
      let slots := vacate slots slot
      let (destroyed, failed) := discard destructor item
      if failed then ⟨slots, destroyed, some item⟩
      else
        let rest := drainFrom destructor ring n (k + 1) slots
        { rest with destroyed := destroyed ++ rest.destroyed }

/-- Discards every stored item. -/
def drain (q : ItemQueue α) : Effect α Unit :=
  let drained := drainFrom q.destructor q.ring q.ring.count.toNat 0 q.slots
  match drained.failedOn with
  | some item => ⟨.failedOn item, drained.destroyed, { q with slots := drained.slots, poisoned := true }⟩
  | none =>
    ⟨.returned (), drained.destroyed, { q with slots := drained.slots, ring := q.ring.reset }⟩

/-- Puts an item into the next slot. -/
def store (q : ItemQueue α) (item : α) : ItemQueue α :=
  { q with
    slots := q.slots.setIfInBounds q.ring.next.toNat (some item)
    ring := q.ring.advance 1 }

/-- Discards the oldest item. -/
def evict (q : ItemQueue α) : Effect α Unit :=
  match item? q.slots q.ring.oldest with
  | none => .returning { q with ring := q.ring.retire 1 } ()
  | some item =>
    let q := { q with slots := vacate q.slots q.ring.oldest }
    let (destroyed, failed) := discard q.destructor item
    if failed then ⟨.failedOn item, destroyed, { q with poisoned := true }⟩
    else ⟨.returned (), destroyed, { q with ring := q.ring.retire 1 }⟩

/-- Stores an item, or hands it back. -/
def enqueue (q : ItemQueue α) (item : α) : Effect α (Except (Refusal α) Unit) :=
  if q.isClosed then .returning q (.error ⟨.invalidState, item⟩)
  else if q.ring.isFull then
    match q.overflow with
    | .avoidDrop => .returning q (.error ⟨.queueFull, item⟩)
    | .dropOldest =>
      let evicted := q.evict
      match evicted.ending with
      | .failedOn oldest => ⟨.failedOn oldest, evicted.destroyed, evicted.queue⟩
      | .returned () => ⟨.returned (.ok ()), evicted.destroyed, evicted.queue.store item⟩
  else .returning (q.store item) (.ok ())

/-- Whether a consumer has to wait. -/
def pending (q : ItemQueue α) : Bool := !q.isClosed && q.ring.isEmpty

/-- Takes what is in the oldest slot and frees the slot, whether there was an item in it or not. -/
def take (q : ItemQueue α) : Except Failure (Option α × ItemQueue α) :=
  if q.isClosed then .error .invalidState
  else .ok (item? q.slots q.ring.oldest,
    { q with slots := vacate q.slots q.ring.oldest, ring := q.ring.retire 1 })

/-- What the caller of a dequeue gets. A slot without an item counts as an invalid state. -/
def delivered : Except Failure (Option α) → Except Failure α
  | .ok (some item) => .ok item
  | .ok none => .error .invalidState
  | .error f => .error f

/-- A dequeue, as far as the consumer's looks at the queue decide it. -/
def dequeueSeeing (timeout : Timeout) (sights : List (Sight (ItemQueue α))) :
    Option (Except Failure (Option α × ItemQueue α)) :=
  match Wait.run pending timeout sights with
  | .ready q => some q.take
  | .expired => some (.error .timeout)
  | .asleep => none

/-- Removes the oldest item, with no other thread about. There is no result for an endless wait. -/
def dequeue (q : ItemQueue α) (timeout : Timeout) :
    Option (Except Failure (Option α × ItemQueue α)) :=
  dequeueSeeing timeout (timeout.alone q)

/-- What the caller of such a dequeue gets, and the queue left. -/
def receive (q : ItemQueue α) (timeout : Timeout) : Except Failure α × ItemQueue α :=
  let (taken, left) := settle q (q.dequeue timeout)
  (delivered taken, left)

def size (q : ItemQueue α) : Except Failure Nat :=
  if q.isClosed then .error .invalidState else .ok q.ring.count.toNat

/-- Discards every stored item, and gives their number. -/
def clear (q : ItemQueue α) : Effect α (Except Failure Nat) :=
  if q.isClosed then .returning q (.error .invalidState)
  else
    let drained := q.drain
    match drained.ending with
    | .failedOn item => ⟨.failedOn item, drained.destroyed, drained.queue⟩
    | .returned () => ⟨.returned (.ok q.ring.count.toNat), drained.destroyed, drained.queue⟩

/-- Discards every stored item and frees the slots. -/
def close (q : ItemQueue α) : Effect α (Except Failure Unit) :=
  if q.isClosed then .returning q (.error .invalidState)
  else
    let drained := q.drain
    match drained.ending with
    | .failedOn item => ⟨.failedOn item, drained.destroyed, drained.queue⟩
    | .returned () =>
      ⟨.returned (.ok ()), drained.destroyed, { drained.queue with slots := #[], closed := true }⟩

/-- The end of the queue itself: what is stored goes to the destructor, unless the queue is closed or
poisoned. -/
def release (q : ItemQueue α) : Effect α Unit :=
  if q.isClosed then .returning q () else q.drain

/-- A dequeue that is called first, with a `call` that another thread makes at `moment`: the results
of both. Where the destructor fails in the call, that is how the two end. -/
def dequeueBeside {ω : Type} (q : ItemQueue α) (timeout : Timeout)
    (call : ItemQueue α → Effect α ω) (moment : Nanoseconds) : Option (Effect α (Except Failure α × ω)) := do
  let made (q : ItemQueue α) := let e := call q; (e, e.queue)
  let (taken, e, q) ← overtake (dequeueSeeing timeout) made timeout moment q
  return { e.map (delivered taken, ·) with queue := q }

end ItemQueue

end SensorRelay
