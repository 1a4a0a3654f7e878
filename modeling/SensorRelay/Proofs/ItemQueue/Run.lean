import SensorRelay.ItemQueue

/-! # Runs of a queue of items

A run is a list of calls, made one after the other with nobody else about. It leaves the queue and a
record of what each call returned and what it destroyed.
-/
namespace SensorRelay
namespace ItemQueue
variable {α : Type}

/-- The operations on a queue that can be called in any order. -/
inductive Call (α : Type) where
  | enqueue (item : α)
  | dequeue (timeout : Timeout)
  | clear
  | size
  | isClosed
  | close
deriving DecidableEq

inductive Answer (α : Type) where
  | stored (result : Except (Refusal α) Unit)
  /-- There is none for a call that sleeps for ever. -/
  | taken (result : Option (Except Failure α))
  | number (result : Except Failure Nat)
  | flag (value : Bool)
  | done (result : Except Failure Unit)

/-- One call of a run, how it ended and the items that the destructor finished in it. -/
structure Event (α : Type) where
  call : Call α
  ending : Ending α (Answer α)
  destroyed : List α

/-- A dequeue that is refused, runs out of time or sleeps leaves the queue alone. -/
def dequeueEffect (q : ItemQueue α) (timeout : Timeout) : Effect α (Option (Except Failure α)) :=
  match q.dequeue timeout with
  | none => .returning q none
  | some (.error f) => .returning q (some (.error f))
  | some (.ok (item, left)) => .returning left (some (delivered (.ok item)))

def perform (q : ItemQueue α) : Call α → Effect α (Answer α)
  | .enqueue item => (q.enqueue item).map .stored
  | .dequeue timeout => (q.dequeueEffect timeout).map .taken
  | .clear => q.clear.map .number
  | .size => .returning q (.number q.size)
  | .isClosed => .returning q (.flag q.isClosed)
  | .close => q.close.map .done

def run (q : ItemQueue α) : List (Call α) → List (Event α) × ItemQueue α
  | [] => ([], q)
  | call :: later =>
    let effect := q.perform call
    let (events, left) := effect.queue.run later
    (⟨call, effect.ending, effect.destroyed⟩ :: events, left)

/-- The items whose enqueue succeeded, in order. -/
def accepted (events : List (Event α)) : List α :=
  events.flatMap fun event => match event.call, event.ending with
    | .enqueue item, .returned (.stored (.ok ())) => [item]
    | _, _ => []

/-- The items that left, in order: to the destructor, or to the caller of a dequeue. -/
def departed (events : List (Event α)) : List α :=
  events.flatMap fun event => event.destroyed ++ match event.ending with
    | .returned (.taken (some (.ok item))) => [item]
    | _ => []

end ItemQueue
end SensorRelay
