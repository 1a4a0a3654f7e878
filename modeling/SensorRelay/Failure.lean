/-! # Why a queue refuses a call -/
namespace SensorRelay

/-- Why a queue operation failed. -/
inductive Failure where
  /-- A capacity of zero, a request for zero bytes or a malformed argument. -/
  | invalidParameter
  /-- The storage cannot be allocated. -/
  | outOfMemory
  /-- The queue is full and keeps what it holds. -/
  | queueFull
  /-- Nothing arrived before the timeout. -/
  | timeout
  /-- The queue is closed, or a destructor failed inside it. -/
  | invalidState
deriving DecidableEq

namespace Failure

def all : List Failure := [.invalidParameter, .outOfMemory, .queueFull, .timeout, .invalidState]

def name : Failure → String
  | invalidParameter => "InvalidParameter"
  | outOfMemory => "OutOfMemory"
  | queueFull => "QueueFull"
  | timeout => "Timeout"
  | invalidState => "InvalidState"

/-- The status code. A full queue has the code of a failed allocation. -/
def code : Failure → String
  | invalidParameter => "INVALID_PARAMETER"
  | outOfMemory | queueFull => "OUT_OF_MEMORY"
  | timeout => "TIMEOUT"
  | invalidState => "INVALID_STATE"

def reason : Failure → String
  | invalidParameter => "invalid parameter"
  | outOfMemory => "storage allocation failed"
  | queueFull => "queue is full"
  | timeout => "timed out waiting for data"
  | invalidState => "queue is closed or poisoned"

def message (f : Failure) : String := f.code ++ ": " ++ f.reason

end Failure

/-- A refused item, handed back to the producer with the reason. -/
structure Refusal (α : Type) where
  kind : Failure
  item : α
deriving DecidableEq

namespace Refusal
variable {α : Type}

def message (r : Refusal α) : String := "enqueue rejected: " ++ r.kind.message

/-- The text for a log, which does not show the item. -/
def summary (r : Refusal α) : String := "EnqueueError \x7b kind: " ++ r.kind.name ++ ", .. \x7d"

end Refusal

end SensorRelay
