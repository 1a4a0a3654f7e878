import SensorRelay.Proofs.ByteQueue.Contents

/-! # The list of bytes that a queue of bytes implements

The specification is a list that keeps its last bytes. A queue answers every run of calls as the list
does, whatever the lengths of runs, requests and buffers: neither the slot of the next write nor the
stale bytes of the storage can be observed.
-/
namespace SensorRelay
namespace ByteQueue

/-- The operations on a queue that can be called in any order. -/
inductive Call where
  | enqueue (bytes : List UInt8)
  | dequeue (max : Nat) (timeout : Timeout)
  | dequeueInto (buffer : List UInt8) (timeout : Timeout)
  | size
  | close
deriving DecidableEq

/-- What a call returns. A dequeue that sleeps for ever has no result. -/
inductive Answer where
  | done (result : Except Failure Unit)
  | taken (result : Option (Except Failure (List UInt8)))
  /-- The number of bytes taken and the buffer after the call. -/
  | filled (result : Option (Except Failure Nat)) (buffer : List UInt8)
  | number (result : Except Failure Nat)

/-- The answer to a call and the queue left. A call that fails leaves queue and buffer alone. -/
def perform (q : ByteQueue) : Call → Answer × ByteQueue
  | .enqueue bytes => match q.enqueue bytes with
    | .error f => (.done (.error f), q)
    | .ok left => (.done (.ok ()), left)
  | .dequeue max timeout => match q.dequeue max timeout with
    | none => (.taken none, q)
    | some (.error f) => (.taken (some (.error f)), q)
    | some (.ok (bytes, left)) => (.taken (some (.ok bytes)), left)
  | .dequeueInto buffer timeout => match q.dequeueInto buffer timeout with
    | none => (.filled none buffer, q)
    | some (.error f) => (.filled (some (.error f)) buffer, q)
    | some (.ok (taken, buffer, left)) => (.filled (some (.ok taken)) buffer, left)
  | .size => (.number q.size, q)
  | .close => match q.close with
    | .error f => (.done (.error f), q)
    | .ok left => (.done (.ok ()), left)

def run (q : ByteQueue) : List Call → List Answer × ByteQueue
  | [] => ([], q)
  | call :: later =>
    let (answer, left) := q.perform call
    let (answers, last) := left.run later
    (answer :: answers, last)

/-- A list of bytes, oldest first, that keeps at most `capacity` of them. -/
structure Fifo where
  capacity : Nat
  bytes : List UInt8 := []
  closed : Bool := false

namespace Fifo

def enqueue (l : Fifo) (data : List UInt8) : Except Failure Unit × Fifo :=
  if l.closed then (.error .invalidState, l)
  else (.ok (), { l with bytes := (l.bytes ++ data).rtake l.capacity })

/-- The first bytes of the list, at most `max` of them, and the list left. -/
def take (l : Fifo) (max : Nat) (timeout : Timeout) : Option (Except Failure (List UInt8)) × Fifo :=
  if max = 0 then (some (.error .invalidParameter), l)
  else if l.closed then (some (.error .invalidState), l)
  else if l.bytes = [] then (if timeout.isEndless then none else some (.error .timeout), l)
  else (some (.ok (l.bytes.take max)), { l with bytes := l.bytes.drop max })

def overwrite (buffer bytes : List UInt8) : List UInt8 := bytes ++ buffer.drop bytes.length

def size (l : Fifo) : Except Failure Nat :=
  if l.closed then .error .invalidState else .ok l.bytes.length

def close (l : Fifo) : Except Failure Unit × Fifo :=
  if l.closed then (.error .invalidState, l) else (.ok (), { l with bytes := [], closed := true })

def perform (l : Fifo) : Call → Answer × Fifo
  | .enqueue data => let (result, left) := l.enqueue data; (.done result, left)
  | .dequeue max timeout => let (result, left) := l.take max timeout; (.taken result, left)
  | .dequeueInto buffer timeout => match l.take buffer.length timeout with
    | (none, left) => (.filled none buffer, left)
    | (some (.error f), left) => (.filled (some (.error f)) buffer, left)
    | (some (.ok bytes), left) => (.filled (some (.ok bytes.length)) (overwrite buffer bytes), left)
  | .size => (.number l.size, l)
  | .close => let (result, left) := l.close; (.done result, left)

def run (l : Fifo) : List Call → List Answer × Fifo
  | [] => ([], l)
  | call :: later =>
    let (answer, left) := l.perform call
    let (answers, last) := left.run later
    (answer :: answers, last)

end Fifo

/-- A queue in step with a list. -/
inductive Implements : ByteQueue → Fifo → Prop where
  | opened {q : ByteQueue} {l : Fifo} (holds : q.Holds l.bytes) (hopen : l.closed = false)
      (capacity : q.capacity.toNat = l.capacity) : Implements q l
  | closed {q : ByteQueue} {l : Fifo} (hq : q.closed = true) (hl : l.closed = true)
      (capacity_pos : 0 < q.capacity.toNat) : Implements q l

/-- An answer that the list gives too, with queue and list in step afterwards. -/
def Agrees (reply : Answer × ByteQueue) (spec : Answer × Fifo) : Prop :=
  reply.1 = spec.1 ∧ Implements reply.2 spec.2

variable {q : ByteQueue} {l : Fifo}

theorem Implements.enqueue (h : Implements q l) (data : List UInt8) :
    Agrees (q.perform (.enqueue data)) (l.perform (.enqueue data)) := by
  cases h with
  | closed hq hl hpos =>
    rw [perform, ByteQueue.enqueue, if_pos hq, Fifo.perform, Fifo.enqueue, if_pos hl]
    exact ⟨rfl,.closed hq hl hpos⟩
  | opened holds hopen capacity =>
    obtain ⟨left,henqueue,hleft,hcap⟩ := holds.enqueue data
    rw [capacity] at hleft
    rw [perform, henqueue, Fifo.perform, Fifo.enqueue, hopen]
    exact ⟨rfl,.opened hleft rfl (hcap ▸ capacity)⟩

theorem Implements.dequeue (h : Implements q l) (max : Nat) (timeout : Timeout) :
    Agrees (q.perform (.dequeue max timeout)) (l.perform (.dequeue max timeout)) := by
  by_cases hmax : max = 0
  · rw [perform, ByteQueue.dequeue, dequeueSeeing, if_pos hmax, Fifo.perform, Fifo.take, if_pos hmax]
    exact ⟨rfl,h⟩
  cases h with
  | closed hq hl hpos =>
    rw [perform, dequeue_of_closed hq hpos hmax, Fifo.perform, Fifo.take, if_neg hmax, if_pos hl]
    exact ⟨rfl,.closed hq hl hpos⟩
  | opened holds hopen capacity =>
    have hopen' : ¬ l.closed = true := by simp [hopen]
    by_cases hnil : l.bytes = []
    · have hempty : q.Holds [] := hnil ▸ holds
      rw [perform, hempty.dequeue_nil hmax, Fifo.perform, Fifo.take, if_neg hmax, if_neg hopen',
        if_pos hnil]
      cases timeout.isEndless with
      | true => exact ⟨rfl,.opened holds hopen capacity⟩
      | false => exact ⟨rfl,.opened holds hopen capacity⟩
    · obtain ⟨left,hdequeue,hleft,hcap⟩ := holds.dequeue_some hnil hmax timeout
      rw [perform, hdequeue, Fifo.perform, Fifo.take, if_neg hmax, if_neg hopen', if_neg hnil]
      exact ⟨rfl,.opened hleft hopen (hcap ▸ capacity)⟩

theorem Implements.dequeueInto (h : Implements q l) (buffer : List UInt8) (timeout : Timeout) :
    Agrees (q.perform (.dequeueInto buffer timeout)) (l.perform (.dequeueInto buffer timeout)) := by
  by_cases hbuffer : buffer.length = 0
  · have hnil : buffer.isEmpty = true := List.isEmpty_iff_length_eq_zero.mpr hbuffer
    rw [perform, ByteQueue.dequeueInto, dequeueIntoSeeing, if_pos hnil, Fifo.perform, Fifo.take,
      if_pos hbuffer]
    exact ⟨rfl,h⟩
  have hb : 0 < buffer.length := Nat.pos_of_ne_zero hbuffer
  cases h with
  | closed hq hl hpos =>
    rw [perform, dequeueInto_of_closed hq hb, Fifo.perform, Fifo.take, if_neg hbuffer, if_pos hl]
    exact ⟨rfl,.closed hq hl hpos⟩
  | opened holds hopen capacity =>
    have hopen' : ¬ l.closed = true := by simp [hopen]
    by_cases hnil : l.bytes = []
    · have hempty : q.Holds [] := hnil ▸ holds
      rw [perform, hempty.dequeueInto_nil hb, Fifo.perform, Fifo.take, if_neg hbuffer,
        if_neg hopen', if_pos hnil]
      cases timeout.isEndless with
      | true => exact ⟨rfl,.opened holds hopen capacity⟩
      | false => exact ⟨rfl,.opened holds hopen capacity⟩
    · obtain ⟨left,htake,hleft,hcap⟩ := holds.takeInto buffer
      have hlength : (l.bytes.take buffer.length).length = min buffer.length l.bytes.length :=
        List.length_take
      have htaken : l.bytes.take (min buffer.length l.bytes.length) = l.bytes.take buffer.length := by
        rw [List.take_eq_take_iff]
        omega
      have hrest : l.bytes.drop (min buffer.length l.bytes.length) = l.bytes.drop buffer.length := by
        rw [List.drop_eq_drop_iff]
        omega
      rw [hrest] at hleft
      rw [perform, holds.dequeueInto_some hnil hb, htake, htaken, Fifo.perform, Fifo.take,
        if_neg hbuffer, if_neg hopen', if_neg hnil]
      refine ⟨?_,.opened hleft hopen (hcap ▸ capacity)⟩
      simp only [Fifo.overwrite, hlength]

theorem Implements.size (h : Implements q l) :
    Agrees (q.perform .size) (l.perform .size) := by
  refine ⟨?_,h⟩
  cases h with
  | closed hq hl hpos => simp [perform, Fifo.perform, ByteQueue.size, Fifo.size, hq, hl]
  | opened holds hopen capacity =>
    simp [perform, Fifo.perform, ByteQueue.size, Fifo.size, holds.opened, holds.count, hopen]

theorem Implements.close (h : Implements q l) :
    Agrees (q.perform .close) (l.perform .close) := by
  cases h with
  | closed hq hl hpos =>
    rw [perform, ByteQueue.close, if_pos hq, Fifo.perform, Fifo.close, if_pos hl]
    exact ⟨rfl,.closed hq hl hpos⟩
  | opened holds hopen capacity =>
    rw [perform, ByteQueue.close, holds.opened, Fifo.perform, Fifo.close, hopen]
    exact ⟨rfl,.closed rfl rfl holds.capacity_pos⟩

theorem Implements.perform (h : Implements q l) (call : Call) :
    Agrees (q.perform call) (l.perform call) := by
  cases call with
  | enqueue data => exact h.enqueue data
  | dequeue max timeout => exact h.dequeue max timeout
  | dequeueInto buffer timeout => exact h.dequeueInto buffer timeout
  | size => exact h.size
  | close => exact h.close

theorem Implements.run (h : Implements q l) (calls : List Call) :
    (q.run calls).1 = (l.run calls).1 ∧ Implements (q.run calls).2 (l.run calls).2 := by
  induction calls generalizing q l with
  | nil => exact ⟨rfl,h⟩
  | cons call later ih =>
    obtain ⟨hanswer,hleft⟩ := h.perform call
    obtain ⟨hanswers,hlast⟩ := ih hleft
    refine ⟨?_,hlast⟩
    simp only [ByteQueue.run, Fifo.run, hanswer, hanswers]

theorem fresh_implements {capacity : UInt64} (hpos : 0 < capacity.toNat)
    (hlt : capacity.toNat < 2 ^ 63) : Implements (fresh capacity) { capacity := capacity.toNat } :=
  .opened (fresh_holds hpos hlt) rfl rfl

/-- Every run of a new queue gives the answers of the list that keeps its last bytes. -/
theorem run_eq_recent_bytes {capacity : UInt64} (hpos : 0 < capacity.toNat)
    (hlt : capacity.toNat < 2 ^ 63) (calls : List Call) :
    ∃ q, create capacity = .ok q ∧
      (q.run calls).1 = (Fifo.run { capacity := capacity.toNat } calls).1 := by
  have h : Implements (fresh capacity) { capacity := capacity.toNat } :=
    .opened (fresh_holds hpos hlt) rfl rfl
  exact ⟨_,create_eq_ok hpos hlt,(h.run calls).1⟩

/-- Four slots: an overwrite round the end, a partial read into a longer buffer and an oversized run. -/
theorem run_eq_recent_bytes_four_slots :
    (0 < (4 : UInt64).toNat ∧ (4 : UInt64).toNat < 2 ^ 63) ∧
    ∃ q, create 4 = .ok q ∧
      (q.run [.enqueue [1, 2, 3], .enqueue [4, 5, 6], .dequeue 2 .poll, .dequeueInto [9, 9, 9] .poll,
        .enqueue [1, 2, 3, 4, 5, 6, 7], .dequeue 9 .poll, .dequeue 0 .poll, .close, .enqueue []]).1 =
      [.done (.ok ()), .done (.ok ()), .taken (some (.ok [3, 4])), .filled (some (.ok 2)) [5, 6, 9],
        .done (.ok ()), .taken (some (.ok [4, 5, 6, 7])), .taken (some (.error .invalidParameter)),
        .done (.ok ()), .done (.error .invalidState)] := by
  have hpos : 0 < (4 : UInt64).toNat := by decide
  have hlt : (4 : UInt64).toNat < 2 ^ 63 := by decide
  obtain ⟨q,hq,hanswers⟩ := run_eq_recent_bytes hpos hlt
    [.enqueue [1, 2, 3], .enqueue [4, 5, 6], .dequeue 2 .poll, .dequeueInto [9, 9, 9] .poll,
      .enqueue [1, 2, 3, 4, 5, 6, 7], .dequeue 9 .poll, .dequeue 0 .poll, .close, .enqueue []]
  refine ⟨⟨hpos,hlt⟩,q,hq,?_⟩
  rw [hanswers]
  rfl

end ByteQueue
end SensorRelay
