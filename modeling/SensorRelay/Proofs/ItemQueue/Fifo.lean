import SensorRelay.Proofs.ItemQueue.Contents
import SensorRelay.Proofs.ItemQueue.Run

/-! # The bounded list that a queue of items implements

The specification is a list with a bound. A queue whose destructor never fails answers every run of
calls as the list does, and hands the same items to its destructor: neither the slot of the next write
nor the way the ring was emptied can be observed.
-/
namespace SensorRelay
namespace ItemQueue
variable {α : Type}

/-- A bounded list of items, oldest first. -/
structure Fifo (α : Type) where
  capacity : Nat
  overflow : Overflow
  items : List α := []
  closed : Bool := false

namespace Fifo

def enqueue (l : Fifo α) (item : α) : Except (Refusal α) Unit × List α × Fifo α :=
  if l.closed then (.error ⟨.invalidState, item⟩, [], l)
  else if l.items.length < l.capacity then (.ok (), [], { l with items := l.items ++ [item] })
  else match l.overflow with
    | .avoidDrop => (.error ⟨.queueFull, item⟩, [], l)
    | .dropOldest => (.ok (), l.items.take 1, { l with items := l.items.drop 1 ++ [item] })

def dequeue (l : Fifo α) (timeout : Timeout) : Option (Except Failure α) × Fifo α :=
  if l.closed then (some (.error .invalidState), l)
  else match l.items with
    | [] => (if timeout.isEndless then none else some (.error .timeout), l)
    | item :: rest => (some (.ok item), { l with items := rest })

def size (l : Fifo α) : Except Failure Nat :=
  if l.closed then .error .invalidState else .ok l.items.length

def clear (l : Fifo α) : Except Failure Nat × List α × Fifo α :=
  if l.closed then (.error .invalidState, [], l)
  else (.ok l.items.length, l.items, { l with items := [] })

def close (l : Fifo α) : Except Failure Unit × List α × Fifo α :=
  if l.closed then (.error .invalidState, [], l)
  else (.ok (), l.items, { l with items := [], closed := true })

/-- What the end of the list itself hands to the destructor. -/
def release (l : Fifo α) : List α := if l.closed then [] else l.items

/-- The answer to a call, the items that it destroys and the list left. -/
def perform (l : Fifo α) : Call α → Answer α × List α × Fifo α
  | .enqueue item => let (result, destroyed, left) := l.enqueue item; (.stored result, destroyed, left)
  | .dequeue timeout => let (result, left) := l.dequeue timeout; (.taken result, [], left)
  | .clear => let (result, destroyed, left) := l.clear; (.number result, destroyed, left)
  | .size => (.number l.size, [], l)
  | .isClosed => (.flag l.closed, [], l)
  | .close => let (result, destroyed, left) := l.close; (.done result, destroyed, left)

def run (l : Fifo α) : List (Call α) → List (Event α) × Fifo α
  | [] => ([], l)
  | call :: later =>
    let (answer, destroyed, left) := l.perform call
    let (events, last) := left.run later
    (⟨call, .returned answer, destroyed⟩ :: events, last)

/-! ## Where the items of the list go -/

/-- An item is refused and leaves the list alone, or it goes to the end behind what is kept. -/
theorem enqueue_cases (l : Fifo α) (item : α) :
    (∃ kind, l.enqueue item = (.error ⟨kind, item⟩, [], l) ∧
      (l.closed = true ∨ l.overflow = .avoidDrop)) ∨
    ∃ lost kept, l.items = lost ++ kept ∧
      l.enqueue item = (.ok (), lost, { l with items := kept ++ [item] }) ∧
      (lost = [] ∨ l.overflow = .dropOldest) := by
  cases hclosed : l.closed with
  | true =>
    refine .inl ⟨.invalidState,?_,.inl rfl⟩
    simp [enqueue, hclosed]
  | false =>
    by_cases hroom : l.items.length < l.capacity
    · refine .inr ⟨[],l.items,rfl,?_,.inl rfl⟩
      simp [enqueue, hclosed, hroom]
    · cases hmode : l.overflow with
      | avoidDrop =>
        refine .inl ⟨.queueFull,?_,.inr rfl⟩
        simp [enqueue, hclosed, hroom, hmode]
      | dropOldest =>
        refine .inr ⟨l.items.take 1,l.items.drop 1,(List.take_append_drop 1 _).symm,?_,.inr rfl⟩
        simp [enqueue, hclosed, hroom, hmode]

theorem clear_splits (l : Fifo α) :
    l.items = l.clear.2.1 ++ l.clear.2.2.items ∧ l.clear.2.2.overflow = l.overflow ∧
      l.clear.2.2.closed = l.closed := by
  cases hclosed : l.closed with
  | true => simp [clear, hclosed]
  | false => simp [clear, hclosed]

theorem close_splits (l : Fifo α) :
    l.items = l.close.2.1 ++ l.close.2.2.items ∧ l.close.2.2.overflow = l.overflow ∧
      (l.close.2.2.closed = false → l.closed = false) := by
  cases hclosed : l.closed with
  | true => simp [close, hclosed]
  | false => simp [close, hclosed]

/-- A dequeue that does not wait takes the first item or leaves the list alone. -/
theorem dequeue_poll_cases (l : Fifo α) :
    (∃ f, l.dequeue .poll = (some (.error f), l)) ∨
    ∃ item kept, l.items = item :: kept ∧
      l.dequeue .poll = (some (.ok item), { l with items := kept }) := by
  cases hclosed : l.closed with
  | true => exact .inl ⟨.invalidState,by simp [dequeue, hclosed]⟩
  | false =>
    cases hitems : l.items with
    | nil => exact .inl ⟨.timeout,by simp [dequeue, hclosed, hitems, Timeout.isEndless]⟩
    | cons item kept => exact .inr ⟨item,kept,rfl,by simp [dequeue, hclosed, hitems]⟩

end Fifo

/-! ## A queue in step with a list -/

/-- A queue in step with a list. A closed queue keeps neither slots nor a count. -/
inductive Implements : ItemQueue α → Fifo α → Prop where
  | opened {q : ItemQueue α} {l : Fifo α} (holds : q.Holds l.items) (hopen : l.closed = false)
      (capacity : q.ring.capacity.toNat = l.capacity) (overflow : q.overflow = l.overflow) :
      Implements q l
  | closed {q : ItemQueue α} {l : Fifo α} (hq : q.closed = true) (sound : q.poisoned = false)
      (count : q.ring.count = 0) (hl : l.closed = true) (items : l.items = []) : Implements q l

def HasTotalDestructor (q : ItemQueue α) : Prop :=
  ∃ d, q.destructor = some d ∧ ∀ item, d.fails item = false

theorem HasTotalDestructor.of_eq {q left : ItemQueue α} (h : q.HasTotalDestructor)
    (hsame : left.destructor = q.destructor) : left.HasTotalDestructor := by
  rw [HasTotalDestructor, hsame]
  exact h

/-- The effect of a call that the list answers in the same way. -/
def Agrees {ρ : Type} (q : ItemQueue α) (e : Effect α ρ) (reply : ρ × List α × Fifo α) : Prop :=
  e.ending = .returned reply.1 ∧ e.destroyed = reply.2.1 ∧ Implements e.queue reply.2.2 ∧
    e.queue.destructor = q.destructor

variable {q : ItemQueue α} {l : Fifo α}

/-- The effect of a call that the list answers in the same way and whose items the destructor
finishes. -/
structure Survives {ρ : Type} (q : ItemQueue α) (d : Destructor α) (e : Effect α ρ)
    (reply : ρ × List α × Fifo α) : Prop where
  agrees : q.Agrees e reply
  finished : ∀ x ∈ reply.2.1, d.fails x = false

theorem Survives.of_nil {ρ : Type} {d : Destructor α} {e : Effect α ρ} {reply : ρ × List α × Fifo α}
    (h : q.Agrees e reply) (hnil : reply.2.1 = []) : q.Survives d e reply :=
  ⟨h,hnil ▸ fun _ hx => absurd hx List.not_mem_nil⟩

theorem Implements.enqueue {d : Destructor α} (h : Implements q l) (hd : q.destructor = some d)
    (item : α) : q.Survives d (q.enqueue item) (l.enqueue item) ∨
      ∃ oldest, Breaks d l.items oldest (q.enqueue item) := by
  cases h with
  | closed hq sound count hl items =>
    have hclosed : q.isClosed = true := by simp [isClosed, hq]
    rw [ItemQueue.enqueue, if_pos hclosed, Fifo.enqueue, if_pos hl]
    exact .inl (.of_nil ⟨rfl,rfl,.closed hq sound count hl items,rfl⟩ rfl)
  | opened holds hopen capacity overflow =>
    rcases holds.enqueue_cases item with ⟨hroom,henqueue,hleft⟩ | ⟨hfull,hcases⟩
    · have hroom' : l.items.length < l.capacity := capacity ▸ hroom
      rw [henqueue, Fifo.enqueue, hopen, if_pos hroom']
      exact .inl (.of_nil ⟨rfl,rfl,.opened hleft rfl capacity overflow,rfl⟩ rfl)
    have hroom : ¬ l.items.length < l.capacity := by omega
    rcases hcases with ⟨hmode,henqueue⟩ | ⟨hmode,oldest,rest,hitems,hleft,henqueue⟩
    · rw [henqueue, Fifo.enqueue, hopen, if_neg hroom, overflow.symm.trans hmode]
      exact .inl (.of_nil ⟨rfl,rfl,.opened holds hopen capacity overflow,rfl⟩ rfl)
    · rw [henqueue, hd, Fifo.enqueue, hopen, if_neg hroom, overflow.symm.trans hmode, hitems, discard]
      cases hfails : d.fails oldest with
      | true =>
        exact .inr ⟨oldest,rfl,⟨rest,rfl⟩,fun _ hx => absurd hx List.not_mem_nil,hfails,rfl⟩
      | false =>
        exact .inl ⟨⟨rfl,rfl,.opened hleft rfl capacity hmode,rfl⟩,
          List.forall_mem_singleton.mpr hfails⟩

theorem Implements.dequeue (h : Implements q l) (timeout : Timeout) :
    q.Agrees (q.dequeueEffect timeout) ((l.dequeue timeout).1,[],(l.dequeue timeout).2) := by
  cases h with
  | closed hq sound count hl items =>
    have hclosed : q.isClosed = true := by simp [isClosed, hq]
    rw [dequeueEffect, dequeue_of_closed hclosed, Fifo.dequeue, if_pos hl]
    exact ⟨rfl,rfl,.closed hq sound count hl items,rfl⟩
  | opened holds hopen capacity overflow =>
    rw [Fifo.dequeue, hopen]
    cases hitems : l.items with
    | nil =>
      have hnil := hitems ▸ holds
      rw [dequeueEffect, hnil.dequeue_nil]
      cases timeout.isEndless with
      | true => exact ⟨rfl,rfl,.opened holds hopen capacity overflow,rfl⟩
      | false => exact ⟨rfl,rfl,.opened holds hopen capacity overflow,rfl⟩
    | cons item rest =>
      have hcons := hitems ▸ holds
      rw [dequeueEffect, hcons.dequeue_cons]
      exact ⟨rfl,rfl,.opened hcons.popped rfl capacity overflow,rfl⟩

/-- A clear or a close that breaks, breaks as its drain does. -/
theorem Breaks.clear {d : Destructor α} {items : List α} {item : α} (h : Breaks d items item q.drain)
    (hopen : q.isClosed = false) : Breaks d items item q.clear := by
  simp only [ItemQueue.clear, hopen, h.ending, Bool.false_eq_true, ↓reduceIte]
  exact ⟨rfl,h.split,h.finished,h.failed,h.poisoned⟩

theorem Breaks.close {d : Destructor α} {items : List α} {item : α} (h : Breaks d items item q.drain)
    (hopen : q.isClosed = false) : Breaks d items item q.close := by
  simp only [ItemQueue.close, hopen, h.ending, Bool.false_eq_true, ↓reduceIte]
  exact ⟨rfl,h.split,h.finished,h.failed,h.poisoned⟩

theorem Implements.clear {d : Destructor α} (h : Implements q l) (hd : q.destructor = some d) :
    q.Survives d q.clear l.clear ∨ ∃ item, Breaks d l.items item q.clear := by
  cases h with
  | closed hq sound count hl items =>
    have hclosed : q.isClosed = true := by simp [isClosed, hq]
    rw [ItemQueue.clear, if_pos hclosed, Fifo.clear, if_pos hl]
    exact .inl (.of_nil ⟨rfl,rfl,.closed hq sound count hl items,rfl⟩ rfl)
  | opened holds hopen capacity overflow =>
    rcases holds.drain_or_breaks hd with ⟨hfine,left,hdrain,hleft⟩ | ⟨item,hbreaks⟩
    · rw [ItemQueue.clear, holds.isClosed, hdrain, holds.count, Fifo.clear, hopen]
      exact .inl ⟨⟨rfl,rfl,.opened hleft rfl capacity overflow,rfl⟩,hfine⟩
    · exact .inr ⟨item,hbreaks.clear holds.isClosed⟩

theorem Implements.close {d : Destructor α} (h : Implements q l) (hd : q.destructor = some d) :
    q.Survives d q.close l.close ∨ ∃ item, Breaks d l.items item q.close := by
  cases h with
  | closed hq sound count hl items =>
    have hclosed : q.isClosed = true := by simp [isClosed, hq]
    rw [ItemQueue.close, if_pos hclosed, Fifo.close, if_pos hl]
    exact .inl (.of_nil ⟨rfl,rfl,.closed hq sound count hl items,rfl⟩ rfl)
  | opened holds hopen capacity overflow =>
    rcases holds.drain_or_breaks hd with ⟨hfine,left,hdrain,hleft⟩ | ⟨item,hbreaks⟩
    · rw [ItemQueue.close, holds.isClosed, hdrain, Fifo.close, hopen]
      exact .inl ⟨⟨rfl,rfl,.closed rfl holds.sound rfl rfl rfl,rfl⟩,hfine⟩
    · exact .inr ⟨item,hbreaks.close holds.isClosed⟩

theorem Implements.size (h : Implements q l) : q.size = l.size := by
  cases h with
  | closed hq sound count hl items => simp [ItemQueue.size, Fifo.size, isClosed, hq, hl]
  | opened holds hopen capacity overflow =>
    simp [ItemQueue.size, Fifo.size, holds.isClosed, holds.count, hopen]

theorem Implements.isClosed (h : Implements q l) :
    q.isClosed = l.closed := by
  cases h with
  | closed hq sound count hl items => simp [ItemQueue.isClosed, hq, hl]
  | opened holds hopen capacity overflow => rw [holds.isClosed, hopen]

theorem Implements.release (h : Implements q l)
    (hd : q.HasTotalDestructor) :
    q.release.ending = .returned () ∧ q.release.destroyed = l.release := by
  cases h with
  | closed hq sound count hl items =>
    have hclosed : q.isClosed = true := by simp [ItemQueue.isClosed, hq]
    rw [ItemQueue.release, if_pos hclosed, Fifo.release, if_pos hl]
    exact ⟨rfl,rfl⟩
  | opened holds hopen capacity overflow =>
    obtain ⟨d,hd,htotal⟩ := hd
    rcases holds.drain_or_breaks hd with ⟨-,left,hdrain,-⟩ | ⟨item,hbreaks⟩
    · rw [ItemQueue.release, holds.isClosed, hdrain, Fifo.release, hopen]
      exact ⟨rfl,rfl⟩
    · cases (htotal item).symm.trans hbreaks.failed

theorem Agrees.map {ρ σ : Type} {e : Effect α ρ} {reply : ρ × List α × Fifo α}
    (h : q.Agrees e reply) (f : ρ → σ) : q.Agrees (e.map f) (f reply.1,reply.2) := by
  obtain ⟨hending,hdestroyed,hqueue,hsame⟩ := h
  refine ⟨?_,hdestroyed,hqueue,hsame⟩
  simp [Effect.map, Ending.map, hending]

theorem Survives.map {ρ σ : Type} {d : Destructor α} {e : Effect α ρ} {reply : ρ × List α × Fifo α}
    (h : q.Survives d e reply) (f : ρ → σ) : q.Survives d (e.map f) (f reply.1,reply.2) :=
  ⟨h.agrees.map f,h.finished⟩

theorem Breaks.map {ρ σ : Type} {d : Destructor α} {items : List α} {item : α} {e : Effect α ρ}
    (h : Breaks d items item e) (f : ρ → σ) : Breaks d items item (e.map f) := by
  refine ⟨?_,h.split,h.finished,h.failed,h.poisoned⟩
  simp [Effect.map, Ending.map, h.ending]

/-- A call is answered as the list answers it, or the destructor fails in it. -/
theorem Implements.perform_or_breaks {d : Destructor α} (h : Implements q l)
    (hd : q.destructor = some d) (call : Call α) :
    q.Survives d (q.perform call) (l.perform call) ∨
      ∃ item, Breaks d l.items item (q.perform call) := by
  cases call with
  | enqueue item =>
    exact (h.enqueue hd item).imp (·.map Answer.stored) (Exists.imp fun _ hbreaks => hbreaks.map _)
  | dequeue timeout => exact .inl (.of_nil ((h.dequeue timeout).map Answer.taken) rfl)
  | clear =>
    exact (h.clear hd).imp (·.map Answer.number) (Exists.imp fun _ hbreaks => hbreaks.map _)
  | size =>
    exact .inl (.of_nil ⟨by simp [ItemQueue.perform, Fifo.perform, Effect.returning, h.size],rfl,h,rfl⟩ rfl)
  | isClosed =>
    exact .inl
      (.of_nil ⟨by simp [ItemQueue.perform, Fifo.perform, Effect.returning, h.isClosed],rfl,h,rfl⟩ rfl)
  | close =>
    exact (h.close hd).imp (·.map Answer.done) (Exists.imp fun _ hbreaks => hbreaks.map _)

/-- With a destructor that never fails, a call does not break. -/
theorem agrees_of_total {ρ : Type} {d : Destructor α} {items : List α} {e : Effect α ρ}
    {reply : ρ × List α × Fifo α} (htotal : ∀ item, d.fails item = false)
    (h : q.Survives d e reply ∨ ∃ item, Breaks d items item e) : q.Agrees e reply := by
  rcases h with hsurvives | ⟨item,hbreaks⟩
  · exact hsurvives.agrees
  · cases (htotal item).symm.trans hbreaks.failed

theorem Implements.perform (h : Implements q l) (hd : q.HasTotalDestructor) (call : Call α) :
    q.Agrees (q.perform call) (l.perform call) := by
  obtain ⟨d,hd,htotal⟩ := hd
  exact agrees_of_total htotal (h.perform_or_breaks hd call)

theorem Implements.run (h : Implements q l)
    (hd : q.HasTotalDestructor) (calls : List (Call α)) :
    (q.run calls).1 = (l.run calls).1 ∧ Implements (q.run calls).2 (l.run calls).2 ∧
      (q.run calls).2.HasTotalDestructor := by
  induction calls generalizing q l with
  | nil => exact ⟨rfl,h,hd⟩
  | cons call later ih =>
    obtain ⟨hending,hdestroyed,hqueue,hsame⟩ := h.perform hd call
    obtain ⟨hevents,hleft,hlast⟩ := ih hqueue (hd.of_eq hsame)
    refine ⟨?_,hleft,hlast⟩
    simp only [ItemQueue.run, Fifo.run, hevents, hending, hdestroyed]

/-- What a caller gets from a dequeue is what its effect says. -/
theorem Agrees.receive {q : ItemQueue α} {timeout : Timeout} {result : Except Failure α} {l : Fifo α}
    (h : q.Agrees (q.dequeueEffect timeout) (some result,[],l)) :
    ∃ left, q.receive timeout = (result,left) ∧ Implements left l ∧
      left.destructor = q.destructor := by
  obtain ⟨hending,-,hqueue,hsame⟩ := h
  rw [dequeueEffect] at hending hqueue hsame
  rw [ItemQueue.receive]
  cases hdequeue : q.dequeue timeout with
  | none =>
    rw [hdequeue] at hending
    cases hending
  | some ended =>
    rw [hdequeue] at hending hqueue hsame
    cases ended with
    | error f =>
      cases hending
      exact ⟨q,rfl,hqueue,hsame⟩
    | ok taken =>
      cases hending
      exact ⟨taken.2,rfl,hqueue,hsame⟩

theorem fresh_implements {capacity : UInt64} (hpos : 0 < capacity.toNat)
    (hlt : capacity.toNat < 2 ^ 63) (overflow : Overflow) (destructor : Option (Destructor α)) :
    Implements (fresh capacity overflow destructor) ⟨capacity.toNat,overflow,[],false⟩ :=
  .opened (fresh_holds hpos hlt overflow destructor) rfl rfl rfl

/-- Every run of a new queue gives the answers of the bounded list and destroys the same items, call
by call, and so does its end. -/
theorem run_eq_fifo {capacity : UInt64} (hpos : 0 < capacity.toNat) (hlt : capacity.toNat < 2 ^ 63)
    (overflow : Overflow) (d : Destructor α) (hd : ∀ item, d.fails item = false)
    (calls : List (Call α)) :
    ∃ q, create capacity overflow (some d) = .ok q ∧
      let spec : Fifo α := { capacity := capacity.toNat, overflow }
      (q.run calls).1 = (spec.run calls).1 ∧
      (q.run calls).2.release.ending = .returned () ∧
      (q.run calls).2.release.destroyed = (spec.run calls).2.release := by
  obtain ⟨hevents,hleft,hlast⟩ :=
    (fresh_implements hpos hlt overflow (some d)).run ⟨d,rfl,hd⟩ calls
  obtain ⟨hending,hdestroyed⟩ := hleft.release hlast
  exact ⟨_,create_eq_ok hpos hlt overflow (some d),hevents,hending,hdestroyed⟩

/-- Two slots: the third item evicts the first, and a clear goes round the end of the ring. -/
theorem run_eq_fifo_two_slots :
    (0 < (2 : UInt64).toNat ∧ (2 : UInt64).toNat < 2 ^ 63) ∧
    ∃ q, create 2 .dropOldest (some (⟨fun _ => false⟩ : Destructor Nat)) = .ok q ∧
      let last := q.run [.enqueue 1, .enqueue 2, .enqueue 3, .dequeue .poll, .enqueue 4, .clear, .enqueue 5]
      last.1.map Event.destroyed = [[], [], [1], [], [], [3, 4], []] ∧
      last.2.release.destroyed = [5] := by
  have hpos : 0 < (2 : UInt64).toNat := by decide
  have hlt : (2 : UInt64).toNat < 2 ^ 63 := by decide
  obtain ⟨q,hq,hevents,_,hdestroyed⟩ :=
    run_eq_fifo hpos hlt .dropOldest (⟨fun _ => false⟩ : Destructor Nat) (fun _ => rfl)
      [.enqueue 1, .enqueue 2, .enqueue 3, .dequeue .poll, .enqueue 4, .clear, .enqueue 5]
  refine ⟨⟨hpos,hlt⟩,q,hq,?_,?_⟩
  · rw [hevents]
    rfl
  · rw [hdestroyed]
    rfl

end ItemQueue
end SensorRelay
