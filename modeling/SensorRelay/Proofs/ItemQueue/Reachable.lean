import SensorRelay.Proofs.ItemQueue.Poisoning

/-! # The states that a queue of items can reach

Whatever its destructor does, a queue refuses all calls or holds some list of items in order. A call in
which the destructor fails leads to the first kind, and no call leads back.
-/
namespace SensorRelay
namespace ItemQueue
variable {α : Type}

/-- A queue that refuses all calls, or whose slots hold some list of items. -/
def Orderly (q : ItemQueue α) : Prop := q.isClosed = true ∨ ∃ items, q.Holds items

variable {q : ItemQueue α} {items : List α}

theorem Holds.orderly (h : q.Holds items) : q.Orderly := .inr ⟨items,h⟩

theorem orderly_of_poisoned (h : q.poisoned = true) : q.Orderly := .inl (isClosed_of_poisoned h)

theorem Orderly.holds (h : q.Orderly) (hopen : q.isClosed = false) : ∃ items, q.Holds items := by
  rcases h with hclosed | hholds
  · cases hclosed.symm.trans hopen
  · exact hholds

/-! ## One call -/

theorem Holds.enqueue_orderly (h : q.Holds items) (item : α) : (q.enqueue item).queue.Orderly := by
  rcases h.enqueue_cases item with
    ⟨-,henqueue,hleft⟩ | ⟨-,⟨-,henqueue⟩ | ⟨-,oldest,rest,-,hleft,henqueue⟩⟩
  · rw [henqueue]
    exact hleft.orderly
  · rw [henqueue]
    exact h.orderly
  · rw [henqueue]
    split
    · exact orderly_of_poisoned rfl
    · exact hleft.orderly

theorem Holds.dequeue_orderly (h : q.Holds items) (timeout : Timeout) :
    (q.dequeueEffect timeout).queue.Orderly := by
  rw [dequeueEffect]
  cases items with
  | nil =>
    rw [h.dequeue_nil]
    cases timeout.isEndless with
    | true => exact h.orderly
    | false => exact h.orderly
  | cons item rest =>
    rw [h.dequeue_cons]
    exact h.popped.orderly

/-- A drain empties the queue, or the destructor fails in it. -/
theorem Holds.drain_cases (h : q.Holds items) :
    (q.drain.ending = .returned () ∧ q.drain.queue.Holds []) ∨
      ∃ item, q.drain.ending = .failedOn item ∧ q.drain.queue.poisoned = true := by
  cases hfailed : (discardAll q.destructor items).2 with
  | none =>
    obtain ⟨left,hdrain,hleft⟩ := h.drain_finished hfailed
    rw [hdrain]
    exact .inl ⟨rfl,hleft⟩
  | some item =>
    obtain ⟨left,hdrain⟩ := h.drain_failed hfailed
    rw [hdrain]
    exact .inr ⟨item,rfl,rfl⟩

theorem Holds.clear_orderly (h : q.Holds items) : q.clear.queue.Orderly := by
  rw [clear, h.isClosed]
  rcases h.drain_cases with ⟨hending,hleft⟩ | ⟨item,hending,hpoisoned⟩
  · simp only [Bool.false_eq_true, ↓reduceIte, hending]
    exact hleft.orderly
  · simp only [Bool.false_eq_true, ↓reduceIte, hending]
    exact orderly_of_poisoned hpoisoned

theorem Holds.close_isClosed (h : q.Holds items) : q.close.queue.isClosed = true := by
  rw [close, h.isClosed]
  rcases h.drain_cases with ⟨hending,-⟩ | ⟨item,hending,hpoisoned⟩
  · simp only [Bool.false_eq_true, ↓reduceIte, hending]
    exact Bool.or_true _
  · simp only [Bool.false_eq_true, ↓reduceIte, hending]
    exact isClosed_of_poisoned hpoisoned

theorem Orderly.perform (h : q.Orderly) (call : Call α) : (q.perform call).queue.Orderly := by
  rcases h with hclosed | ⟨items,hholds⟩
  · rw [perform_of_isClosed hclosed]
    exact .inl hclosed
  · cases call with
    | enqueue item => exact hholds.enqueue_orderly item
    | dequeue timeout => exact hholds.dequeue_orderly timeout
    | clear => exact hholds.clear_orderly
    | size => exact hholds.orderly
    | isClosed => exact hholds.orderly
    | close => exact .inl hholds.close_isClosed

/-! ## A run -/

theorem Orderly.run (h : q.Orderly) (calls : List (Call α)) : (q.run calls).2.Orderly := by
  induction calls generalizing q with
  | nil => exact h
  | cons call later ih => exact ih (h.perform call)

/-- Every state that a new queue reaches is orderly. -/
theorem orderly_of_run {capacity : UInt64} {overflow : Overflow} {destructor : Option (Destructor α)}
    (hq : create capacity overflow destructor = .ok q) (calls : List (Call α)) :
    (q.run calls).2.Orderly := by
  obtain ⟨hpos,hlt,rfl⟩ := create_eq_ok_iff.mp hq
  exact (fresh_holds hpos hlt overflow destructor).orderly.run calls

end ItemQueue
end SensorRelay
