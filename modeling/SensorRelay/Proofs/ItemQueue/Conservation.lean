import SensorRelay.Proofs.ItemQueue.Fifo

/-! # No item is lost, doubled or overtaken

The items that a queue has accepted are those that have left it, followed by those that it stores: a
run of any length keeps both the items and their order, whichever way an item leaves.
-/
namespace SensorRelay
namespace ItemQueue
variable {α : Type}

@[simp] theorem accepted_cons (event : Event α) (later : List (Event α)) :
    accepted (event :: later) = accepted [event] ++ accepted later := by
  simp [accepted]

@[simp] theorem departed_cons (event : Event α) (later : List (Event α)) :
    departed (event :: later) = departed [event] ++ departed later := by
  simp [departed]

namespace Fifo

/-- One call moves items from the front of the list to those that left, and accepted ones to its end. -/
theorem perform_conserves (l : Fifo α) (call : Call α) :
    let event : Event α := ⟨call, .returned (l.perform call).1, (l.perform call).2.1⟩
    l.items ++ accepted [event] = departed [event] ++ (l.perform call).2.2.items := by
  cases call with
  | enqueue item =>
    cases hclosed : l.closed with
    | true => simp [perform, enqueue, hclosed, accepted, departed]
    | false =>
      by_cases hroom : l.items.length < l.capacity
      · simp [perform, enqueue, hclosed, hroom, accepted, departed]
      · cases hmode : l.overflow with
        | avoidDrop => simp [perform, enqueue, hclosed, hroom, hmode, accepted, departed]
        | dropOldest =>
          have hsplit := List.take_append_drop 1 l.items
          simp only [perform, enqueue, hclosed, hroom, hmode, Bool.false_eq_true, ↓reduceIte]
          conv_lhs => rw [← hsplit]
          simp [accepted, departed]
  | dequeue timeout =>
    cases hclosed : l.closed with
    | true => simp [perform, dequeue, hclosed, accepted, departed]
    | false =>
      cases hitems : l.items with
      | nil =>
        cases hend : timeout.isEndless with
        | true => simp [perform, dequeue, hclosed, hitems, hend, accepted, departed]
        | false => simp [perform, dequeue, hclosed, hitems, hend, accepted, departed]
      | cons item rest => simp [perform, dequeue, hclosed, hitems, accepted, departed]
  | clear =>
    cases hclosed : l.closed with
    | true => simp [perform, clear, hclosed, accepted, departed]
    | false => simp [perform, clear, hclosed, accepted, departed]
  | size => simp [perform, accepted, departed]
  | isClosed => simp [perform, accepted, departed]
  | close =>
    cases hclosed : l.closed with
    | true => simp [perform, close, hclosed, accepted, departed]
    | false => simp [perform, close, hclosed, accepted, departed]

theorem run_conserves (l : Fifo α) (calls : List (Call α)) :
    l.items ++ accepted (l.run calls).1 = departed (l.run calls).1 ++ (l.run calls).2.items := by
  induction calls generalizing l with
  | nil => simp [run, accepted, departed]
  | cons call later ih =>
    have hstep := l.perform_conserves call
    have hlater := ih (l.perform call).2.2
    simp only [run]
    rw [accepted_cons, departed_cons, ← List.append_assoc, hstep, List.append_assoc, hlater,
      List.append_assoc]

end Fifo

theorem Implements.stored {q : ItemQueue α} {l : Fifo α} (h : Implements q l) :
    q.stored = l.items := by
  cases h with
  | closed hq sound count hl items => rw [stored_of_empty count, items]
  | opened holds hopen capacity overflow => exact holds.stored_eq

theorem Implements.release_items {q : ItemQueue α} {l : Fifo α} (h : Implements q l) :
    l.release = l.items := by
  cases h with
  | closed hq sound count hl items => rw [Fifo.release, if_pos hl, items]
  | opened holds hopen capacity overflow => rw [Fifo.release, hopen, if_neg Bool.false_ne_true]

/-- A refused item goes back to its producer, and the call leaves no trace. -/
theorem enqueue_refusal {q : ItemQueue α} {item : α} {refusal : Refusal α}
    (h : (q.enqueue item).ending = .returned (.error refusal)) :
    refusal.item = item ∧ q.enqueue item = .returning q (.error refusal) := by
  cases hclosed : q.isClosed with
  | true =>
    simp only [enqueue, hclosed, ↓reduceIte] at h ⊢
    cases h
    exact ⟨rfl,rfl⟩
  | false =>
    cases hfull : q.ring.isFull with
    | false =>
      simp only [enqueue, hclosed, hfull, Bool.false_eq_true, ↓reduceIte] at h
      cases h
    | true =>
      cases hmode : q.overflow with
      | avoidDrop =>
        simp only [enqueue, hclosed, hfull, hmode, Bool.false_eq_true, ↓reduceIte] at h ⊢
        cases h
        exact ⟨rfl,rfl⟩
      | dropOldest =>
        simp only [enqueue, hclosed, hfull, hmode, Bool.false_eq_true, ↓reduceIte] at h
        cases hevict : q.evict.ending with
        | returned =>
          rw [hevict] at h
          cases h
        | failedOn oldest =>
          rw [hevict] at h
          cases h

/-- At every point of every run, what was accepted is what left followed by what is stored, and with
the end of the queue all of it has left. A refused item comes back and changes nothing. -/
theorem accepted_eq_departed_append_stored {capacity : UInt64} (hpos : 0 < capacity.toNat)
    (hlt : capacity.toNat < 2 ^ 63) (overflow : Overflow) (d : Destructor α)
    (hd : ∀ item, d.fails item = false) (calls : List (Call α)) :
    ∃ q, create capacity overflow (some d) = .ok q ∧
      let events := (q.run calls).1
      let left := (q.run calls).2
      accepted events = departed events ++ left.stored ∧
      accepted events = departed events ++ left.release.destroyed ∧
      ∀ item refusal,
        (left.perform (.enqueue item)).ending = .returned (.stored (.error refusal)) →
        refusal.item = item ∧
        left.perform (.enqueue item) = .returning left (.stored (.error refusal)) := by
  obtain ⟨hevents,hleft,hlast⟩ :=
    (fresh_implements hpos hlt overflow (some d)).run ⟨d,rfl,hd⟩ calls
  obtain ⟨_,hdestroyed⟩ := hleft.release hlast
  have hconserved :=
    Fifo.run_conserves { capacity := capacity.toNat, overflow } calls
  refine ⟨_,create_eq_ok hpos hlt overflow (some d),?_,?_,?_⟩
  · rw [hevents, hleft.stored]
    exact hconserved
  · rw [hevents, hdestroyed, hleft.release_items]
    exact hconserved
  · intro item refusal h
    cases he : (((fresh capacity overflow (some d)).run calls).2.enqueue item).ending with
    | failedOn oldest => simp [perform, Effect.map, Ending.map, he] at h
    | returned result =>
      simp only [perform, Effect.map, Ending.map, he] at h
      cases h
      obtain ⟨hitem,hsame⟩ := enqueue_refusal he
      refine ⟨hitem,?_⟩
      rw [perform, hsame]
      rfl

/-- A refusal, a dequeue and a close with an item left. -/
theorem accepted_eq_departed_two_slots :
    (0 < (2 : UInt64).toNat ∧ (2 : UInt64).toNat < 2 ^ 63) ∧
    ∃ q, create 2 .avoidDrop (some (⟨fun _ => false⟩ : Destructor Nat)) = .ok q ∧
      let events := (q.run [.enqueue 1, .enqueue 2, .enqueue 3, .dequeue .poll, .close]).1
      accepted events = departed events ∧ accepted events = [1, 2] := by
  have hpos : 0 < (2 : UInt64).toNat := by decide
  have hlt : (2 : UInt64).toNat < 2 ^ 63 := by decide
  obtain ⟨q,hq,hstored,_⟩ :=
    accepted_eq_departed_append_stored hpos hlt .avoidDrop (⟨fun _ => false⟩ : Destructor Nat)
      (fun _ => rfl) [.enqueue 1, .enqueue 2, .enqueue 3, .dequeue .poll, .close]
  have hfresh : fresh 2 .avoidDrop (some ⟨fun _ => false⟩) = q :=
    Except.ok.inj ((create_eq_ok hpos hlt .avoidDrop _).symm.trans hq)
  subst hfresh
  exact ⟨⟨hpos,hlt⟩,_,hq,hstored.trans (List.append_nil _),rfl⟩

end ItemQueue
end SensorRelay
