import SensorRelay.Proofs.ItemQueue.Conservation

/-! # A queue whose destructor has failed

A call in which the destructor fails leaves the slots half emptied or the ring not moved on. The queue
is poisoned then, and from there on every call is refused without a look at slots or ring, and the end
of the queue discards nothing. So what the destructor was given over a whole run is a part of the
accepted items, in their order, and the item that it failed on is the last.
-/
namespace SensorRelay
namespace ItemQueue
variable {α : Type}

/-- The answer of a queue that refuses all calls. -/
def Call.refusal : Call α → Answer α
  | .enqueue item => .stored (.error ⟨.invalidState, item⟩)
  | .dequeue _ => .taken (some (.error .invalidState))
  | .clear => .number (.error .invalidState)
  | .size => .number (.error .invalidState)
  | .isClosed => .flag true
  | .close => .done (.error .invalidState)

def Call.refused (call : Call α) : Event α := ⟨call, .returned call.refusal, []⟩

/-- The items that the destructor finished. -/
def finished (events : List (Event α)) : List α := events.flatMap Event.destroyed

/-- The items that the destructor was called with. -/
def invoked (events : List (Event α)) : List α :=
  events.flatMap fun event => event.destroyed ++ match event.ending with
    | .failedOn item => [item]
    | .returned _ => []

variable {q : ItemQueue α} {l : Fifo α} {d : Destructor α} {item : α}

/-! ## Refused calls -/

theorem perform_of_isClosed (h : q.isClosed = true) (call : Call α) :
    q.perform call = .returning q call.refusal := by
  cases call with
  | enqueue item => simp [perform, enqueue, h, Effect.map, Ending.map, Effect.returning, Call.refusal]
  | dequeue timeout =>
    simp [perform, dequeueEffect, dequeue_of_closed h, Effect.map, Ending.map, Effect.returning,
      Call.refusal]
  | clear => simp [perform, clear, h, Effect.map, Ending.map, Effect.returning, Call.refusal]
  | size => simp [perform, size, h, Effect.returning, Call.refusal]
  | isClosed => simp [perform, h, Effect.returning, Call.refusal]
  | close => simp [perform, close, h, Effect.map, Ending.map, Effect.returning, Call.refusal]

theorem run_of_isClosed (h : q.isClosed = true) (calls : List (Call α)) :
    q.run calls = (calls.map Call.refused,q) := by
  induction calls with
  | nil => rfl
  | cons call later ih =>
    rw [run, perform_of_isClosed h]
    change (_ :: (q.run later).1,(q.run later).2) = _
    rw [ih]
    rfl

theorem release_of_isClosed (h : q.isClosed = true) : q.release = .returning q () := if_pos h

theorem isClosed_of_poisoned (h : q.poisoned = true) : q.isClosed = true := by
  rw [isClosed, h, Bool.true_or]

/-! ## Settings -/

/-- A view of a queue that shows at most what the queue is created with. -/
def Lasting {β : Type} (view : ItemQueue α → β) : Prop :=
  ∀ (q : ItemQueue α) (ring : Ring) (slots : Array (Option α)) (closed poisoned : Bool),
    ring.capacity = q.ring.capacity → view { q with ring, slots, closed, poisoned } = view q

section Lasting
variable {β : Type} {view : ItemQueue α → β}

theorem Lasting.drain (h : Lasting view) (q : ItemQueue α) : view q.drain.queue = view q := by
  rw [ItemQueue.drain]
  split
  · exact h q q.ring _ q.closed true rfl
  · exact h q q.ring.reset _ q.closed q.poisoned rfl

theorem Lasting.store (h : Lasting view) (q : ItemQueue α) (item : α) : view (q.store item) = view q :=
  h q (q.ring.advance 1) _ q.closed q.poisoned rfl

theorem Lasting.evict (h : Lasting view) (q : ItemQueue α) : view q.evict.queue = view q := by
  rw [ItemQueue.evict]
  split
  · exact h q (q.ring.retire 1) q.slots q.closed q.poisoned rfl
  · dsimp only
    split
    · exact h q q.ring _ q.closed true rfl
    · exact h q (q.ring.retire 1) _ q.closed q.poisoned rfl

theorem Lasting.enqueue (h : Lasting view) (q : ItemQueue α) (item : α) :
    view (q.enqueue item).queue = view q := by
  have hevict := h.evict q
  rw [ItemQueue.enqueue]
  split
  · rfl
  · split
    · split
      · rfl
      · dsimp only
        split
        · exact hevict
        · exact (h.store _ item).trans hevict
    · exact h.store q item

theorem Lasting.take (h : Lasting view) {left : ItemQueue α} {item : Option α}
    (htake : q.take = .ok (item,left)) :
    view left = view q := by
  rw [ItemQueue.take] at htake
  split at htake
  · cases htake
  · cases htake
    exact h q (q.ring.retire 1) _ q.closed q.poisoned rfl

theorem Lasting.clear (h : Lasting view) (q : ItemQueue α) : view q.clear.queue = view q := by
  have hdrain := h.drain q
  rw [ItemQueue.clear]
  split
  · rfl
  · dsimp only
    split
    · exact hdrain
    · exact hdrain

theorem Lasting.close (h : Lasting view) (q : ItemQueue α) : view q.close.queue = view q := by
  have hdrain := h.drain q
  rw [ItemQueue.close]
  split
  · rfl
  · dsimp only
    split
    · exact hdrain
    · exact (h _ q.drain.queue.ring #[] true q.drain.queue.poisoned rfl).trans hdrain

theorem Lasting.perform (h : Lasting view) (q : ItemQueue α) (call : Call α) :
    view (q.perform call).queue = view q := by
  cases call with
  | enqueue item => exact h.enqueue q item
  | dequeue timeout =>
    rw [ItemQueue.perform, dequeueEffect]
    split
    · rfl
    · rfl
    · next hdequeue => exact h.take (take_of_dequeue hdequeue)
  | clear => exact h.clear q
  | size => rfl
  | isClosed => rfl
  | close => exact h.close q

theorem Lasting.run (h : Lasting view) (q : ItemQueue α) (calls : List (Call α)) :
    view (q.run calls).2 = view q := by
  induction calls generalizing q with
  | nil => rfl
  | cons call later ih => exact (ih _).trans (h.perform q call)

end Lasting

/-- What a queue is created with. -/
def settings (q : ItemQueue α) : UInt64 × Overflow × Option (Destructor α) :=
  (q.capacity,q.overflow,q.destructor)

theorem run_settings (q : ItemQueue α) (calls : List (Call α)) :
    (q.run calls).2.settings = q.settings :=
  Lasting.run (fun _ _ _ _ _ _ => rfl) q calls

theorem run_ring_capacity (q : ItemQueue α) (calls : List (Call α)) :
    (q.run calls).2.ring.capacity = q.ring.capacity := by
  have hview : Lasting fun q : ItemQueue α => q.ring.capacity := fun _ _ _ _ _ hring => hring
  exact hview.run q calls

theorem create_eq_ok_iff {capacity : UInt64} {overflow : Overflow}
    {destructor : Option (Destructor α)} :
    create capacity overflow destructor = .ok q ↔
      0 < capacity.toNat ∧ capacity.toNat < 2 ^ 63 ∧ fresh capacity overflow destructor = q := by
  constructor
  · intro h
    cases hring : Ring.create capacity with
    | error f =>
      rw [create, hring] at h
      cases h
    | ok ring =>
      obtain ⟨hpos,hlt,-⟩ := Ring.create_eq_ok_iff.mp hring
      exact ⟨hpos,hlt,Except.ok.inj ((create_eq_ok hpos hlt overflow destructor).symm.trans h)⟩
  · rintro ⟨hpos,hlt,rfl⟩
    exact create_eq_ok hpos hlt overflow destructor

/-! ## Records of events -/

theorem run_append (q : ItemQueue α) (before after : List (Call α)) :
    q.run (before ++ after) =
      ((q.run before).1 ++ ((q.run before).2.run after).1,((q.run before).2.run after).2) := by
  induction before generalizing q with
  | nil => rfl
  | cons call later ih =>
    rw [List.cons_append, run, run, ih]
    rfl

theorem finished_sublist_departed (events : List (Event α)) :
    (finished events).Sublist (departed events) := by
  induction events with
  | nil => exact List.Sublist.refl _
  | cons event later ih =>
    rw [departed_cons, finished, List.flatMap_cons]
    refine List.Sublist.append ?_ ih
    simp [departed]

/-- Refused calls add nothing to what is gathered from the events before them. -/
theorem flatMap_refused {β : Type} {f : Event α → List β} (hf : ∀ call : Call α, f call.refused = [])
    (events : List (Event α)) (event : Event α) (calls : List (Call α)) :
    (events ++ event :: calls.map Call.refused).flatMap f = events.flatMap f ++ f event := by
  have hnone : (calls.map Call.refused).flatMap f = [] := by simp [List.flatMap_map, hf]
  rw [List.flatMap_append, List.flatMap_cons, hnone, List.append_nil]

theorem Fifo.run_returned (l : Fifo α) (calls : List (Call α)) :
    ∀ event ∈ (l.run calls).1, ∃ answer, event.ending = .returned answer := by
  induction calls generalizing l with
  | nil => exact fun _ h => absurd h List.not_mem_nil
  | cons call later ih => exact List.forall_mem_cons.mpr ⟨⟨_,rfl⟩,ih _⟩

/-- Where every call returned, the destructor has finished what it was called with. -/
theorem invoked_eq_finished {events : List (Event α)}
    (h : ∀ event ∈ events, ∃ answer, event.ending = .returned answer) :
    invoked events = finished events := by
  refine List.flatMap_congr fun event hevent => ?_
  obtain ⟨answer,hanswer⟩ := h event hevent
  rw [hanswer, List.append_nil]

/-- What the events of a run say of the items, where the destructor fails in one call and later calls
are refused. -/
theorem records_of_failing {events : List (Event α)}
    (h : ∀ event ∈ events, ∃ answer, event.ending = .returned answer) (call : Call α) (item : α)
    (destroyed : List α) (calls : List (Call α)) :
    let record := events ++ ⟨call,.failedOn item,destroyed⟩ :: calls.map Call.refused
    finished record = finished events ++ destroyed ∧ invoked record = finished record ++ [item] ∧
      accepted record = accepted events ∧ departed record = departed events ++ destroyed := by
  intro record
  have hfinished : finished record = finished events ++ destroyed :=
    flatMap_refused (fun _ => rfl) _ _ _
  refine ⟨hfinished,?_,?_,?_⟩
  · rw [hfinished, ← invoked_eq_finished h, invoked, flatMap_refused (fun _ => rfl),
      List.append_assoc]
    rfl
  · rw [accepted, flatMap_refused (fun call => by cases call <;> rfl)]
    cases call <;> exact List.append_nil _
  · rw [departed, flatMap_refused (fun call => by cases call <;> rfl), List.append_nil]
    rfl

/-! ## Runs -/

/-- A run is answered as the list answers it, or it leaves a poisoned queue. -/
theorem Implements.run_or_poisoned (h : Implements q l) (hd : q.destructor = some d)
    (calls : List (Call α)) :
    ((q.run calls).1 = (l.run calls).1 ∧ Implements (q.run calls).2 (l.run calls).2 ∧
      ∀ x ∈ finished (l.run calls).1, d.fails x = false) ∨ (q.run calls).2.poisoned = true := by
  induction calls generalizing q l with
  | nil => exact .inl ⟨rfl,h,fun _ hx => absurd hx List.not_mem_nil⟩
  | cons call later ih =>
    rcases h.perform_or_breaks hd call with ⟨⟨hending,hdestroyed,hqueue,hsame⟩,hfine⟩ | ⟨item,hbreaks⟩
    · refine (ih hqueue (hsame.trans hd)).imp_left ?_
      rintro ⟨hevents,hleft,hlater⟩
      refine ⟨?_,hleft,?_⟩
      · simp only [ItemQueue.run, Fifo.run, hevents, hending, hdestroyed]
      · simp only [Fifo.run, finished, List.flatMap_cons]
        exact List.forall_mem_append.mpr ⟨hfine,hlater⟩
    · right
      change ((q.perform call).queue.run later).2.poisoned = true
      rw [run_of_isClosed (isClosed_of_poisoned hbreaks.poisoned)]
      exact hbreaks.poisoned

/-- A run in which a call leaves the queue poisoned. -/
theorem run_of_poisoning {before : List (Call α)} {call : Call α}
    (h : ((q.run before).2.perform call).queue.poisoned = true) (after : List (Call α)) :
    q.run (before ++ call :: after) =
      ((q.run before).1 ++ ⟨call,((q.run before).2.perform call).ending,
        ((q.run before).2.perform call).destroyed⟩ :: after.map Call.refused,
        ((q.run before).2.perform call).queue) := by
  rw [run_append, run, run_of_isClosed (isClosed_of_poisoned h)]

/-- Once the destructor has failed in a call, every further call is refused and changes nothing, the end
of the queue discards nothing, and the settings stay. The items that the destructor was ever called with
are those that it finished and, last, the one it failed on: accepted items, in their order. -/
theorem failed_destructor_absorbs {capacity : UInt64} {overflow : Overflow} {d : Destructor α}
    {q : ItemQueue α} (hq : create capacity overflow (some d) = .ok q) (before : List (Call α))
    (call : Call α) {item : α} (hfail : ((q.run before).2.perform call).ending = .failedOn item)
    (after : List (Call α)) :
    let events := (q.run (before ++ call :: after)).1
    let last := (q.run (before ++ call :: after)).2
    events = (q.run before).1 ++
      ⟨call,.failedOn item,((q.run before).2.perform call).destroyed⟩ :: after.map Call.refused ∧
    (∀ event ∈ (q.run before).1, ∃ answer, event.ending = .returned answer) ∧
    last.isClosed = true ∧ last.capacity = capacity ∧ last.overflow = overflow ∧
    last.release = .returning last () ∧
    invoked events = finished events ++ [item] ∧
    (∀ x ∈ finished events, d.fails x = false) ∧ d.fails item = true ∧
    (∃ lost, accepted events = departed events ++ item :: lost) ∧
    (invoked events).Sublist (accepted events) := by
  obtain ⟨hpos,hlt,rfl⟩ := create_eq_ok_iff.mp hq
  have hstart := fresh_implements hpos hlt overflow (some d)
  rcases hstart.run_or_poisoned rfl before with ⟨hevents,hmid,hfine⟩ | hpoisoned
  · have hd : ((fresh capacity overflow (some d)).run before).2.destructor = some d :=
      congrArg (·.2.2) (run_settings _ before)
    rcases hmid.perform_or_breaks hd call with hsurvives | ⟨x,hbreaks⟩
    · cases hsurvives.agrees.1.symm.trans hfail
    · cases hbreaks.ending.symm.trans hfail
      obtain ⟨lost,hlost⟩ := hbreaks.split
      have hrun := run_of_poisoning hbreaks.poisoned after
      rw [hfail] at hrun
      have hsettings := run_settings (fresh capacity overflow (some d)) (before ++ call :: after)
      have hclosed := isClosed_of_poisoned hbreaks.poisoned
      have hreturned := Fifo.run_returned { capacity := capacity.toNat, overflow } before
      have hconserved := Fifo.run_conserves { capacity := capacity.toNat, overflow } before
      rw [← hevents] at hfine hconserved hreturned
      rw [hlost, List.nil_append, ← List.append_assoc] at hconserved
      obtain ⟨hfinished,hinvoked,haccepted,hdeparted⟩ :=
        records_of_failing hreturned call item _ after
      rw [hrun] at hsettings ⊢
      intro events last
      have hpassed : accepted events = departed events ++ item :: lost := by
        rw [haccepted, hdeparted, hconserved]
      refine ⟨rfl,hreturned,hclosed,congrArg (·.1) hsettings,congrArg (·.2.1) hsettings,
        release_of_isClosed hclosed,hinvoked,?_,hbreaks.failed,⟨lost,hpassed⟩,?_⟩
      · rw [hfinished]
        exact List.forall_mem_append.mpr ⟨hfine,hbreaks.finished⟩
      · rw [hinvoked, hpassed]
        refine (finished_sublist_departed events).append ?_
        exact List.singleton_sublist.mpr List.mem_cons_self
  · rw [perform_of_isClosed (isClosed_of_poisoned hpoisoned)] at hfail
    cases hfail

/-- A clear that fails on the second of three items. -/
theorem failed_destructor_absorbs_clear :
    ∃ q, create 3 .avoidDrop (some (⟨(· == 2)⟩ : Destructor Nat)) = .ok q ∧
      ((q.run [.enqueue 1, .enqueue 2, .enqueue 3]).2.perform .clear).ending = .failedOn 2 ∧
      let calls : List (Call Nat) := [.enqueue 1, .enqueue 2, .enqueue 3] ++
        .clear :: [.dequeue .infinite, .enqueue 4, .close]
      invoked (q.run calls).1 = [1, 2] ∧ finished (q.run calls).1 = [1] ∧
        (q.run calls).2.release = .returning (q.run calls).2 () := by
  have hq : create 3 .avoidDrop (some (⟨(· == 2)⟩ : Destructor Nat)) = .ok (fresh 3 .avoidDrop _) :=
    create_eq_ok (by decide) (by decide) _ _
  have hfail : (((fresh 3 .avoidDrop (some (⟨(· == 2)⟩ : Destructor Nat))).run
      [.enqueue 1, .enqueue 2, .enqueue 3]).2.perform .clear).ending = .failedOn 2 := rfl
  obtain ⟨_,_,_,_,_,hrelease,hinvoked,_⟩ :=
    failed_destructor_absorbs hq _ _ hfail [.dequeue .infinite, .enqueue 4, .close]
  exact ⟨_,hq,hfail,hinvoked,rfl,hrelease⟩

end ItemQueue
end SensorRelay
