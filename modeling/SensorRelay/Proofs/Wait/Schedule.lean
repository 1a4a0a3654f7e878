import SensorRelay.Proofs.Wait

/-! # Waiting under any schedule of wakes

A schedule is what a consumer sees at its looks: whatever woke it, and however often. The wait ends at
the first look that finds the state no longer pending or the time run out. The state is looked at before
the clock, so that data wins over an expired deadline, and the deadline is fixed, so that wakes in
between neither end the wait nor extend it. A schedule without end has the outcome of a finite beginning.
-/
namespace SensorRelay

/-- Whether the time of a wait that began at `start` has run out at this clock reading. -/
def Timeout.IsOver (start : Nanoseconds) : Timeout → Nanoseconds → Prop
  | .poll, _ => True
  | .after d, clock => start + d < .endOfTime ∧ start + d ≤ clock
  | .infinite, _ => False

instance (start : Nanoseconds) (timeout : Timeout) (clock : Nanoseconds) :
    Decidable (timeout.IsOver start clock) :=
  match timeout with
  | .poll => isTrue trivial
  | .after d => inferInstanceAs (Decidable (start + d < .endOfTime ∧ start + d ≤ clock))
  | .infinite => isFalse id

namespace Wait
variable {σ : Type}

/-- A wait that began at `start`, which can be before its first look. -/
def since (start : Nanoseconds) (pending : σ → Bool) (timeout : Timeout) (sights : List (Sight σ)) :
    Wait σ :=
  watch pending timeout (timeout.deadline start) sights

/-- A look after which the wait goes on. -/
def IsIdle (start : Nanoseconds) (pending : σ → Bool) (timeout : Timeout) (look : Sight σ) : Prop :=
  pending look.state = true ∧ ¬ timeout.IsOver start look.clock

instance (start : Nanoseconds) (pending : σ → Bool) (timeout : Timeout) (look : Sight σ) :
    Decidable (IsIdle start pending timeout look) :=
  inferInstanceAs (Decidable (pending look.state = true ∧ ¬ timeout.IsOver start look.clock))

variable {start : Nanoseconds} {pending : σ → Bool} {timeout : Timeout} {now : Sight σ}
  {sights before after : List (Sight σ)}

/-! ## One look -/

theorem since_cons_of_ready (h : pending now.state = false) :
    since start pending timeout (now :: after) = .ready now.state := by
  simp [since, watch, h]

theorem since_cons_of_isOver (h : pending now.state = true) (hover : timeout.IsOver start now.clock) :
    since start pending timeout (now :: after) = .expired := by
  cases timeout with
  | poll => simp [since, watch, h]
  | after d => simp [since, watch, h, Timeout.deadline, hover.1, hover.2]
  | infinite => exact hover.elim

theorem since_cons_of_isIdle (h : IsIdle start pending timeout now) :
    since start pending timeout (now :: after) = since start pending timeout after := by
  obtain ⟨hpending,hover⟩ := h
  cases timeout with
  | poll => exact absurd trivial hover
  | after d =>
    by_cases hd : start + d < .endOfTime
    · have hlate : ¬ start + d ≤ now.clock := fun hle => hover ⟨hd,hle⟩
      simp [since, watch, hpending, Timeout.deadline, hd, hlate]
    · simp [since, watch, hpending, Timeout.deadline, hd]
  | infinite => simp [since, watch, hpending, Timeout.deadline]

/-! ## A whole schedule -/

theorem since_append_of_isIdle (h : ∀ look ∈ before, IsIdle start pending timeout look) :
    since start pending timeout (before ++ after) = since start pending timeout after := by
  induction before with
  | nil => rfl
  | cons look rest ih =>
    obtain ⟨hlook,hrest⟩ := List.forall_mem_cons.mp h
    rw [List.cons_append, since_cons_of_isIdle hlook, ih hrest]

theorem since_of_isIdle (h : ∀ look ∈ sights, IsIdle start pending timeout look) :
    since start pending timeout sights = .asleep := by
  have hasleep : since start pending timeout (sights ++ []) = .asleep := since_append_of_isIdle h
  rwa [List.append_nil] at hasleep

/-- All looks of a schedule are idle, or there is a first one that is not. -/
theorem exists_first_decisive (start : Nanoseconds) (pending : σ → Bool) (timeout : Timeout)
    (sights : List (Sight σ)) :
    (∀ look ∈ sights, IsIdle start pending timeout look) ∨
      ∃ before now after, sights = before ++ now :: after ∧
        (∀ look ∈ before, IsIdle start pending timeout look) ∧ ¬ IsIdle start pending timeout now := by
  induction sights with
  | nil => exact .inl fun _ h => absurd h List.not_mem_nil
  | cons look rest ih =>
    by_cases hlook : IsIdle start pending timeout look
    · rcases ih with hrest | ⟨before,now,after,rfl,hbefore,hnow⟩
      · exact .inl (List.forall_mem_cons.mpr ⟨hlook,hrest⟩)
      · exact .inr ⟨look :: before,now,after,rfl,List.forall_mem_cons.mpr ⟨hlook,hbefore⟩,hnow⟩
    · exact .inr ⟨[],look,rest,rfl,fun _ h => absurd h List.not_mem_nil,hlook⟩

/-- The first look that is not idle decides the wait: by its state, or else by its clock. -/
theorem since_cases (start : Nanoseconds) (pending : σ → Bool) (timeout : Timeout)
    (sights : List (Sight σ)) :
    ((∀ look ∈ sights, IsIdle start pending timeout look) ∧
        since start pending timeout sights = .asleep) ∨
      ∃ before now after, sights = before ++ now :: after ∧
        (∀ look ∈ before, IsIdle start pending timeout look) ∧
        (pending now.state = false ∧ since start pending timeout sights = .ready now.state ∨
          pending now.state = true ∧ timeout.IsOver start now.clock ∧
            since start pending timeout sights = .expired) := by
  rcases exists_first_decisive start pending timeout sights with
    hidle | ⟨before,now,after,rfl,hbefore,hnow⟩
  · exact .inl ⟨hidle,since_of_isIdle hidle⟩
  · refine .inr ⟨before,now,after,rfl,hbefore,?_⟩
    rw [since_append_of_isIdle hbefore]
    cases hpending : pending now.state with
    | false => exact .inl ⟨rfl,since_cons_of_ready hpending⟩
    | true =>
      have hover : timeout.IsOver start now.clock := not_not.mp fun hlate => hnow ⟨hpending,hlate⟩
      exact .inr ⟨rfl,hover,since_cons_of_isOver hpending hover⟩

theorem since_eq_ready_iff {s : σ} :
    since start pending timeout sights = .ready s ↔
      ∃ before now after, sights = before ++ now :: after ∧
        (∀ look ∈ before, IsIdle start pending timeout look) ∧ pending now.state = false ∧
        now.state = s := by
  constructor
  · intro h
    rcases since_cases start pending timeout sights with
      ⟨-,hended⟩ | ⟨before,now,after,hsights,hbefore,⟨hready,hended⟩ | ⟨-,-,hended⟩⟩
    · cases hended.symm.trans h
    · exact ⟨before,now,after,hsights,hbefore,hready,Wait.ready.inj (hended.symm.trans h)⟩
    · cases hended.symm.trans h
  · rintro ⟨before,now,after,rfl,hbefore,hready,rfl⟩
    rw [since_append_of_isIdle hbefore, since_cons_of_ready hready]

theorem since_eq_expired_iff :
    since start pending timeout sights = .expired ↔
      ∃ before now after, sights = before ++ now :: after ∧
        (∀ look ∈ before, IsIdle start pending timeout look) ∧ pending now.state = true ∧
        timeout.IsOver start now.clock := by
  constructor
  · intro h
    rcases since_cases start pending timeout sights with
      ⟨-,hended⟩ | ⟨before,now,after,hsights,hbefore,⟨-,hended⟩ | ⟨hpending,hover,-⟩⟩
    · cases hended.symm.trans h
    · cases hended.symm.trans h
    · exact ⟨before,now,after,hsights,hbefore,hpending,hover⟩
  · rintro ⟨before,now,after,rfl,hbefore,hpending,hover⟩
    rw [since_append_of_isIdle hbefore, since_cons_of_isOver hpending hover]

theorem since_eq_asleep_iff :
    since start pending timeout sights = .asleep ↔
      ∀ look ∈ sights, IsIdle start pending timeout look := by
  constructor
  · intro h
    rcases since_cases start pending timeout sights with
      ⟨hidle,-⟩ | ⟨before,now,after,-,-,⟨-,hended⟩ | ⟨-,-,hended⟩⟩
    · exact hidle
    · cases hended.symm.trans h
    · cases hended.symm.trans h
  · exact since_of_isIdle

theorem since_append_of_asleep (h : since start pending timeout before = .asleep)
    (after : List (Sight σ)) :
    since start pending timeout (before ++ after) = since start pending timeout after :=
  since_append_of_isIdle (since_eq_asleep_iff.mp h)

/-- What comes after a wait has ended does not matter. -/
theorem since_append_of_ne_asleep (h : since start pending timeout before ≠ .asleep)
    (after : List (Sight σ)) :
    since start pending timeout (before ++ after) = since start pending timeout before := by
  rcases since_cases start pending timeout before with
    ⟨-,hended⟩ | ⟨front,now,back,rfl,hfront,⟨hready,hended⟩ | ⟨hpending,hover,hended⟩⟩
  · exact absurd hended h
  · rw [hended, List.append_assoc, List.cons_append, since_append_of_isIdle hfront,
      since_cons_of_ready hready]
  · rw [hended, List.append_assoc, List.cons_append, since_append_of_isIdle hfront,
      since_cons_of_isOver hpending hover]

/-! ## Wakes and deadlines -/

theorem isOver_zero_iff {clock : Nanoseconds} (hclock : start < .endOfTime) (hle : start ≤ clock) :
    (Timeout.after 0).IsOver start clock ↔ Timeout.poll.IsOver start clock :=
  ⟨fun _ => trivial,fun _ => ⟨hclock,hle⟩⟩

/-- A wait that does not outlast its first look ends there. -/
theorem since_of_isOver_first (hover : timeout.IsOver start now.clock) :
    since start pending timeout (now :: after) =
      if pending now.state then .expired else .ready now.state := by
  cases hpending : pending now.state with
  | false => exact since_cons_of_ready hpending
  | true => exact since_cons_of_isOver hpending hover

theorem since_ne_expired (h : ∀ clock, ¬ timeout.IsOver start clock) :
    since start pending timeout sights ≠ .expired := by
  intro hexpired
  obtain ⟨_,now,_,_,_,_,hover⟩ := since_eq_expired_iff.mp hexpired
  exact h now.clock hover

/-- An idle look more or less, wherever it comes, does not show. -/
theorem since_insert_of_isIdle {extra : List (Sight σ)}
    (h : ∀ look ∈ extra, IsIdle start pending timeout look) (before after : List (Sight σ)) :
    since start pending timeout (before ++ extra ++ after) =
      since start pending timeout (before ++ after) := by
  by_cases hasleep : since start pending timeout before = .asleep
  · rw [List.append_assoc, since_append_of_asleep hasleep, since_append_of_asleep hasleep,
      since_append_of_isIdle h]
  · rw [List.append_assoc, since_append_of_ne_asleep hasleep, since_append_of_ne_asleep hasleep]

/-- No wait goes past a look that finds its time run out. -/
theorem since_append_of_isOver (hover : timeout.IsOver start now.clock)
    (before after : List (Sight σ)) :
    since start pending timeout (before ++ now :: after) =
        since start pending timeout (before ++ [now]) ∧
      since start pending timeout (before ++ [now]) ≠ .asleep := by
  have hended : since start pending timeout (before ++ [now]) ≠ .asleep := by
    intro hasleep
    have hidle := since_eq_asleep_iff.mp hasleep now (List.mem_append_right _ List.mem_cons_self)
    exact hidle.2 hover
  have happend := since_append_of_ne_asleep hended after
  rw [List.append_assoc, List.singleton_append] at happend
  exact ⟨happend,hended⟩

/-- The outcome of a wait under any schedule of wakes. The wait is over at the first look that is not
idle: with the state if that is not pending, whatever the clock says, and otherwise with a timeout,
which for a poll is the first look and for a duration one at or behind its deadline. Idle looks in
between change nothing, no wait goes past a look behind its deadline, a duration of zero is a poll, and
an infinite wait or one whose deadline cannot be expressed never times out. -/
theorem ends_at_first_decisive_look (pending : σ → Bool) (timeout : Timeout) {first : Sight σ}
    (hstart : start ≤ first.clock) (hclock : start < .endOfTime) (later : List (Sight σ)) :
    let sights := first :: later
    let ended := since start pending timeout sights
    run pending timeout sights = since first.clock pending timeout sights ∧
      (∀ s, ended = .ready s ↔ ∃ before now after, sights = before ++ now :: after ∧
        (∀ look ∈ before, IsIdle start pending timeout look) ∧ pending now.state = false ∧
        now.state = s) ∧
      (ended = .expired ↔ ∃ before now after, sights = before ++ now :: after ∧
        (∀ look ∈ before, IsIdle start pending timeout look) ∧ pending now.state = true ∧
        timeout.IsOver start now.clock) ∧
      (ended = .asleep ↔ ∀ look ∈ sights, IsIdle start pending timeout look) ∧
      (∀ before extra after, sights = before ++ after →
        (∀ look ∈ extra, IsIdle start pending timeout look) →
        since start pending timeout (before ++ extra ++ after) = ended) ∧
      (∀ before now after, sights = before ++ now :: after → timeout.IsOver start now.clock →
        ended = since start pending timeout (before ++ [now]) ∧ ended ≠ .asleep) ∧
      since start pending .poll sights =
        (if pending first.state then .expired else .ready first.state) ∧
      since start pending (.after 0) sights = since start pending .poll sights ∧
      since start pending .infinite sights ≠ .expired ∧
      ∀ d, .endOfTime ≤ start + d → since start pending (.after d) sights ≠ .expired := by
  intro sights ended
  have hpoll : Timeout.poll.IsOver start first.clock := trivial
  refine ⟨rfl,fun _ => since_eq_ready_iff,since_eq_expired_iff,since_eq_asleep_iff,?_,?_,
    since_of_isOver_first hpoll,?_,since_ne_expired fun _ => id,?_⟩
  · intro before extra after hsights hextra
    rw [since_insert_of_isIdle hextra, ← hsights]
  · intro before now after hsights hover
    obtain ⟨hended,hawake⟩ :
        since start pending timeout (before ++ now :: after) =
            since start pending timeout (before ++ [now]) ∧
          since start pending timeout (before ++ [now]) ≠ .asleep :=
      since_append_of_isOver hover before after
    rw [← hsights] at hended
    exact ⟨hended,fun hasleep => hawake (hended.symm.trans hasleep)⟩
  · rw [since_of_isOver_first hpoll, since_of_isOver_first ((isOver_zero_iff hclock hstart).mpr hpoll)]
  · intro d hlong
    exact since_ne_expired fun _ hover => Nat.not_lt.mpr hlong hover.1

/-- A spurious wake, one just before the deadline, and one behind it that finds data. -/
theorem ends_at_first_decisive_look_late_data :
    ((100 : Nanoseconds) ≤ (⟨0, 100⟩ : Sight Nat).clock ∧ (100 : Nanoseconds) < .endOfTime) ∧
      run (· == 0) (.after 50) [⟨0, 100⟩, ⟨0, 120⟩, ⟨0, 149⟩, ⟨7, 160⟩] = .ready 7 ∧
      run (· == 0) (.after 50) [⟨0, 100⟩, ⟨0, 120⟩, ⟨0, 150⟩, ⟨7, 160⟩] = .expired := by
  have hstart : (100 : Nanoseconds) ≤ (⟨0, 100⟩ : Sight Nat).clock := Nat.le_refl 100
  have hclock : (100 : Nanoseconds) < .endOfTime := by decide
  obtain ⟨hrun,hready,-⟩ := ends_at_first_decisive_look (· == 0) (.after 50) hstart hclock
    [⟨0, 120⟩, ⟨0, 149⟩, ⟨7, 160⟩]
  obtain ⟨hrun',-,hexpired,-⟩ := ends_at_first_decisive_look (· == 0) (.after 50) hstart hclock
    [⟨0, 120⟩, ⟨0, 150⟩, ⟨7, 160⟩]
  refine ⟨⟨hstart,hclock⟩,?_,?_⟩
  · exact hrun.trans ((hready 7).mpr
      ⟨[⟨0, 100⟩, ⟨0, 120⟩, ⟨0, 149⟩],⟨7, 160⟩,[],rfl,by decide,rfl,rfl⟩)
  · exact hrun'.trans (hexpired.mpr
      ⟨[⟨0, 100⟩, ⟨0, 120⟩],⟨0, 150⟩,[⟨7, 160⟩],rfl,by decide,rfl,by decide⟩)

end Wait
end SensorRelay
