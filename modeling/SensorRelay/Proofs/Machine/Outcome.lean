import SensorRelay.Machine

/-! # How a traced operation ends

Where every step is checked, an operation ends with its value if it is safe, which means that all its
steps are sound, and else at the first step that is not. Computations one after the other are safe if
each of them is, and end where the first of them ends that is not.
-/
namespace SensorRelay
namespace Traced
variable {α β : Type}

@[simp] theorem pure_value (a : α) : (pure a : Traced α).value = a := rfl

@[simp] theorem pure_steps (a : α) : (pure a : Traced α).steps = [] := rfl

@[simp] theorem bind_value (t : Traced α) (f : α → Traced β) : (t >>= f).value = (f t.value).value := rfl

@[simp] theorem bind_steps (t : Traced α) (f : α → Traced β) :
    (t >>= f).steps = t.steps ++ (f t.value).steps := rfl

@[simp] theorem map_value (f : α → β) (t : Traced α) : (f <$> t).value = f t.value := rfl

@[simp] theorem map_steps (f : α → β) (t : Traced α) : (f <$> t).steps = t.steps :=
  List.append_nil _

@[simp] theorem add_value (a b : UInt64) : (add a b).value = a + b := rfl

/-! ## Safety -/

/-- Every step is sound. -/
def Safe (t : Traced α) : Prop := ∀ step ∈ t.steps, step.Sound

theorem Safe.pure (a : α) : (Pure.pure a : Traced α).Safe := by
  intro step hstep
  exact absurd hstep List.not_mem_nil

theorem bind_safe_iff {t : Traced α} {f : α → Traced β} :
    (t >>= f).Safe ↔ t.Safe ∧ (f t.value).Safe := List.forall_mem_append

theorem Safe.bind {t : Traced α} {f : α → Traced β} (h : t.Safe) (h' : (f t.value).Safe) :
    (t >>= f).Safe :=
  bind_safe_iff.mpr ⟨h,h'⟩

theorem Safe.map {t : Traced α} (h : t.Safe) (f : α → β) : (f <$> t).Safe := h.bind (.pure _)

theorem Safe.of_steps_eq_nil {t : Traced α} (h : t.steps = []) : t.Safe := by
  intro step hstep
  rw [h] at hstep
  exact absurd hstep List.not_mem_nil

theorem Safe.singleton {a : α} {step : Machine.Step} (h : step.Sound) : (⟨a,[step]⟩ : Traced α).Safe :=
  List.forall_mem_singleton.mpr h

/-! ## The outcome -/

variable {t : Traced α} {step : Machine.Step}

theorem fault?_eq_none_iff : t.fault? = none ↔ t.Safe := by
  simp [fault?, Safe, List.find?_eq_none]

theorem Safe.outcome (h : t.Safe) : t.outcome = .ok t.value := by
  rw [Traced.outcome, fault?_eq_none_iff.mpr h]

/-- The step behind sound ones that is not sound itself. -/
theorem fault?_of_steps (before : List Machine.Step) {later : List Machine.Step}
    (h : t.steps = before ++ step :: later) (hbefore : ∀ earlier ∈ before, earlier.Sound)
    (hstep : ¬ step.Sound) : t.fault? = some step := by
  have hnone : before.find? (fun earlier => !decide earlier.Sound) = none := by
    simpa [List.find?_eq_none] using hbefore
  rw [fault?, h, List.find?_append, hnone, List.find?_cons_of_pos (by simpa using hstep)]
  rfl

theorem outcome_of_fault? (h : t.fault? = some step) : t.outcome = .error step := by
  rw [outcome, h]

theorem outcome_eq_ok_iff {a : α} : t.outcome = .ok a ↔ t.Safe ∧ t.value = a := by
  constructor
  · intro h
    cases hfault : t.fault? with
    | none =>
      have hsafe := fault?_eq_none_iff.mp hfault
      exact ⟨hsafe,Except.ok.inj (hsafe.outcome.symm.trans h)⟩
    | some step => cases (outcome_of_fault? hfault).symm.trans h
  · rintro ⟨hsafe,rfl⟩
    exact hsafe.outcome

theorem fault?_bind (t : Traced α) (f : α → Traced β) :
    (t >>= f).fault? = t.fault?.or (f t.value).fault? := List.find?_append

/-! ## One after the other -/

variable {n : Nat} {f : Fin n → Traced α}

theorem ofFn_value (f : Fin n → Traced α) : (ofFn f).value = Array.ofFn fun i => (f i).value :=
  Array.map_ofFn

theorem ofFn_steps (f : Fin n → Traced α) : (ofFn f).steps = (List.ofFn f).flatMap (·.steps) := by
  rw [ofFn, Array.toList_ofFn]

theorem ofFn_safe_iff : (ofFn f).Safe ↔ ∀ i, (f i).Safe := by
  simp only [Safe, ofFn_steps, List.mem_flatMap, List.mem_ofFn]
  constructor
  · intro h i step hstep
    exact h step ⟨f i,⟨i,rfl⟩,hstep⟩
  · rintro h step ⟨_,⟨i,rfl⟩,hstep⟩
    exact h i step hstep

/-- The first that is not safe decides. -/
theorem ofFn_fault? {i : Fin n} (hbefore : ∀ j < i, (f j).Safe) (h : (f i).fault? = some step) :
    (ofFn f).fault? = some step := by
  have hlength : i.val < (List.ofFn f).length := by
    rw [List.length_ofFn]
    exact i.isLt
  rw [fault?, ofFn_steps, List.find?_flatMap, List.findSome?_eq_some_iff]
  refine ⟨(List.ofFn f).take i,f i,(List.ofFn f).drop (i + 1),?_,h,?_⟩
  · have hi : (List.ofFn f)[i.val] = f i := List.getElem_ofFn hlength
    rw [← hi, List.getElem_cons_drop, List.take_append_drop]
  · intro t ht
    obtain ⟨j,hj,rfl⟩ := List.mem_take_iff_getElem.mp ht
    rw [List.getElem_ofFn]
    exact fault?_eq_none_iff.mpr (hbefore _ (Fin.lt_def.mpr (Nat.lt_of_lt_of_le hj (Nat.min_le_left _ _))))

end Traced
end SensorRelay
