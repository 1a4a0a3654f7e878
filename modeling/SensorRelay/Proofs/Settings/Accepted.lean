import SensorRelay.Proofs.Source
import SensorRelay.Relay

/-! # Settings that were accepted

Whatever part of the settings comes from a file, a variable or a default, they are checked once, after
all parts are put together. Settings that are loaded break none of the rules of this check.
-/
namespace SensorRelay

theorem exists_of_bind_eq_ok {ε α β : Type} {x : Except ε α} {f : α → Except ε β} {b : β}
    (h : (x >>= f) = .ok b) : ∃ a, x = .ok a ∧ f a = .ok b := by
  cases x with
  | error e => cases h
  | ok a => exact ⟨a,rfl,h⟩

theorem eq_ok_of_mapError_eq_ok {ε δ α : Type} {x : Except ε α} {f : ε → δ} {a : α}
    (h : x.mapError f = .ok a) : x = .ok a := by
  cases x with
  | error e => cases h
  | ok b => exact congrArg Except.ok (Except.ok.inj h)

namespace Settings

variable {s : Settings} {files : Files} {env : Environment} {path : Option (List Char)}

/-- Settings that break no rule. -/
structure Accepted (s : Settings) : Prop where
  capacity : s.queue.capacity ≠ 0
  byteCapacity : s.queue.byteCapacity ≠ 0
  denoise : s.denoise.isValid = true
  required : s.device.requiredSuccesses ≠ 0 ∧ s.device.requiredSuccesses ≤ Probe.maxRequired
  address : ∀ a, s.device.address = some a → Probe.isAddress a = true
  pixels : s.source.HasPixels
  targetFps : s.source.targetFps ≠ 0

theorem ite_some_eq_none {α : Type} {c : Prop} [Decidable c] {a : α} {x : Option α} :
    (if c then some a else x) = none ↔ ¬ c ∧ x = none := by
  by_cases hc : c
  · simp [hc]
  · simp [hc]

theorem accepted_of_fault? (h : s.fault? = none) : s.Accepted := by
  simp only [fault?, ite_some_eq_none] at h
  obtain ⟨hcapacity,hbytes,hdenoise,hrequired,haddress⟩ := h
  cases hfilter : s.device.address.filter fun a => !Probe.isAddress a with
  | some a =>
    rw [hfilter] at haddress
    cases haddress
  | none =>
    simp only [hfilter, ite_some_eq_none, and_true, not_or] at haddress
    obtain ⟨hwidth,hheight,hfps⟩ := haddress
    rw [not_or] at hrequired
    refine ⟨hcapacity,hbytes,by simpa using hdenoise,⟨hrequired.1,UInt32.not_lt.mp hrequired.2⟩,?_,
      ⟨hwidth,hheight⟩,hfps⟩
    intro a ha
    simpa [ha, Option.filter] using hfilter

theorem accepted_of_resolve {file : SettingsFile} (h : resolve file env = .ok s) : s.Accepted := by
  obtain ⟨merged,-,hcheck⟩ := exists_of_bind_eq_ok h
  cases hfault : merged.fault? with
  | some error =>
    rw [hfault] at hcheck
    cases hcheck
  | none =>
    rw [hfault] at hcheck
    obtain rfl : merged = s := Except.ok.inj hcheck
    exact accepted_of_fault? hfault

theorem accepted_of_loadFrom (h : loadFrom files env path = .ok s) : s.Accepted := by
  cases path with
  | none => exact accepted_of_resolve (eq_ok_of_mapError_eq_ok h)
  | some path =>
    obtain ⟨file,-,hresolve⟩ := exists_of_bind_eq_ok h
    exact accepted_of_resolve (eq_ok_of_mapError_eq_ok hresolve)

end Settings
end SensorRelay
