import SensorRelay.Consumer
import SensorRelay.Proofs.Source.Capture

/-! # A consumer that nothing stops

With a filter that is valid, or none, a consumer takes every frame of a source and passes over every
turn without one. It goes on until it has its number of frames.
-/
namespace SensorRelay

theorem Bilateral.apply_eq_ok {p : Bilateral} {f : Frame} (hvalid : p.isValid = true)
    (hsize : f.distance.size = f.pixelCount) : ∃ g, p.apply f = .ok g := by
  have hvalid' : ¬ (!p.isValid) = true := by simp [hvalid]
  rw [Bilateral.apply, if_neg hvalid', if_neg (not_not_intro hsize)]
  exact ⟨_,rfl⟩

namespace Turn

/-- A frame that a source with these settings has captured or none in time, and telemetry or none. -/
structure Undisturbed (t : Turn) (settings : SourceSettings) : Prop where
  frame : t.frame = .error .timeout ∨
    ∃ (s left : Source) (draws : Nat → Draw) (f : Frame), s.settings = settings ∧
      (s.nextFrameTraced draws).outcome = .ok (.ok f, left) ∧ t.frame = .ok f
  telemetry : t.telemetry = .error .timeout ∨ ∃ bytes, t.telemetry = .ok bytes

def hasFrame (t : Turn) : Bool := t.frame.toBool

end Turn

namespace Consumer

variable {c : Consumer} {t : Turn} {settings : SourceSettings}

def HasValidFilter (c : Consumer) : Prop := ∀ p, c.denoise = some p → p.isValid = true

/-- The consumer `later` differs from `c` in what it has counted and decoded only. -/
structure Continues (c later : Consumer) (frames : Nat) : Prop where
  limit : later.limit = c.limit
  denoise : later.denoise = c.denoise
  consumed : later.consumed = c.consumed + frames

theorem Continues.hasValidFilter {later : Consumer} {frames : Nat} (h : c.Continues later frames)
    (hfilter : c.HasValidFilter) : later.HasValidFilter := by
  intro p hp
  exact hfilter p (h.denoise.symm.trans hp)

theorem Continues.trans {mid last : Consumer} {m n : Nat} (h : c.Continues mid m)
    (h' : mid.Continues last n) : c.Continues last (m + n) where
  limit := h'.limit.trans h.limit
  denoise := h'.denoise.trans h.denoise
  consumed := by rw [h'.consumed, h.consumed, Nat.add_assoc]

/-! ## One turn -/

theorem filtered_eq_ok (h : c.HasValidFilter) {f : Frame} (hsize : f.distance.size = f.pixelCount) :
    ∃ g, c.filtered f = .ok g := by
  rw [filtered]
  cases hdenoise : c.denoise with
  | none => exact ⟨f,rfl⟩
  | some p =>
    obtain ⟨g,hg⟩ := Bilateral.apply_eq_ok (h p hdenoise) hsize
    exact ⟨g.sealed,congrArg (Except.map Frame.sealed) hg⟩

theorem takeFrame_of_captured (h : c.HasValidFilter) {f : Frame} {s : Source} (hf : f.CapturedBy s) :
    c.takeFrame (.ok f) = .telemetry { c with consumed := c.consumed + 1 } := by
  obtain ⟨g,hg⟩ := filtered_eq_ok h hf.distance
  simp only [takeFrame, if_pos hf.verified, hg]

theorem readTelemetry_goesOn (c : Consumer) {read : Except Failure (List UInt8)}
    (h : read = .error .timeout ∨ ∃ bytes, read = .ok bytes) :
    ∃ later, c.readTelemetry read = .goesOn later ∧ c.Continues later 0 := by
  rcases h with rfl | ⟨bytes,rfl⟩
  · exact ⟨c,rfl,rfl,rfl,rfl⟩
  · exact ⟨_,rfl,rfl,rfl,rfl⟩

theorem turn_goesOn (hpixels : settings.HasPixels) (hfilter : c.HasValidFilter)
    (ht : t.Undisturbed settings) :
    ∃ later, c.turn t = .goesOn later ∧ c.Continues later (if t.hasFrame then 1 else 0) := by
  rcases ht.frame with hframe | ⟨s,left,draws,f,rfl,hcapture,hframe⟩
  · obtain ⟨later,hread,hlater⟩ := c.readTelemetry_goesOn ht.telemetry
    refine ⟨later,?_,?_⟩
    · rw [turn, hframe]
      exact hread
    · rw [Turn.hasFrame, hframe]
      exact hlater
  · obtain ⟨f',hcapture',hf⟩ := Source.nextFrame_eq_ok hpixels draws
    rw [Source.nextFrame_of_outcome hcapture] at hcapture'
    obtain rfl : f = f' := Except.ok.inj hcapture'
    have hone : c.Continues { c with consumed := c.consumed + 1 } 1 := ⟨rfl,rfl,rfl⟩
    obtain ⟨later,hread,hlater⟩ :=
      readTelemetry_goesOn { c with consumed := c.consumed + 1 } ht.telemetry
    refine ⟨later,?_,?_⟩
    · rw [turn, hframe, takeFrame_of_captured hfilter hf]
      exact hread
    · rw [Turn.hasFrame, hframe]
      exact hone.trans hlater

/-! ## A whole run -/

theorem isDone_iff (hlimit : 0 < c.limit) : c.isDone = true ↔ c.limit ≤ c.consumed := by
  rw [isDone, Bool.and_eq_true, decide_eq_true_eq, decide_eq_true_eq]
  exact and_iff_right hlimit

/-- The run ends at the turn that brings the last frame, and before that it goes on. -/
theorem run_of_undisturbed (hpixels : settings.HasPixels) (hfilter : c.HasValidFilter)
    (hlimit : 0 < c.limit) (hconsumed : c.consumed ≤ c.limit) {turns : List Turn}
    (hturns : ∀ t ∈ turns, t.Undisturbed settings) :
    (c.limit ≤ c.consumed + turns.countP Turn.hasFrame → c.run turns = .stopped c.limit) ∧
      (c.consumed + turns.countP Turn.hasFrame < c.limit →
        ∃ later, c.run turns = .goesOn later ∧ c.Continues later (turns.countP Turn.hasFrame)) := by
  -- A turn with a frame moves the count on by one, so that it never passes the limit.
  induction turns generalizing c with
  | nil =>
    rw [List.countP_nil, Nat.add_zero]
    constructor
    · intro hle
      rw [run, if_pos ((isDone_iff hlimit).mpr hle), Nat.le_antisymm hconsumed hle]
    · intro hlt
      have hgoing : ¬ c.isDone = true := fun hdone => Nat.not_le.mpr hlt ((isDone_iff hlimit).mp hdone)
      exact ⟨c,by rw [run, if_neg hgoing],rfl,rfl,rfl⟩
  | cons t turns ih =>
    obtain ⟨ht,hlater⟩ := List.forall_mem_cons.mp hturns
    by_cases hdone : c.isDone = true
    · have hle := (isDone_iff hlimit).mp hdone
      rw [run, if_pos hdone, Nat.le_antisymm hconsumed hle]
      exact ⟨fun _ => rfl,fun hlt => absurd hlt (by omega)⟩
    · have hlt : c.consumed < c.limit := Nat.not_le.mp fun hle => hdone ((isDone_iff hlimit).mpr hle)
      obtain ⟨mid,hturn,hmid⟩ := turn_goesOn hpixels hfilter ht
      have hstep : mid.consumed ≤ mid.limit := by
        rw [hmid.consumed, hmid.limit]
        split <;> omega
      obtain ⟨hstopped,hgoesOn⟩ :=
        ih (hmid.hasValidFilter hfilter) (hmid.limit ▸ hlimit) hstep hlater
      rw [hmid.consumed, hmid.limit, Nat.add_assoc, Nat.add_comm (ite _ _ _),
        ← List.countP_cons] at hstopped hgoesOn
      rw [run, if_neg hdone, hturn]
      refine ⟨hstopped,?_⟩
      intro hfew
      obtain ⟨last,hrun,hlast⟩ := hgoesOn hfew
      refine ⟨last,hrun,?_⟩
      rw [List.countP_cons, Nat.add_comm]
      exact hmid.trans hlast

end Consumer
end SensorRelay
