import SensorRelay.Proofs.Machine.Outcome
import SensorRelay.Proofs.Source.Scene

/-! # How a capture ends

A capture is safe as long as the farthest column of its place, with all the noise, is below the end of the
words. If a column passes it, the capture ends at the first one that does, in the last sum of the ramp:
the product for a column that is too far by one step still is a word.
-/
namespace SensorRelay
open Traced

/-- The noise of a draw is in its range. -/
theorem Draw.toInt_offset_mem (d : Draw) (noise : UInt16) :
    -(noise.toNat : ℤ) ≤ (d.offset noise).toInt ∧ (d.offset noise).toInt ≤ noise.toNat := by
  have hnoise := noise.toNat_lt
  have hchoice : d.jitter % (2 * noise.toNat + 1) < 2 * noise.toNat + 1 := Nat.mod_lt _ (Nat.succ_pos _)
  unfold Draw.offset
  rw [Int32.toInt_ofInt_of_le (by omega) (by omega)]
  omega

/-- The draw with the most noise instead. -/
def Draw.farthest (d : Draw) (noise : UInt16) : Draw := { d with jitter := 2 * noise.toNat }

theorem Draw.toInt_offset_farthest (d : Draw) (noise : UInt16) :
    ((d.farthest noise).offset noise).toInt = noise.toNat := by
  have hnoise := noise.toNat_lt
  have hchoice : 2 * noise.toNat % (2 * noise.toNat + 1) = 2 * noise.toNat :=
    Nat.mod_eq_of_lt (Nat.lt_succ_self _)
  simp only [Draw.offset, Draw.farthest, hchoice]
  rw [Int32.toInt_ofInt_of_le (by omega) (by omega)]
  omega

namespace Source
variable {s : Source} {x i : Nat} {d : Draw} {draws : Nat → Draw}

/-! ## The same values -/

@[simp] theorem rampTraced_value (s : Source) (x : Nat) : (s.rampTraced x).value = s.ramp x := rfl

@[simp] theorem pixelTraced_value (s : Source) (d : Draw) (i : Nat) :
    (s.pixelTraced d i).value = s.pixel d i := by
  rw [pixelTraced, pixel, bind_value, rampTraced_value]
  split
  · rfl
  · rfl

@[simp] theorem nextFrameTraced_value (s : Source) (draws : Nat → Draw) :
    (s.nextFrameTraced draws).value = s.nextFrame draws := by
  simp only [nextFrameTraced, nextFrame, bind_value, ofFn_value, pixelTraced_value]
  rfl

/-- A capture that ends well gives what it gives where nothing is checked. -/
theorem nextFrame_of_outcome {result : Except FrameError Frame × Source}
    (h : (s.nextFrameTraced draws).outcome = .ok result) : s.nextFrame draws = result := by
  rw [← nextFrameTraced_value]
  exact (outcome_eq_ok_iff.mp h).2

/-! ## The ramp -/

theorem toInt_place (hplace : 800 + s.drift < 2 ^ 31) :
    (800 + Int32.ofNat s.drift).toInt = 800 + s.drift := by
  have hsum : 800 + Int32.ofNat s.drift = Int32.ofInt (800 + s.drift) :=
    (Int32.ofInt_add 800 s.drift).symm
  rw [hsum]
  exact Int32.toInt_ofInt_of_le (by omega) (by omega)

theorem toInt_slope (hslope : 10 * x < 2 ^ 31) : (Int32.ofNat x * 10).toInt = x * 10 := by
  have hproduct : Int32.ofNat x * 10 = Int32.ofInt (x * 10) := (Int32.ofInt_mul x 10).symm
  rw [hproduct]
  exact Int32.toInt_ofInt_of_le (by omega) (by omega)

/-- The steps of a ramp whose place and slope are words. -/
theorem rampTraced_steps (hplace : 800 + s.drift < 2 ^ 31) (hslope : 10 * x < 2 ^ 31) :
    (s.rampTraced x).steps =
      [.sum32 800 s.drift, .product32 x 10, .sum32 (800 + s.drift) (x * 10)] := by
  have hdrift : (Int32.ofNat s.drift).toInt = s.drift := Int32.toInt_ofNat_of_lt (by omega)
  have hcolumn : (Int32.ofNat x).toInt = x := Int32.toInt_ofNat_of_lt (by omega)
  have hsteps : (s.rampTraced x).steps =
      [.sum32 800 (Int32.ofNat s.drift).toInt, .product32 (Int32.ofNat x).toInt 10,
        .sum32 (800 + Int32.ofNat s.drift).toInt (Int32.ofNat x * 10).toInt] := rfl
  rw [hsteps, hdrift, hcolumn, toInt_place hplace, toInt_slope hslope]

theorem place_sound (hplace : 800 + s.drift < 2 ^ 31) : (Machine.Step.sum32 800 s.drift).Sound := by
  change -2 ^ 31 ≤ (800 + s.drift : ℤ) ∧ (800 + s.drift : ℤ) < 2 ^ 31
  omega

theorem slope_sound (hslope : 10 * x < 2 ^ 31) : (Machine.Step.product32 x 10).Sound := by
  change -2 ^ 31 ≤ (x * 10 : ℤ) ∧ (x * 10 : ℤ) < 2 ^ 31
  omega

theorem base_sound_iff :
    (Machine.Step.sum32 (800 + s.drift) (x * 10)).Sound ↔ 800 + s.drift + 10 * x < 2 ^ 31 := by
  change -2 ^ 31 ≤ (800 + s.drift + x * 10 : ℤ) ∧ (800 + s.drift + x * 10 : ℤ) < 2 ^ 31 ↔ _
  omega

theorem rampTraced_safe (hfits : 800 + s.drift + 10 * x < 2 ^ 31) : (s.rampTraced x).Safe := by
  have hplace : 800 + s.drift < 2 ^ 31 := by omega
  have hslope : 10 * x < 2 ^ 31 := by omega
  rw [Safe, rampTraced_steps hplace hslope]
  simp only [List.forall_mem_cons]
  exact ⟨place_sound hplace,slope_sound hslope,base_sound_iff.mpr hfits,List.forall_mem_nil _⟩

theorem rampTraced_fault? (hplace : 800 + s.drift < 2 ^ 31) (hslope : 10 * x < 2 ^ 31)
    (hpast : 2 ^ 31 ≤ 800 + s.drift + 10 * x) :
    (s.rampTraced x).fault? = some (.sum32 (800 + s.drift) (x * 10)) := by
  refine fault?_of_steps [_,_] (rampTraced_steps hplace hslope) ?_ ?_
  · exact List.forall_mem_cons.mpr
      ⟨place_sound hplace,List.forall_mem_singleton.mpr (slope_sound hslope)⟩
  · rw [base_sound_iff]
    exact Nat.not_lt.mpr hpast

/-! ## One pixel -/

/-- A column is a word at the source's place, with all its noise. -/
def ColumnFits (s : Source) (x : Nat) : Prop :=
  800 + s.drift + 10 * x + s.settings.noise.toNat < 2 ^ 31

theorem ColumnFits.ramp_lt (hfits : s.ColumnFits x) : 800 + s.drift + 10 * x < 2 ^ 31 :=
  Nat.lt_of_le_of_lt (Nat.le_add_right _ _) hfits

theorem pixelTraced_safe (hfits : s.ColumnFits (i % s.settings.width.toNat)) (d : Draw) :
    (s.pixelTraced d i).Safe := by
  refine .bind (rampTraced_safe hfits.ramp_lt) ?_
  split
  · exact .pure _
  · refine .bind (.singleton ?_) (.pure _)
    obtain ⟨hlow,hhigh⟩ := d.toInt_offset_mem s.settings.noise
    have hnoise := s.settings.noise.toNat_lt
    change -2 ^ 31 ≤ (s.ramp _).toInt + _ ∧ (s.ramp _).toInt + _ < 2 ^ 31
    rw [toInt_ramp hfits.ramp_lt]
    rw [ColumnFits] at hfits
    omega

theorem pixelTraced_fault? {step : Machine.Step}
    (h : (s.rampTraced (i % s.settings.width.toNat)).fault? = some step) (d : Draw) :
    (s.pixelTraced d i).fault? = some step := by
  rw [pixelTraced, fault?_bind, h]
  rfl

/-- A pixel that is safe with the most noise, and not dropped, is in a column that fits. -/
theorem columnFits_of_safe (hplace : 800 + s.drift < 2 ^ 31)
    (hslope : 10 * (i % s.settings.width.toNat) < 2 ^ 31)
    (hreturn : d.fraction.less s.settings.dropout = false)
    (h : (s.pixelTraced (d.farthest s.settings.noise) i).Safe) :
    s.ColumnFits (i % s.settings.width.toNat) := by
  obtain ⟨hramp,hnoise⟩ := bind_safe_iff.mp h
  rw [Safe, rampTraced_steps hplace hslope, List.forall_mem_cons, List.forall_mem_cons,
    List.forall_mem_singleton] at hramp
  have hbase := base_sound_iff.mp hramp.2.2
  have hkept : ¬ (d.farthest s.settings.noise).fraction.less s.settings.dropout = true :=
    Bool.not_eq_true _ ▸ hreturn
  rw [if_neg hkept] at hnoise
  have hsum := (bind_safe_iff.mp hnoise).1 _ List.mem_cons_self
  change -2 ^ 31 ≤ (s.ramp _).toInt + _ ∧ (s.ramp _).toInt + _ < 2 ^ 31 at hsum
  rw [toInt_ramp hbase, d.toInt_offset_farthest] at hsum
  rw [ColumnFits]
  omega

/-! ## One capture -/

theorem step_settings (s : Source) : s.step.settings = s.settings := rfl

theorem nextFrameTraced_safe_iff : (s.nextFrameTraced draws).Safe ↔
    ∀ i < s.settings.pixelCount, (s.step.pixelTraced (draws i) i).Safe := by
  have hpixels : (s.nextFrameTraced draws).Safe ↔
      (ofFn fun i : Fin s.settings.pixelCount => s.step.pixelTraced (draws i) i).Safe :=
    bind_safe_iff.trans (and_iff_left (.pure _))
  rw [hpixels, ofFn_safe_iff]
  exact Fin.forall_iff

theorem nextFrameTraced_safe (hpixels : s.settings.HasPixels)
    (hfits : ∀ x < s.settings.width.toNat, s.step.ColumnFits x) (draws : Nat → Draw) :
    (s.nextFrameTraced draws).Safe :=
  nextFrameTraced_safe_iff.mpr fun i _ =>
    pixelTraced_safe (hfits _ (Nat.mod_lt i hpixels.width_pos)) (draws i)

/-- The first column that is past the end of the words ends the capture. -/
theorem nextFrameTraced_of_past (hpixels : s.settings.HasPixels) (hplace : 800 + s.step.drift < 2 ^ 31)
    (hx : x < s.settings.width.toNat) (hbefore : ∀ j < x, s.step.ColumnFits j)
    (hpast : 2 ^ 31 ≤ 800 + s.step.drift + 10 * x) (draws : Nat → Draw) :
    (s.nextFrameTraced draws).outcome = .error (.sum32 (800 + s.step.drift) (x * 10)) := by
  have hslope : 10 * x < 2 ^ 31 := by
    cases x with
    | zero => decide
    | succ x =>
      have hprevious := (hbefore x (Nat.lt_succ_self x)).ramp_lt
      omega
  have hcount := hpixels.lt_pixelCount hx
  have hcolumn {j : Nat} (hj : j ≤ x) : j % s.step.settings.width.toNat = j :=
    Nat.mod_eq_of_lt (hj.trans_lt hx)
  have hramp : (s.step.rampTraced (x % s.step.settings.width.toNat)).fault? =
      some (.sum32 (800 + s.step.drift) (x * 10)) := by
    rw [hcolumn le_rfl]
    exact rampTraced_fault? hplace hslope hpast
  have hfirst : (ofFn fun i : Fin s.settings.pixelCount => s.step.pixelTraced (draws i) i).fault? =
      some (.sum32 (800 + s.step.drift) (x * 10)) := by
    refine ofFn_fault? (i := ⟨x,hcount⟩) (fun j hj => pixelTraced_safe ?_ _) (pixelTraced_fault? hramp _)
    rw [hcolumn (Nat.le_of_lt hj)]
    exact hbefore j hj
  have hcapture := congrArg (Option.or · none) hfirst
  exact outcome_of_fault? ((fault?_bind _ _).trans hcapture)

end Source
end SensorRelay
