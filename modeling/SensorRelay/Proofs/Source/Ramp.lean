import SensorRelay.Proofs.Settings.Accepted
import SensorRelay.Proofs.Source.Capture

/-! # The room of the ramp

A distance is computed in words, and cut to the range of a sample only then. The words suffice for all
columns, places of the scene and noise up to a width that depends on the noise; past it a capture ends at
the far end of the ramp, or, where sums are not checked, that end comes out as the nearest distance. The
bound is sharp, because the scene comes to its farthest place with the frame 390.
-/
namespace SensorRelay
open Binary

/-- In a row, what has a return never gets nearer from left to right. -/
def Frame.RowsRise (f : Frame) : Prop :=
  ∀ (i j : Nat) (near far : UInt16), i ≤ j → i / f.width.toNat = j / f.width.toNat →
    f.distance[i]? = some near → f.distance[j]? = some far →
    near ≠ noReturn → far ≠ noReturn → near ≤ far

namespace Source

/-- The source that a request leaves. -/
def serve (s : Source) : Request → Source
  | .frame draws => (s.nextFrame draws).2
  | .chunk => s.nextChunk.2

/-- What becomes of a new source. -/
def after (settings : SourceSettings) (requests : List Request) : Source :=
  requests.foldl serve { settings }

/-- The distance of column `x`, where no sum or product leaves the range of its words. -/
structure InRange (s : Source) (x : Nat) (jitter : Int32) : Prop where
  column : (Int32.ofNat x).toInt = x
  slope : (Int32.ofNat x * 10).toInt = x * 10
  place : (800 + Int32.ofNat s.drift).toInt = 800 + s.drift
  base : (s.ramp x).toInt = 800 + s.drift + x * 10
  distance : (s.ramp x + jitter).toInt = 800 + s.drift + x * 10 + jitter.toInt

end Source

namespace SourceSettings

/-- The farthest column, at the farthest place of the scene and with the most noise. -/
def farEnd (settings : SourceSettings) : Nat :=
  800 + 975 + 10 * (settings.width.toNat - 1) + settings.noise.toNat

def RampFits (settings : SourceSettings) : Prop := settings.farEnd < 2 ^ 31

instance (settings : SourceSettings) : Decidable settings.RampFits :=
  inferInstanceAs (Decidable (settings.farEnd < 2 ^ 31))

def RampInRange (settings : SourceSettings) : Prop :=
  ∀ (requests : List Source.Request) (i : Nat) (jitter : Int32), i < settings.pixelCount →
    -(settings.noise.toNat : ℤ) ≤ jitter.toInt → jitter.toInt ≤ settings.noise.toNat →
    (Source.after settings requests).InRange (i % settings.width.toNat) jitter

/-- Some pixel can have a return. -/
def MayReturn (settings : SourceSettings) : Prop := ∃ d : Draw, d.fraction.less settings.dropout = false

/-- Every capture ends well, whatever was captured before. -/
def CapturesEnd (settings : SourceSettings) : Prop :=
  ∀ (requests : List Source.Request) (draws : Nat → Draw),
    ∃ result, ((Source.after settings requests).nextFrameTraced draws).outcome = .ok result

def RowsAlwaysRise (settings : SourceSettings) : Prop :=
  ∀ (requests : List Source.Request) (draws : Nat → Draw),
    ∃ f, ((Source.after settings requests).nextFrame draws).1 = .ok f ∧ f.RowsRise

end SourceSettings

namespace Source
open Traced
variable {s : Source} {settings : SourceSettings} {x i j : Nat} {draws : Nat → Draw} {f : Frame}

/-! ## The states of a source -/

theorem serve_settings (s : Source) (request : Request) : (s.serve request).settings = s.settings := by
  cases request <;> rfl

theorem InPlace.serve (h : s.InPlace) (request : Request) : (s.serve request).InPlace := by
  cases request with
  | frame draws => exact h.step
  | chunk => exact h

theorem foldl_serve_settings (s : Source) (requests : List Request) :
    (requests.foldl serve s).settings = s.settings := by
  induction requests generalizing s with
  | nil => rfl
  | cons request later ih => exact (ih _).trans (s.serve_settings request)

theorem InPlace.foldl_serve (h : s.InPlace) (requests : List Request) :
    (requests.foldl Source.serve s).InPlace := by
  induction requests generalizing s with
  | nil => exact h
  | cons request later ih => exact ih (h.serve request)

theorem foldl_serve_frames (s : Source) (requests : List Request) :
    (requests.foldl serve s).frames = s.frames + requests.countP Request.isFrame := by
  induction requests generalizing s with
  | nil => rfl
  | cons request later ih =>
    rw [List.foldl_cons, ih]
    cases request with
    | frame draws =>
      rw [List.countP_cons_of_pos rfl, Nat.add_comm (List.countP _ later), ← Nat.add_assoc]
      rfl
    | chunk =>
      rw [List.countP_cons_of_neg Bool.false_ne_true]
      rfl

theorem after_settings (settings : SourceSettings) (requests : List Request) :
    (after settings requests).settings = settings := foldl_serve_settings _ requests

theorem after_inPlace (settings : SourceSettings) (requests : List Request) :
    (after settings requests).InPlace := (inPlace_of_new settings).foldl_serve requests

theorem frames_after_frames (settings : SourceSettings) (draws : Nat → Draw) (n : Nat) :
    (after settings (.replicate n (.frame draws))).frames = n := by
  have hcount : (List.replicate n (Request.frame draws)).countP Request.isFrame = n := by
    simp [List.countP_replicate, Request.isFrame]
  unfold after
  rw [foldl_serve_frames, hcount, Nat.zero_add]

/-- Before the frame 390, in which the scene is at its farthest place. -/
theorem exists_drift_of_step (settings : SourceSettings) :
    ∃ requests, (after settings requests).step.drift = 975 := by
  refine ⟨List.replicate 389 (.frame fun _ => {}),?_⟩
  rw [(after_inPlace settings _).step]
  change SourceSettings.driftAt ((after settings _).frames + 1) = 975
  rw [frames_after_frames]
  rfl

/-! ## One distance -/

theorem inRange_of_lt {jitter : Int32} (hfits : 800 + s.drift + 10 * x < 2 ^ 31)
    (hlow : -2 ^ 31 ≤ (800 + s.drift + 10 * x + jitter.toInt : ℤ))
    (hhigh : (800 + s.drift + 10 * x + jitter.toInt : ℤ) < 2 ^ 31) : s.InRange x jitter := by
  have hdistance : s.ramp x + jitter = Int32.ofInt (800 + s.drift + 10 * x + jitter.toInt) := by
    rw [Int32.ofInt_add, Int32.ofInt_toInt, ramp_eq_ofInt]
  constructor
  · exact Int32.toInt_ofNat_of_lt (by omega)
  · exact toInt_slope (by omega)
  · exact toInt_place (by omega)
  · rw [toInt_ramp hfits, Int.mul_comm]
  · rw [hdistance, Int32.toInt_ofInt_of_le hlow hhigh, Int.mul_comm 10]

/-- A column past the range of the words comes out as the nearest distance. -/
theorem toDistance_ramp_of_wraps (hpast : 2 ^ 31 ≤ 800 + s.drift + 10 * x)
    (hturn : 800 + s.drift + 10 * x < 2 ^ 32) : toDistance (s.ramp x) = 1 := by
  have hramp : (s.ramp x).toInt = 800 + s.drift + 10 * x - 2 ^ 32 := by
    rw [ramp_eq_ofInt, Int32.toInt_ofInt, Int.bmod_eq_emod, show Int32.size = 2 ^ 32 from rfl]
    split <;> omega
  have hbelow : s.ramp x < 1 := by
    rw [Int32.lt_iff_toInt_lt, hramp, show (1 : Int32).toInt = 1 from rfl]
    omega
  exact if_pos hbelow

/-- Where the ramp fits, its columns do at every place of the scene. -/
theorem InPlace.columnFits (hplace : s.InPlace) (hfits : s.settings.RampFits)
    (hx : x < s.settings.width.toNat) : s.ColumnFits x := by
  have hdrift := hplace.drift_le
  unfold SourceSettings.RampFits SourceSettings.farEnd at hfits
  rw [ColumnFits]
  omega

/-! ## One row -/

theorem toNat_pixel_of_ne (hnoise : s.settings.noise = 0)
    (hfits : 800 + s.drift + 10 * (i % s.settings.width.toNat) < 2 ^ 31) {d : Draw}
    (hreturn : (s.pixel d i).1 ≠ Frame.noReturn) :
    (s.pixel d i).1.toNat = min 65535 (800 + s.drift + 10 * (i % s.settings.width.toNat)) := by
  cases hless : d.fraction.less s.settings.dropout with
  | true =>
    rw [pixel, if_pos hless] at hreturn
    exact absurd rfl hreturn
  | false =>
    rw [pixel_of_return hnoise hless]
    exact toNat_toDistance_ramp hfits

theorem getElem?_distance_iff (hok : (s.nextFrame draws).1 = .ok f) {d : UInt16} :
    f.distance[i]? = some d ↔ i < s.settings.pixelCount ∧ (s.step.pixel (draws i) i).1 = d := by
  rw [(channels_of_nextFrame hok).1, Array.getElem?_ofFn]
  by_cases hi : i < s.settings.pixelCount
  · simp [hi]
  · simp [hi]

/-- Where the ramp fits, the columns of a row keep their order. -/
theorem InPlace.rowsRise (hplace : s.InPlace) (hsettings : s.settings = settings)
    (hpixels : settings.HasPixels) (hnoise : settings.noise = 0) (hfits : settings.RampFits)
    (draws : Nat → Draw) : ∃ f, (s.nextFrame draws).1 = .ok f ∧ f.RowsRise := by
  subst hsettings
  obtain ⟨f,hok,hcaptured⟩ := nextFrame_eq_ok hpixels draws
  refine ⟨f,hok,?_⟩
  intro i j near far hij hrow hget hget' hreturn hreturn'
  obtain ⟨-,rfl⟩ := (getElem?_distance_iff hok).mp hget
  obtain ⟨-,rfl⟩ := (getElem?_distance_iff hok).mp hget'
  have hroom (k : Nat) : 800 + s.step.drift + 10 * (k % s.step.settings.width.toNat) < 2 ^ 31 :=
    (hplace.step.columnFits hfits (Nat.mod_lt k hpixels.width_pos)).ramp_lt
  have hcolumns : i % s.step.settings.width.toNat ≤ j % s.step.settings.width.toNat := by
    have hi := Nat.div_add_mod i s.settings.width.toNat
    have hj := Nat.div_add_mod j s.settings.width.toNat
    rw [hcaptured.width] at hrow
    rw [hrow] at hi
    rw [step_settings]
    omega
  have hnear := toNat_pixel_of_ne (s := s.step) hnoise (hroom i) hreturn
  have hfar := toNat_pixel_of_ne (s := s.step) hnoise (hroom j) hreturn'
  rw [UInt16.le_iff_toNat_le, hnear, hfar]
  omega

/-- The first row of a frame without noise and dropouts. -/
theorem getElem?_first_row (hsettings : s.settings = settings) (hpixels : settings.HasPixels)
    (hnoise : settings.noise = 0) (hdrops : settings.NeverDrops) (hok : (s.nextFrame draws).1 = .ok f)
    (hx : x < settings.width.toNat) : f.distance[x]? = some (toDistance (s.step.ramp x)) := by
  subst hsettings
  have hcount := hpixels.lt_pixelCount hx
  have hreturn := pixel_of_return (s := s.step) (i := x) hnoise (hdrops.less_eq_false (draws x))
  rw [step_settings, Nat.mod_eq_of_lt hx] at hreturn
  rw [getElem?_distance_iff hok, hreturn]
  exact ⟨hcount,rfl⟩

/-- A row whose ramp wraps falls from its first column to the one that has wrapped. -/
theorem not_rowsRise_of_wraps (hsettings : s.settings = settings) (hpixels : settings.HasPixels)
    (hnoise : settings.noise = 0) (hdrops : settings.NeverDrops) (hok : (s.nextFrame draws).1 = .ok f)
    (hx : x < settings.width.toNat) (hplace : s.step.drift ≤ 975)
    (hpast : 2 ^ 31 ≤ 800 + s.step.drift + 10 * x) (hturn : 800 + s.step.drift + 10 * x < 2 ^ 32) :
    ¬ f.RowsRise := by
  intro hrises
  have hwrapped := getElem?_first_row hsettings hpixels hnoise hdrops hok hx
  rw [toDistance_ramp_of_wraps hpast hturn] at hwrapped
  have hfirst : (toDistance (s.step.ramp 0)).toNat = 800 + s.step.drift := by
    rw [toNat_toDistance_ramp (by omega)]
    omega
  have hreturn : toDistance (s.step.ramp 0) ≠ Frame.noReturn := by
    intro hnone
    rw [hnone] at hfirst
    change 0 = _ at hfirst
    omega
  have hwidth : f.width = settings.width := by
    obtain ⟨_,hok',hcaptured⟩ := nextFrame_eq_ok (hsettings.symm ▸ hpixels) draws
    cases hok.symm.trans hok'
    exact hcaptured.width.trans (congrArg SourceSettings.width hsettings)
  have hrow : 0 / f.width.toNat = x / f.width.toNat := by
    rw [hwidth, Nat.zero_div, Nat.div_eq_of_lt hx]
  have hle := hrises 0 x _ _ (Nat.zero_le x) hrow
    (getElem?_first_row hsettings hpixels hnoise hdrops hok hpixels.width_pos) hwrapped hreturn (by decide)
  rw [UInt16.le_iff_toNat_le, hfirst] at hle
  change _ ≤ 1 at hle
  omega

/-! ## All rows -/

theorem rampInRange_of_fits (hpixels : settings.HasPixels) (hfits : settings.RampFits) :
    settings.RampInRange := by
  intro requests i jitter _ hlow hhigh
  have hsettings := after_settings settings requests
  have hcolumn : (after settings requests).ColumnFits (i % settings.width.toNat) :=
    (after_inPlace settings requests).columnFits (hsettings.symm ▸ hfits)
      (hsettings.symm ▸ Nat.mod_lt i hpixels.width_pos)
  have hnoise := settings.noise.toNat_lt
  refine inRange_of_lt hcolumn.ramp_lt ?_ ?_
  · omega
  · rw [ColumnFits, hsettings] at hcolumn
    omega

theorem fits_of_rampInRange (hpixels : settings.HasPixels) (hrange : settings.RampInRange) :
    settings.RampFits := by
  have hlast : settings.width.toNat - 1 < settings.width.toNat :=
    Nat.sub_one_lt_of_lt hpixels.width_pos
  have hpixel := hpixels.lt_pixelCount hlast
  let jitter := Int32.ofNat settings.noise.toNat
  have hjitter : jitter.toInt = settings.noise.toNat :=
    Int32.toInt_ofNat_of_lt (settings.noise.toNat_lt.trans (by decide))
  let requests := List.replicate 390 (Request.frame fun _ => {})
  have hdrift : (after settings requests).drift = 975 := by
    rw [after_inPlace settings requests, frames_after_frames]
    rfl
  have hfar := (hrange requests _ jitter hpixel (by omega) hjitter.le).distance
  have hword := ((after settings requests).ramp
    ((settings.width.toNat - 1) % settings.width.toNat) + jitter).toInt_lt
  rw [hfar, hdrift, Nat.mod_eq_of_lt hlast, hjitter] at hword
  unfold SourceSettings.RampFits SourceSettings.farEnd
  omega

theorem fits_of_rowsAlwaysRise (hpixels : settings.HasPixels) (hnoise : settings.noise = 0)
    (hdrops : settings.NeverDrops) (hrise : settings.RowsAlwaysRise) : settings.RampFits := by
  by_contra hlarge
  unfold SourceSettings.RampFits SourceSettings.farEnd at hlarge
  rw [hnoise, UInt16.toNat_zero] at hlarge
  obtain ⟨requests,hdrift⟩ := exists_drift_of_step settings
  obtain ⟨f,hok,hrises⟩ := hrise requests fun _ => {}
  -- The first column that wraps at the farthest place. As a literal it would be counted out.
  obtain ⟨x,hx⟩ : ∃ x, x = 214748188 := ⟨_,rfl⟩
  refine absurd hrises (not_rowsRise_of_wraps (x := x) (after_settings settings requests) hpixels hnoise
    hdrops hok ?_ hdrift.le ?_ ?_)
  · omega
  · omega
  · omega

/-! ## All captures -/

theorem capturesEnd_of_fits (hpixels : settings.HasPixels) (hfits : settings.RampFits) :
    settings.CapturesEnd := by
  intro requests draws
  have hsettings := (after_settings settings requests).symm
  have hplace := (after_inPlace settings requests).step
  exact ⟨_,(nextFrameTraced_safe (hsettings ▸ hpixels) (fun _ hx => hplace.columnFits (hsettings ▸ hfits) hx)
    draws).outcome⟩

/-- At its farthest place the source comes to the far end of the ramp, unless a column before it is past
the words already. -/
theorem fits_of_capturesEnd (hpixels : settings.HasPixels) (hreturn : settings.MayReturn)
    (hends : settings.CapturesEnd) : settings.RampFits := by
  obtain ⟨d,hd⟩ := hreturn
  obtain ⟨requests,hdrift⟩ := exists_drift_of_step settings
  let s := (after settings requests).step
  change s.drift = 975 at hdrift
  have hsettings : s.settings = settings := after_settings settings requests
  -- The first column that is past the words without noise. As a literal it would be counted out.
  obtain ⟨past,hpast⟩ : ∃ x, x = 214748188 := ⟨_,rfl⟩
  have hcolumn (x : Nat) (hx : x < settings.width.toNat) (hlast : x ≤ past) : s.ColumnFits x := by
    have hcount : x < (after settings requests).settings.pixelCount := by
      rw [after_settings]
      exact hpixels.lt_pixelCount hx
    have hmod : x % s.settings.width.toNat = x := by
      rw [hsettings]
      exact Nat.mod_eq_of_lt hx
    obtain ⟨_,hcapture⟩ := hends requests fun _ => d.farthest s.settings.noise
    have hpixel := nextFrameTraced_safe_iff.mp (outcome_eq_ok_iff.mp hcapture).1 x hcount
    have hfits := columnFits_of_safe (s := s) (by omega) (by omega) (hsettings ▸ hd) hpixel
    rwa [hmod] at hfits
  have hwidth := hpixels.width_pos
  by_contra hlarge
  unfold SourceSettings.RampFits SourceSettings.farEnd at hlarge
  by_cases hrow : settings.width.toNat - 1 ≤ past
  · have hfits := hcolumn (settings.width.toNat - 1) (Nat.sub_one_lt_of_lt hwidth) hrow
    rw [ColumnFits, hdrift, hsettings] at hfits
    omega
  · have hfits := hcolumn past (by omega) le_rfl
    rw [ColumnFits, hdrift] at hfits
    omega

/-- Whether the ramp of accepted settings stays in the range of its words, for every column, in every
state that requests lead to and with all the noise that there can be: exactly if the farthest of these
distances does. Then, without noise, the rows of all frames rise; and if nothing is dropped, only then. -/
theorem ramp_in_range_iff {s : Settings} (h : s.fault? = none) :
    (s.source.RampInRange ↔ s.source.RampFits) ∧
    (∀ d : Draw, -(s.source.noise.toNat : ℤ) ≤ (d.offset s.source.noise).toInt ∧
      (d.offset s.source.noise).toInt ≤ s.source.noise.toNat) ∧
    (s.source.noise = 0 → s.source.RampFits → s.source.RowsAlwaysRise) ∧
    (s.source.noise = 0 → s.source.NeverDrops → s.source.RowsAlwaysRise → s.source.RampFits) := by
  have hpixels := (Settings.accepted_of_fault? h).pixels
  refine ⟨⟨fits_of_rampInRange hpixels,rampInRange_of_fits hpixels⟩,?_,?_,?_⟩
  · exact fun d => d.toInt_offset_mem s.source.noise
  · intro hnoise hfits requests draws
    exact (after_inPlace s.source requests).rowsRise (after_settings s.source requests) hpixels hnoise
      hfits draws
  · exact fits_of_rowsAlwaysRise hpixels

/-- The widest row without noise. -/
theorem ramp_in_range_iff_widest :
    let s : Settings := { source := { width := 214748188, height := 1, noise := 0 } }
    s.fault? = none ∧ s.source.RampInRange ∧ s.source.RowsAlwaysRise := by
  intro s
  have hs : s.fault? = none := by decide +kernel
  have hfits : s.source.RampFits := by decide +kernel
  obtain ⟨hrange,-,hrise,-⟩ := ramp_in_range_iff hs
  exact ⟨hs,hrange.mpr hfits,hrise rfl hfits⟩

/-- The least width for which the first capture does not end well. -/
theorem first_capture_of_too_wide (hwidth : settings.width = 214748286) (hheight : settings.height ≠ 0)
    (hnoise : settings.noise = 0) (draws : Nat → Draw) :
    (nextFrameTraced { settings } draws).outcome = .error (.sum32 800 2147482850) := by
  let first : Source := { settings }
  have hpixels : settings.HasPixels := ⟨by rw [hwidth]; decide,hheight⟩
  have hdrift : first.step.drift = 0 := rfl
  obtain ⟨x,hx⟩ : ∃ x, x = 214748285 := ⟨_,rfl⟩
  have hcolumn : x < first.settings.width.toNat := by
    change x < settings.width.toNat
    rw [hwidth]
    change x < 214748286
    omega
  have hbefore : ∀ j < x, first.step.ColumnFits j := by
    intro j hj
    rw [ColumnFits, step_settings, hnoise, UInt16.toNat_zero]
    omega
  have hends := nextFrameTraced_of_past (s := first) hpixels (by omega) hcolumn hbefore (by omega) draws
  rw [hdrift, hx] at hends
  exact hends

/-- The first capture of a row that is too wide ends the program at its last pixel, where the row should
stay at the farthest distance. Where sums are not checked, that pixel has the nearest distance. -/
theorem ramp_wraps :
    let s : Settings := { source := { width := 214748286, height := 1, noise := 0, dropout := .zero false } }
    let first : Source := { settings := s.source }
    s.fault? = none ∧ ¬ s.source.RampInRange ∧
      (∀ draws, (first.nextFrameTraced draws).outcome = .error (.sum32 800 2147482850)) ∧
      (Machine.Step.sum32 800 2147482850).complaint? = some "attempt to add with overflow" ∧
      ∃ f, (first.nextFrameTraced fun _ => {}).value.1 = .ok f ∧
        f.distance[214748284]? = some 65535 ∧ f.distance[214748285]? = some 1 ∧ ¬ f.RowsRise := by
  intro s first
  have hpixels : s.source.HasPixels := ⟨by decide,by decide⟩
  have hdrops : s.source.NeverDrops := .inr (by decide)
  have hdrift : first.step.drift = 0 := rfl
  obtain ⟨f,hok,-⟩ := nextFrame_eq_ok (s := first) hpixels fun _ => {}
  obtain ⟨x,hx⟩ : ∃ x, x = 214748284 := ⟨_,rfl⟩
  have hwidth : x + 1 < s.source.width.toNat := by
    change x + 1 < 214748286
    omega
  have hpast : 2 ^ 31 ≤ 800 + first.step.drift + 10 * (x + 1) := by omega
  have hturn : 800 + first.step.drift + 10 * (x + 1) < 2 ^ 32 := by omega
  have hfarthest : toDistance (first.step.ramp x) = 65535 := by
    apply UInt16.toNat_inj.mp
    rw [toNat_toDistance_ramp (by omega)]
    change min 65535 _ = 65535
    omega
  have hlast := getElem?_first_row rfl hpixels rfl hdrops hok (Nat.lt_of_succ_lt hwidth)
  have hnext := getElem?_first_row rfl hpixels rfl hdrops hok hwidth
  rw [hfarthest] at hlast
  rw [toDistance_ramp_of_wraps hpast hturn] at hnext
  have hx' : x + 1 = 214748285 := congrArg Nat.succ hx
  rw [nextFrameTraced_value]
  refine ⟨by decide +kernel,?_,first_capture_of_too_wide rfl hpixels.2 rfl,rfl,f,hok,hx ▸ hlast,hx' ▸ hnext,?_⟩
  · intro hrange
    exact absurd (fits_of_rampInRange hpixels hrange) (by decide +kernel)
  · exact not_rowsRise_of_wraps rfl hpixels rfl hdrops hok hwidth (Nat.zero_le 975) hpast hturn

end Source
end SensorRelay
