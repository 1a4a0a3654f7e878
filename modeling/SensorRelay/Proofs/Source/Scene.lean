import SensorRelay.Proofs.Binary.Arithmetic
import SensorRelay.Proofs.Source

/-! # The scene of a source

Without noise the distances of a frame depend on its number alone. The scene moves by 25 units at
every tenth capture, modulo 1000, and the telemetry between two captures does not move it; that the
drift is the one of the number of captures is the invariant of a run. From it every frame is the ramp
at its place, as long as the columns stay in the range of the integers in which the ramp is computed.
-/
namespace SensorRelay
open Binary

/-! ## The chance of a draw -/

namespace Draw

/-- The chances are among the values of the format, so that none of them is rounded. -/
theorem fraction_exact (d : Draw) :
    d.fraction.isFinite = true ∧ d.fraction.toRat = (d.chance.val : ℚ) / chances := by
  have hpow : (chances : ℚ) = 2 ^ (24 : ℤ) := by norm_num [chances]
  have hlt : (d.chance.val : ℚ) < chances := by exact_mod_cast d.chance.isLt
  have hpos : (0 : ℚ) < chances := by norm_num [chances]
  have hnonneg : 0 ≤ (d.chance.val : ℚ) / chances := div_nonneg (Nat.cast_nonneg _) hpos.le
  have hbound : (d.chance.val : ℚ) / chances ≤ Format.single.bound := by
    calc (d.chance.val : ℚ) / chances ≤ 1 := (div_le_one hpos).mpr hlt.le
      _ = 2 ^ (0 : ℤ) := (zpow_zero 2).symm
      _ ≤ Format.single.bound := Format.two_zpow_le_bound (by decide)
  have hholds : Format.single.Holds ((d.chance.val : ℚ) / chances) := by
    refine ⟨d.chance.val,-24,?_,by decide,?_⟩
    · rw [Nat.abs_cast]
      exact_mod_cast d.chance.isLt.le
    · rw [hpow, div_eq_mul_inv, ← zpow_neg, Int.cast_natCast]
  have hrounds := Value.round_rounds (F := .single) false d.chance.val (d := chances) (by decide) 0
    (by simpa [abs_of_nonneg hnonneg] using hbound)
  rw [if_neg Bool.false_ne_true, one_mul, zpow_zero, mul_one] at hrounds
  exact ⟨hrounds.finite,hrounds.nearest.eq_of_holds hholds⟩

theorem fraction_nonneg (d : Draw) : 0 ≤ d.fraction.toRat := by
  rw [d.fraction_exact.2]
  positivity

theorem fraction_lt_one (d : Draw) : d.fraction.toRat < 1 := by
  rw [d.fraction_exact.2, div_lt_one (by norm_num [chances])]
  exact_mod_cast d.chance.isLt

end Draw

namespace SourceSettings
variable {settings : SourceSettings}

/-- A noiseless scene, not too wide for its ramp. -/
structure Noiseless (settings : SourceSettings) : Prop where
  pixels : settings.HasPixels
  noise : settings.noise = 0
  width : settings.width.toNat ≤ 200000000

/-- The share of pixels without a return is not above zero, or not a number. -/
def NeverDrops (settings : SourceSettings) : Prop :=
  settings.dropout.isNaN = true ∨ settings.dropout.atMost (.zero false) = true

/-- The share of pixels without a return is not below one. -/
def AlwaysDrops (settings : SourceSettings) : Prop :=
  Value.atMost (.ofNat 1) settings.dropout = true

theorem NeverDrops.less_eq_false (h : settings.NeverDrops) (d : Draw) :
    d.fraction.less settings.dropout = false := by
  rcases h with hnan | hle
  · exact Value.less_eq_false_of_isNaN hnan
  · refine Value.less_eq_false_of_atMost d.fraction_exact.1 rfl ?_ hle
    rw [Value.toRat_zero]
    exact d.fraction_nonneg

theorem AlwaysDrops.less_eq_true (h : settings.AlwaysDrops) (d : Draw) :
    d.fraction.less settings.dropout = true := by
  have hone : (Value.ofNat 1 : Single) = .finite false (2 ^ 23) (-23) := by decide
  rw [AlwaysDrops, hone] at h
  refine Value.less_of_atMost d.fraction_exact.1 rfl ?_ h
  have hvalue : (Value.finite false (2 ^ 23) (-23) : Single).toRat = 1 := by
    rw [Value.toRat_finite]
    norm_num
  exact d.fraction_lt_one.trans_eq hvalue.symm

/-! ## The frames of the scene -/

/-- How far the scene has moved at the `n`-th capture. -/
def driftAt (n : Nat) : Nat := 25 * (n / 10) % 1000

/-- The distance of pixel `i` in the `n`-th frame. -/
def sceneDistance (settings : SourceSettings) (n i : Nat) : Nat :=
  min 65535 (800 + driftAt n + 10 * (i % settings.width.toNat))

def pixelCount (settings : SourceSettings) : Nat := settings.width.toNat * settings.height.toNat

/-- A column of the first row. -/
theorem HasPixels.lt_pixelCount (h : settings.HasPixels) {x : Nat} (hx : x < settings.width.toNat) :
    x < settings.pixelCount :=
  hx.trans_le (Nat.le_mul_of_pos_right _ h.height_pos)

end SourceSettings

namespace Frame

/-- A return from every pixel of the scene. -/
structure ShowsScene (f : Frame) (n : Nat) (settings : SourceSettings) : Prop where
  distance : f.distance.map UInt16.toNat =
    Array.ofFn fun i : Fin settings.pixelCount => settings.sceneDistance n i
  amplitude_size : f.amplitude.size = settings.pixelCount
  amplitude : ∀ a ∈ f.amplitude, 200 ≤ a.toNat ∧ a.toNat < 1200

/-- No return from any pixel. -/
structure ShowsNothing (f : Frame) (settings : SourceSettings) : Prop where
  distance : f.distance = Array.replicate settings.pixelCount noReturn
  amplitude : f.amplitude = Array.replicate settings.pixelCount 0

/-- The `n`-th frame of the scene. -/
structure OfScene (f : Frame) (n : Nat) (settings : SourceSettings) : Prop where
  sequence : f.sequence = n
  width : f.width = settings.width
  height : f.height = settings.height
  verified : f.verify = true
  returns : settings.NeverDrops → f.ShowsScene n settings
  silence : settings.AlwaysDrops → f.ShowsNothing settings

theorem channels_of_create {sequence : Nat} {width height : UInt32} {distance amplitude : Array UInt16}
    {f : Frame} (h : create sequence width height distance amplitude = .ok f) :
    f.distance = distance ∧ f.amplitude = amplitude := by
  rw [create] at h
  split at h
  · cases h
  · split at h
    · cases h
    · cases h
      exact ⟨rfl,rfl⟩

end Frame

namespace Source
variable {s : Source}

/-! ## One pixel -/

/-- The words of the ramp hold what the numbers would, taken round once at the end. -/
theorem ramp_eq_ofInt (s : Source) (x : Nat) : s.ramp x = Int32.ofInt (800 + s.drift + 10 * x) := by
  rw [Int32.ofInt_add, Int32.ofInt_add, Int32.ofInt_mul, Int32.mul_comm]
  rfl

theorem toInt_ramp {x : Nat} (hfits : 800 + s.drift + 10 * x < 2 ^ 31) :
    (s.ramp x).toInt = 800 + s.drift + 10 * x := by
  rw [ramp_eq_ofInt]
  apply Int32.toInt_ofInt_of_le
  · omega
  · omega

theorem toNat_toDistance {d : Int32} (hd : 1 ≤ d.toInt) :
    (toDistance d).toNat = min 65535 d.toInt.toNat := by
  have hlow : ¬ d < 1 := by
    rw [Int32.lt_iff_toInt_lt, show (1 : Int32).toInt = 1 from rfl]
    omega
  have hhigh : 65535 < d ↔ 65535 < d.toInt := by
    rw [Int32.lt_iff_toInt_lt, show (65535 : Int32).toInt = 65535 from rfl]
  rw [toDistance, if_neg hlow]
  split
  · rename_i habove
    have habove' := hhigh.mp habove
    rw [show (65535 : UInt16).toNat = 65535 from rfl]
    omega
  · rename_i hbelow
    rw [hhigh] at hbelow
    have hsize : d.toInt.toNat < UInt16.size := by
      rw [show UInt16.size = 65536 from rfl]
      omega
    rw [UInt16.toNat_ofNat_of_lt' hsize]
    omega

/-- The drift is the one of the number of captures. -/
def InPlace (s : Source) : Prop := s.drift = SourceSettings.driftAt s.frames

theorem inPlace_of_new (settings : SourceSettings) : InPlace { settings } :=
  (by decide : 0 = SourceSettings.driftAt 0)

theorem InPlace.step (h : s.InPlace) : s.step.InPlace := by
  rw [InPlace, SourceSettings.driftAt] at h ⊢
  by_cases htenth : (s.frames + 1) % 10 = 0
  · simp only [Source.step, if_pos htenth]
    omega
  · simp only [Source.step, if_neg htenth]
    omega

theorem InPlace.drift_le (h : s.InPlace) : s.drift ≤ 975 := by
  rw [InPlace, SourceSettings.driftAt] at h
  omega

theorem offset_of_noiseless (d : Draw) : d.offset 0 = 0 := by
  rw [Draw.offset, show (0 : UInt16).toNat = 0 from rfl, Nat.mul_zero, Nat.zero_add, Nat.mod_one]
  rfl

theorem amplitude_mem (d : Draw) : 200 ≤ d.amplitude.toNat ∧ d.amplitude.toNat < 1200 := by
  have hstrength := d.strength.isLt
  have hsize : 200 + d.strength.val < UInt16.size := by
    rw [show UInt16.size = 65536 from rfl]
    omega
  rw [Draw.amplitude, UInt16.toNat_ofNat_of_lt' hsize]
  omega

/-- A pixel with a return, on a ramp without noise. -/
theorem pixel_of_return {d : Draw} {i : Nat} (hnoise : s.settings.noise = 0)
    (hreturn : d.fraction.less s.settings.dropout = false) :
    s.pixel d i = (toDistance (s.ramp (i % s.settings.width.toNat)),d.amplitude) := by
  have hless : ¬ d.fraction.less s.settings.dropout = true := by
    rw [hreturn]
    exact Bool.false_ne_true
  rw [pixel, if_neg hless, hnoise, offset_of_noiseless, Int32.add_zero]

theorem toNat_toDistance_ramp {x : Nat} (hfits : 800 + s.drift + 10 * x < 2 ^ 31) :
    (toDistance (s.ramp x)).toNat = min 65535 (800 + s.drift + 10 * x) := by
  have hramp := toInt_ramp hfits
  rw [toNat_toDistance (by omega), hramp]
  omega

theorem InPlace.pixel_of_neverDrops (hplace : s.InPlace) (hsettings : s.settings.Noiseless)
    (hdrops : s.settings.NeverDrops) (d : Draw) (i : Nat) :
    (s.pixel d i).1.toNat = s.settings.sceneDistance s.frames i ∧ (s.pixel d i).2 = d.amplitude := by
  have hcolumn := Nat.mod_lt i hsettings.pixels.width_pos
  have hdrift := hplace.drift_le
  have hwidth := hsettings.width
  rw [pixel_of_return hsettings.noise (hdrops.less_eq_false d)]
  refine ⟨?_,rfl⟩
  rw [toNat_toDistance_ramp (by omega), SourceSettings.sceneDistance, ← hplace]

theorem pixel_of_alwaysDrops (hdrops : s.settings.AlwaysDrops) (d : Draw) (i : Nat) :
    s.pixel d i = (Frame.noReturn,0) := by
  rw [pixel, if_pos (hdrops.less_eq_true d)]

/-! ## One capture -/

theorem channels_of_nextFrame {draws : Nat → Draw} {f : Frame} (h : (s.nextFrame draws).1 = .ok f) :
    f.distance = (Array.ofFn fun i : Fin s.settings.pixelCount => (s.step.pixel (draws i) i).1) ∧
      f.amplitude = Array.ofFn fun i : Fin s.settings.pixelCount => (s.step.pixel (draws i) i).2 := by
  obtain ⟨hdistance,hamplitude⟩ := Frame.channels_of_create h
  rw [hdistance, hamplitude, Array.map_ofFn, Array.map_ofFn]
  exact ⟨rfl,rfl⟩

theorem InPlace.showsScene (hplace : s.InPlace) (hsettings : s.settings.Noiseless)
    (hdrops : s.settings.NeverDrops) {draws : Nat → Draw} {f : Frame}
    (hok : (s.nextFrame draws).1 = .ok f) : f.ShowsScene (s.frames + 1) s.settings := by
  obtain ⟨hdistance,hamplitude⟩ := channels_of_nextFrame hok
  have hpixel := hplace.step.pixel_of_neverDrops hsettings hdrops
  refine ⟨?_,?_,?_⟩
  · rw [hdistance, Array.map_ofFn]
    exact congrArg Array.ofFn (funext fun i => (hpixel (draws i) i).1)
  · rw [hamplitude, Array.size_ofFn]
  · intro a ha
    rw [hamplitude, Array.mem_ofFn] at ha
    obtain ⟨i,rfl⟩ := ha
    rw [(hpixel (draws i) i).2]
    exact amplitude_mem (draws i)

theorem showsNothing_of_alwaysDrops (hdrops : s.settings.AlwaysDrops) {draws : Nat → Draw} {f : Frame}
    (hok : (s.nextFrame draws).1 = .ok f) : f.ShowsNothing s.settings := by
  obtain ⟨hdistance,hamplitude⟩ := channels_of_nextFrame hok
  have hpixel := pixel_of_alwaysDrops (s := s.step) hdrops
  constructor
  · rw [hdistance, Array.eq_replicate_iff]
    exact ⟨Array.size_ofFn,by simp [hpixel]⟩
  · rw [hamplitude, Array.eq_replicate_iff]
    exact ⟨Array.size_ofFn,by simp [hpixel]⟩

/-- The next capture of a source in place is the next frame of the scene. -/
theorem InPlace.nextFrame (hplace : s.InPlace) (hsettings : s.settings.Noiseless) (draws : Nat → Draw) :
    ∃ f, (s.nextFrame draws).1 = .ok f ∧ f.OfScene (s.frames + 1) s.settings := by
  obtain ⟨f,hok,hcaptured⟩ := nextFrame_eq_ok hsettings.pixels draws
  exact ⟨f,hok,hcaptured.sequence,hcaptured.width,hcaptured.height,hcaptured.verified,
    fun hdrops => hplace.showsScene hsettings hdrops hok,
    fun hdrops => showsNothing_of_alwaysDrops hdrops hok⟩

/-! ## Runs -/

/-- What a source is asked for: a capture, with the choices for its pixels, or a chunk of telemetry. -/
inductive Request where
  | frame (draws : Nat → Draw)
  | chunk

def Request.isFrame : Request → Bool
  | frame _ => true
  | chunk => false

/-- What the captures return, in order. -/
def captures : Source → List Request → List (Except FrameError Frame)
  | _, [] => []
  | s, .frame draws :: later => (s.nextFrame draws).1 :: captures (s.nextFrame draws).2 later
  | s, .chunk :: later => captures s.nextChunk.2 later

theorem length_captures (s : Source) (requests : List Request) :
    (s.captures requests).length = requests.countP Request.isFrame := by
  induction requests generalizing s with
  | nil => rfl
  | cons request later ih =>
    cases request with
    | frame draws => rw [captures, List.length_cons, ih, List.countP_cons_of_pos rfl]
    | chunk => rw [captures, ih, List.countP_cons_of_neg Bool.false_ne_true]

/-- From a source in place the captures are the frames of the scene that follow. -/
theorem InPlace.getElem?_captures (hplace : s.InPlace) (hsettings : s.settings.Noiseless)
    {requests : List Request} {n : Nat} (hn : n < requests.countP Request.isFrame) :
    ∃ f, (s.captures requests)[n]? = some (.ok f) ∧ f.OfScene (s.frames + 1 + n) s.settings := by
  induction requests generalizing s n with
  | nil => exact absurd hn (Nat.not_lt_zero n)
  | cons request later ih =>
    cases request with
    | chunk =>
      -- A chunk only counts itself.
      rw [List.countP_cons_of_neg Bool.false_ne_true] at hn
      exact ih (s := s.nextChunk.2) hplace hsettings hn
    | frame draws =>
      rw [List.countP_cons_of_pos rfl] at hn
      cases n with
      | zero =>
        obtain ⟨f,hok,hscene⟩ := hplace.nextFrame hsettings draws
        exact ⟨f,congrArg some hok,hscene⟩
      | succ n =>
        obtain ⟨f,hget,hscene⟩ := ih (s := s.step) hplace.step hsettings (Nat.lt_of_succ_lt_succ hn)
        have hnumber : s.step.frames + 1 + n = s.frames + 1 + (n + 1) := by
          simp only [Source.step]
          omega
        exact ⟨f,hget,hnumber ▸ hscene⟩

/-- **The scene of a noiseless source.** Whatever a new source is asked for, every capture
gives a frame, and the `n`-th is the `n`-th of the scene. -/
theorem captures_are_scene {settings : SourceSettings} (hsettings : settings.Noiseless)
    (requests : List Request) :
    (captures { settings } requests).length = requests.countP Request.isFrame ∧
      ∀ n, 1 ≤ n → n ≤ requests.countP Request.isFrame →
        ∃ f, (captures { settings } requests)[n - 1]? = some (.ok f) ∧ f.OfScene n settings := by
  refine ⟨length_captures _ requests,fun n hfirst hlast => ?_⟩
  have hbefore : n - 1 < requests.countP Request.isFrame := by omega
  obtain ⟨f,hget,hscene⟩ := (inPlace_of_new settings).getElem?_captures hsettings hbefore
  have hnumber : 0 + 1 + (n - 1) = n := by omega
  exact ⟨f,hget,hnumber ▸ hscene⟩

/-- The tenth frame, after a chunk, is the first that has moved, unless nothing returns. -/
theorem captures_are_scene_tenth :
    let settings (dropout : Single) : SourceSettings := { width := 2, height := 1, noise := 0, dropout }
    let requests : List Request := .chunk :: List.replicate 10 (.frame fun _ => {})
    (∃ f, (captures { settings := settings (.zero false) } requests)[9]? = some (.ok f) ∧
      f.sequence = 10 ∧ f.distance.map UInt16.toNat = #[825,835]) ∧
    ∃ f, (captures { settings := settings (.ofNat 1) } requests)[9]? = some (.ok f) ∧
      f.sequence = 10 ∧ f.distance = #[0,0] := by
  intro settings requests
  have hsize : (2 : UInt32) ≠ 0 ∧ (1 : UInt32) ≠ 0 ∧ (2 : UInt32).toNat ≤ 200000000 := by decide
  have hsettings (dropout : Single) : (settings dropout).Noiseless :=
    ⟨⟨hsize.1,hsize.2.1⟩,rfl,hsize.2.2⟩
  constructor
  · obtain ⟨f,hget,hscene⟩ :=
      (captures_are_scene (hsettings (.zero false)) requests).2 10 (by decide) (by decide)
    have hreturns := (hscene.returns (.inr (by decide))).distance
    exact ⟨f,hget,hscene.sequence,hreturns.trans (by decide)⟩
  · obtain ⟨f,hget,hscene⟩ :=
      (captures_are_scene (hsettings (.ofNat 1)) requests).2 10 (by decide) (by decide)
    have hsilence := (hscene.silence (by rw [SourceSettings.AlwaysDrops]; decide)).distance
    exact ⟨f,hget,hscene.sequence,hsilence⟩

end Source
end SensorRelay
