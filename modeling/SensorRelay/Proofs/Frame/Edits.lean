import SensorRelay.Proofs.Bilateral.Apply
import SensorRelay.Proofs.Source

/-! # What the operations on a frame own

A frame can get other dimensions, be sealed, be read and be filtered, in any order. Its sequence number
and its amplitudes stay for good, and so does the number of samples in either channel, whatever the
dimensions say. Only sealing touches the checksum and only the filter touches the distances. Where the
filter fails, it does so before it has written anything.
-/
namespace SensorRelay.Frame

/-- An operation on a frame. -/
inductive Edit where
  | resize (width height : UInt32)
  | reseal
  | payload
  | denoise (p : Bilateral)

/-- What an operation answers. -/
inductive Reply where
  | done
  | bytes (payload : List UInt8)
  | denoised (result : Except Failure Unit)
deriving DecidableEq

/-- One operation: its answer and the frame that it leaves. -/
def edit (f : Frame) : Edit → Reply × Frame
  | .resize width height => (.done, f.resized width height)
  | .reseal => (.done, f.sealed)
  | .payload => (.bytes f.payload, f)
  | .denoise p =>
    match p.apply f with
    | .ok g => (.denoised (.ok ()), g)
    | .error e => (.denoised (.error e), f)

/-- The frame after a series of operations. -/
def edits (f : Frame) (es : List Edit) : Frame := es.foldl (fun f e => (f.edit e).2) f

variable {f g h : Frame}

/-- What no operation changes. -/
structure Keeps (f g : Frame) : Prop where
  sequence : g.sequence = f.sequence
  amplitude : g.amplitude = f.amplitude
  size : g.distance.size = f.distance.size

theorem Keeps.refl (f : Frame) : f.Keeps f := ⟨rfl,rfl,rfl⟩

theorem Keeps.trans (hfg : f.Keeps g) (hgh : g.Keeps h) : f.Keeps h where
  sequence := hgh.sequence.trans hfg.sequence
  amplitude := hgh.amplitude.trans hfg.amplitude
  size := hgh.size.trans hfg.size

/-! ## The filter as an operation -/

theorem edit_denoise_of_ok {p : Bilateral} (happly : p.apply f = .ok g) :
    f.edit (.denoise p) = (.denoised (.ok ()), g) := by
  simp only [edit, happly]

theorem edit_denoise_of_error {p : Bilateral} {e : Failure} (happly : p.apply f = .error e) :
    f.edit (.denoise p) = (.denoised (.error e), f) := by
  simp only [edit, happly]

theorem edit_denoise_cases (f : Frame) (p : Bilateral) :
    f.edit (.denoise p) = (.denoised (.error .invalidParameter), f) ∨
      f.edit (.denoise p) = (.denoised (.ok ()), { f with distance := p.smoothed f }) := by
  cases happly : p.apply f with
  | error e =>
    obtain ⟨rfl,-⟩ := Bilateral.apply_eq_error_iff.mp happly
    exact .inl (edit_denoise_of_error happly)
  | ok g =>
    obtain ⟨-,-,rfl⟩ := Bilateral.apply_eq_ok_iff.mp happly
    exact .inr (edit_denoise_of_ok happly)

theorem edit_denoise_refused_iff (f : Frame) (p : Bilateral) :
    (f.edit (.denoise p)).1 = .denoised (.error .invalidParameter) ↔
      p.validate ≠ .ok () ∨ f.distance.size ≠ f.pixelCount := by
  cases happly : p.apply f with
  | error e =>
    obtain ⟨rfl,hwrong⟩ := Bilateral.apply_eq_error_iff.mp happly
    simp [edit_denoise_of_error happly, hwrong]
  | ok g =>
    obtain ⟨hvalid,hsize,-⟩ := Bilateral.apply_eq_ok_iff.mp happly
    simp [edit_denoise_of_ok happly, Bilateral.validate_eq_ok_iff.mpr hvalid, hsize]

/-! ## One operation and a series of them -/

theorem edit_keeps (f : Frame) (e : Edit) : f.Keeps (f.edit e).2 := by
  cases e with
  | resize width height => exact ⟨rfl,rfl,rfl⟩
  | reseal => exact ⟨rfl,rfl,rfl⟩
  | payload => exact Keeps.refl f
  | denoise p =>
    rcases edit_denoise_cases f p with hrefused | hfiltered
    · rw [hrefused]
      exact Keeps.refl f
    · rw [hfiltered]
      exact ⟨rfl,rfl,Bilateral.smoothed_size⟩

theorem edit_checksum (f : Frame) {e : Edit} (hreseal : e ≠ .reseal) :
    (f.edit e).2.checksum = f.checksum := by
  cases e with
  | resize width height => rfl
  | reseal => exact absurd rfl hreseal
  | payload => rfl
  | denoise p => rcases edit_denoise_cases f p with hcase | hcase <;> rw [hcase]

theorem edit_dimensions (f : Frame) {e : Edit} (hresize : ∀ width height, e ≠ .resize width height) :
    (f.edit e).2.width = f.width ∧ (f.edit e).2.height = f.height := by
  cases e with
  | resize width height => exact absurd rfl (hresize width height)
  | reseal => exact ⟨rfl,rfl⟩
  | payload => exact ⟨rfl,rfl⟩
  | denoise p => rcases edit_denoise_cases f p with hcase | hcase <;> rw [hcase] <;> exact ⟨rfl,rfl⟩

theorem edit_distance (f : Frame) {e : Edit} (hdenoise : ∀ p, e ≠ .denoise p) :
    (f.edit e).2.distance = f.distance := by
  cases e with
  | denoise p => exact absurd rfl (hdenoise p)
  | _ => rfl

theorem edits_keep (f : Frame) (es : List Edit) : f.Keeps (f.edits es) := by
  induction es generalizing f with
  | nil => exact Keeps.refl f
  | cons e es ih => exact (edit_keeps f e).trans (ih (f.edit e).2)

/-- What one operation on `f` does, the operation being `e`. -/
structure Owned (f : Frame) (e : Edit) : Prop where
  keeps : f.Keeps (f.edit e).2
  dimensions : (∀ width height, e ≠ .resize width height) →
    (f.edit e).2.width = f.width ∧ (f.edit e).2.height = f.height
  distance : (∀ p, e ≠ .denoise p) → (f.edit e).2.distance = f.distance
  checksum : (f.edit e).2.checksum ≠ f.checksum → e = .reseal
  verified : e = .reseal → (f.edit e).2.verify = true
  refused : ∀ p, e = .denoise p →
    ((f.edit e).1 = .denoised (.error .invalidParameter) ↔
      p.validate ≠ .ok () ∨ f.distance.size ≠ f.width.toNat * f.height.toNat)
  /-- A failure is this one, and it leaves the frame as it was. -/
  failed : ∀ failure, (f.edit e).1 = .denoised (.error failure) →
    failure = .invalidParameter ∧ (f.edit e).2 = f
  /-- Success leaves the rest of the frame and the pixels without a return. -/
  filtered : (f.edit e).1 = .denoised (.ok ()) →
    { (f.edit e).2 with distance := f.distance } = f ∧
      ∀ i : Nat, (f.edit e).2.distance[i]? ≠ f.distance[i]? → f.distance[i]? ≠ some noReturn

theorem edit_owned (f : Frame) (e : Edit) : f.Owned e where
  keeps := edit_keeps f e
  dimensions := edit_dimensions f
  distance := edit_distance f
  checksum hchanged := by
    by_contra hreseal
    exact hchanged (edit_checksum f hreseal)
  verified := by
    rintro rfl
    exact sealed_verify f
  refused := by
    rintro p rfl
    exact edit_denoise_refused_iff f p
  failed failure hfailed := by
    cases e with
    | denoise p =>
      rcases edit_denoise_cases f p with hrefused | hfiltered
      · rw [hrefused] at hfailed ⊢
        cases hfailed
        exact ⟨rfl,rfl⟩
      · rw [hfiltered] at hfailed
        cases hfailed
    | _ => cases hfailed
  filtered hok := by
    cases e with
    | denoise p =>
      rcases edit_denoise_cases f p with hrefused | hfiltered
      · rw [hrefused] at hok
        cases hok
      · rw [hfiltered]
        refine ⟨rfl,?_⟩
        intro i hchanged hnone
        exact hchanged ((Bilateral.smoothed_of_noReturn hnone).trans hnone.symm)
    | _ => cases hok

theorem create_eq_ok_iff {sequence : Nat} {width height : UInt32} {distance amplitude : Array UInt16} :
    create sequence width height distance amplitude = .ok f ↔
      width.toNat * height.toNat ≠ 0 ∧ distance.size = width.toNat * height.toNat ∧
        amplitude.size = width.toNat * height.toNat ∧
        sealed ⟨sequence,width,height,distance,amplitude,0⟩ = f := by
  rw [create]
  split
  · rename_i hzero
    simp [hzero]
  · rename_i hpixels
    split
    · rename_i hsize
      simp only [reduceCtorEq, false_iff]
      rintro ⟨-,hdistance,hamplitude,-⟩
      exact hsize.elim (· hdistance) (· hamplitude)
    · rename_i hsize
      simp only [not_or, not_not] at hsize
      simp [hpixels, hsize]

/-- In every series of operations on a new frame each one changes what it owns, and nothing else. -/
theorem edits_change_what_they_own {sequence : Nat} {width height : UInt32}
    {distance amplitude : Array UInt16}
    (hf : create sequence width height distance amplitude = .ok f) (es : List Edit) (e : Edit) :
    let g := f.edits es
    (g.sequence = sequence ∧ g.amplitude = amplitude ∧ g.distance.size = distance.size ∧
      distance.size = amplitude.size) ∧ g.Owned e := by
  obtain ⟨-,hdistance,hamplitude,rfl⟩ := create_eq_ok_iff.mp hf
  have hkeeps := edits_keep (sealed ⟨sequence,width,height,distance,amplitude,0⟩) es
  exact ⟨⟨hkeeps.sequence,hkeeps.amplitude,hkeeps.size,hdistance.trans hamplitude.symm⟩,
    edit_owned _ e⟩

theorem edits_change_what_they_own_transposed :
    let f := sealed ⟨7,2,1,#[1000, 0],#[5, 6],0⟩
    let g := f.edits [.denoise .standard, .resize 1 2, .reseal]
    create 7 2 1 #[1000, 0] #[5, 6] = .ok f ∧
      g.amplitude = #[5, 6] ∧ g.Owned (.denoise { Bilateral.standard with window := 4 }) := by
  intro f g
  have hf : create 7 2 1 #[1000, 0] #[5, 6] = .ok f := rfl
  obtain ⟨⟨-,hamplitude,-,-⟩,howned⟩ := edits_change_what_they_own hf
    [.denoise .standard, .resize 1 2, .reseal] (.denoise { Bilateral.standard with window := 4 })
  exact ⟨hf,hamplitude,howned⟩

end SensorRelay.Frame
