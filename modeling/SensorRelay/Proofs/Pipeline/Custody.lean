import Mathlib.Data.List.Perm.Basic
import Mathlib.Data.List.Range
import SensorRelay.Proofs.ItemQueue.Conservation
import SensorRelay.Proofs.Pipeline.Traffic
import SensorRelay.Proofs.Source

/-! # Custody of captured frames

Every captured frame has one holder: the consumer, the producer to whom it was handed back, the
destructor, or still the queue. Frames change hands whole and reach the consumer in the order in which
they were captured.
-/
namespace SensorRelay
namespace Pipeline

inductive FrameStep where
  /-- One frame, with the draws for its pixels. Several captures are several steps. -/
  | capture (draws : Nat → Draw)
  | consume
  | clear
  | close

/-- The frames that a run captured, and who got them, each in the order of time. -/
structure Custody where
  captured : List Frame := []
  /-- A frame as the queue gave it, and what was made of it. -/
  consumed : List (Frame × Consumed) := []
  /-- Handed back by an enqueue. -/
  returned : List Frame := []
  /-- Released by an enqueue. -/
  evicted : List Frame := []
  /-- Released by a clear or a close. -/
  discarded : List Frame := []

/-- The frames that are no longer in the queue. -/
def Custody.left (c : Custody) : List Frame :=
  c.consumed.map Prod.fst ++ c.returned ++ c.evicted ++ c.discarded

/-- What an enqueue hands back. -/
def refused : ItemQueue.Ending Frame (Except (Refusal Frame) Unit) → List Frame
  | .returned (.error refusal) => [refusal.item]
  | _ => []

/-- The custody after a capture, with the frame that the source gave and what the queue did with it. -/
def Custody.capture (c : Custody) (frame : Except FrameError Frame)
    (stored : Except FrameError (ItemQueue.Effect Frame (Except (Refusal Frame) Unit))) : Custody :=
  match frame, stored with
  | .ok f, .ok effect =>
    { c with
      captured := c.captured ++ [f]
      returned := c.returned ++ refused effect.ending
      evicted := c.evicted ++ effect.destroyed }
  | _, _ => c

def Custody.consume (c : Custody) (frame : Except Failure Frame) (result : Except Failure Consumed) :
    Custody :=
  match frame, result with
  | .ok f, .ok consumed => { c with consumed := c.consumed ++ [(f, consumed)] }
  | _, _ => c

def Custody.discard (c : Custody) (frames : List Frame) : Custody :=
  { c with discarded := c.discarded ++ frames }

/-- The pipeline after a step, and the custody with what the step moved. -/
def handle (p : Pipeline) (c : Custody) : FrameStep → Pipeline × Custody
  | .capture draws =>
    ((p.capture draws).2, c.capture (p.source.nextFrame draws).1 (p.capture draws).1.frame)
  | .consume => (p.consume.2, c.consume (p.frames.receive .poll).1 p.consume.1)
  | .clear => (p.clear.2, c.discard p.clear.1.destroyed)
  | .close => (p.closeFrames.2, c.discard p.closeFrames.1.destroyed)

def handleAll (p : Pipeline) (c : Custody) : List FrameStep → Pipeline × Custody
  | [] => (p, c)
  | step :: later => (p.handle c step).1.handleAll (p.handle c step).2 later

/-- The frames captured so far, numbered up to `n`, are those of the custody and of the queue's list. -/
structure Balanced (c : Custody) (l : ItemQueue.Fifo Frame) (n : Nat) : Prop where
  numbered : c.captured.map Frame.sequence = List.range' 1 n
  verified : ∀ f ∈ c.captured, f.verify = true
  ordered : (c.consumed.map Prod.fst ++ l.items).Sublist c.captured
  split : (c.left ++ l.items).Perm c.captured
  evicted : l.overflow = .avoidDrop → c.evicted = []
  returned : l.overflow = .dropOldest → l.closed = false → c.returned = []

structure Kept (p : Pipeline) (c : Custody) (l : ItemQueue.Fifo Frame) : Prop where
  queue : ItemQueue.Implements p.frames l
  total : p.frames.HasTotalDestructor
  pixels : p.source.settings.HasPixels
  balanced : Balanced c l p.source.frames
  processed : ∀ x ∈ c.consumed, x.2 = process p.denoise x.1

variable {p : Pipeline} {c : Custody} {l : ItemQueue.Fifo Frame} {n : Nat} {f : Frame}

/-! ## One frame changes hands -/

theorem Balanced.numbered_append (h : Balanced c l n) (hf : f.sequence = n + 1) :
    (c.captured ++ [f]).map Frame.sequence = List.range' 1 (n + 1) := by
  rw [List.map_append, h.numbered, List.range'_concat, List.map_singleton, hf, Nat.one_mul,
    Nat.add_comm]

theorem Balanced.verified_append (h : Balanced c l n) (hf : f.verify = true) :
    ∀ g ∈ c.captured ++ [f], g.verify = true :=
  List.forall_mem_append.mpr ⟨h.verified,List.forall_mem_singleton.mpr hf⟩

/-- Frames that leave the front of the queue leave the others in order. -/
theorem Balanced.ordered_of_split (h : Balanced c l n) {lost kept : List Frame}
    (hitems : l.items = lost ++ kept) : (c.consumed.map Prod.fst ++ kept).Sublist c.captured := by
  refine List.Sublist.trans ?_ h.ordered
  rw [hitems]
  exact (List.Sublist.refl _).append (List.sublist_append_right _ _)

-- That every frame has one holder is a count for every frame, which the moved frames do not change.
theorem Balanced.refuse (h : Balanced c l n) (hf : f.sequence = n + 1) (hverify : f.verify = true)
    (hwhy : l.closed = true ∨ l.overflow = .avoidDrop) :
    Balanced { c with captured := c.captured ++ [f], returned := c.returned ++ [f] } l (n + 1) := by
  refine ⟨h.numbered_append hf,h.verified_append hverify,?_,?_,h.evicted,?_⟩
  · exact h.ordered.trans (List.sublist_append_left _ _)
  · rw [List.perm_iff_count]
    intro a
    have ha := List.perm_iff_count.mp h.split a
    simp only [Custody.left, List.count_append] at ha ⊢
    omega
  · intro hmode hopen
    rcases hwhy with hclosed | hkeep
    · exact absurd (hclosed.symm.trans hopen) Bool.noConfusion
    · exact absurd (hkeep.symm.trans hmode) Overflow.noConfusion

theorem Balanced.store (h : Balanced c l n) (hf : f.sequence = n + 1) (hverify : f.verify = true)
    {lost kept : List Frame} (hitems : l.items = lost ++ kept)
    (hwhy : lost = [] ∨ l.overflow = .dropOldest) :
    Balanced { c with captured := c.captured ++ [f], evicted := c.evicted ++ lost }
      { l with items := kept ++ [f] } (n + 1) := by
  refine ⟨h.numbered_append hf,h.verified_append hverify,?_,?_,?_,h.returned⟩
  · change (c.consumed.map Prod.fst ++ (kept ++ [f])).Sublist (c.captured ++ [f])
    rw [← List.append_assoc]
    exact (h.ordered_of_split hitems).append (List.Sublist.refl _)
  · rw [List.perm_iff_count]
    intro a
    have ha := List.perm_iff_count.mp h.split a
    simp only [Custody.left, hitems, List.count_append] at ha ⊢
    omega
  · intro hmode
    rcases hwhy with hnone | hdrop
    · change c.evicted ++ lost = []
      rw [hnone, h.evicted hmode, List.append_nil]
    · exact absurd (hdrop.symm.trans hmode) Overflow.noConfusion

theorem Balanced.take (h : Balanced c l n) {kept : List Frame} (hitems : l.items = f :: kept)
    (result : Consumed) :
    Balanced { c with consumed := c.consumed ++ [(f, result)] } { l with items := kept } n := by
  refine ⟨h.numbered,h.verified,?_,?_,h.evicted,h.returned⟩
  · have hordered := h.ordered
    rw [hitems] at hordered
    simpa using hordered
  · rw [List.perm_iff_count]
    intro a
    have ha := List.perm_iff_count.mp h.split a
    simp only [Custody.left, hitems, List.map_append, List.map_singleton, List.count_append,
      List.count_cons, List.count_nil] at ha ⊢
    omega

theorem Balanced.discard {l' : ItemQueue.Fifo Frame} (h : Balanced c l n) {lost : List Frame}
    (hitems : l.items = lost ++ l'.items) (hmode : l'.overflow = l.overflow)
    (hclosed : l'.closed = false → l.closed = false) : Balanced (c.discard lost) l' n := by
  refine ⟨h.numbered,h.verified,h.ordered_of_split hitems,?_,?_,?_⟩
  · rw [List.perm_iff_count]
    intro a
    have ha := List.perm_iff_count.mp h.split a
    simp only [Custody.left, Custody.discard, hitems, List.count_append] at ha ⊢
    omega
  · rw [hmode]
    exact h.evicted
  · rw [hmode]
    exact fun hdrop hopen => h.returned hdrop (hclosed hopen)

/-! ## One step -/

theorem handle_capture (draws : Nat → Draw) (h : (p.source.nextFrame draws).1 = .ok f) :
    (p.handle c (.capture draws)).1.frames = (p.frames.enqueue f).queue ∧
    (p.handle c (.capture draws)).2 = { c with
      captured := c.captured ++ [f]
      returned := c.returned ++ refused (p.frames.enqueue f).ending
      evicted := c.evicted ++ (p.frames.enqueue f).destroyed } := by
  have hoffer : offer p.frames (p.source.nextFrame draws).1 =
      (.ok (p.frames.enqueue f),(p.frames.enqueue f).queue) := by
    rw [h]
    rfl
  refine ⟨congrArg Prod.snd hoffer,?_⟩
  change c.capture (p.source.nextFrame draws).1 (offer p.frames (p.source.nextFrame draws).1).1 = _
  rw [hoffer, h]
  rfl

theorem Kept.capture (h : Kept p c l) (draws : Nat → Draw) :
    ∃ l', Kept (p.handle c (.capture draws)).1 (p.handle c (.capture draws)).2 l' ∧
      l'.overflow = l.overflow ∧ l'.closed = l.closed := by
  obtain ⟨f,hframe,hcaptured⟩ := Source.nextFrame_eq_ok h.pixels draws
  obtain ⟨hqueue,hcustody⟩ := handle_capture (c := c) draws hframe
  obtain ⟨d,hd,htotal⟩ := h.total
  obtain ⟨hending,hdestroyed,hleft,hsame⟩ :=
    ItemQueue.agrees_of_total htotal (h.queue.enqueue hd f)
  rw [← hqueue] at hleft hsame
  rw [hending, hdestroyed] at hcustody
  have hlast := h.total.of_eq hsame
  rw [hcustody]
  rcases l.enqueue_cases f with ⟨kind,henqueue,hwhy⟩ | ⟨lost,kept,hitems,henqueue,hwhy⟩
  · rw [henqueue] at hleft ⊢
    have hbalanced := h.balanced.refuse hcaptured.sequence hcaptured.verified hwhy
    rw [← List.append_nil c.evicted] at hbalanced
    exact ⟨l,⟨hleft,hlast,h.pixels,hbalanced,h.processed⟩,rfl,rfl⟩
  · rw [henqueue] at hleft ⊢
    have hbalanced := h.balanced.store hcaptured.sequence hcaptured.verified hitems hwhy
    rw [← List.append_nil c.returned] at hbalanced
    exact ⟨_,⟨hleft,hlast,h.pixels,hbalanced,h.processed⟩,rfl,rfl⟩

theorem Kept.consume (h : Kept p c l) :
    ∃ l', Kept (p.handle c .consume).1 (p.handle c .consume).2 l' ∧
      l'.overflow = l.overflow ∧ l'.closed = l.closed := by
  have hagrees := h.queue.dequeue .poll
  rcases l.dequeue_poll_cases with ⟨failure,hdequeue⟩ | ⟨f,kept,hitems,hdequeue⟩
  · rw [hdequeue] at hagrees
    obtain ⟨left,hreceive,hleft,hsame⟩ := hagrees.receive
    have hhandle : p.handle c .consume = ({ p with frames := left }, c) := by
      simp only [handle, Pipeline.consume, hreceive]
      rfl
    rw [hhandle]
    exact ⟨l,⟨hleft,h.total.of_eq hsame,h.pixels,h.balanced,h.processed⟩,rfl,rfl⟩
  · rw [hdequeue] at hagrees
    obtain ⟨left,hreceive,hleft,hsame⟩ := hagrees.receive
    have hhandle : p.handle c .consume =
        ({ p with frames := left },
          { c with consumed := c.consumed ++ [(f, process p.denoise f)] }) := by
      simp only [handle, Pipeline.consume, hreceive]
      rfl
    rw [hhandle]
    refine ⟨_,⟨hleft,h.total.of_eq hsame,h.pixels,h.balanced.take hitems _,?_⟩,rfl,rfl⟩
    exact List.forall_mem_append.mpr ⟨h.processed,List.forall_mem_singleton.mpr rfl⟩

/-- A clear or a close moves frames from the front of the queue to the destructor. -/
theorem Kept.discard {ρ : Type} {e : ItemQueue.Effect Frame ρ} {result : ρ} {lost : List Frame}
    {l' : ItemQueue.Fifo Frame} (h : Kept p c l) (hagrees : p.frames.Agrees e (result,lost,l'))
    (hitems : l.items = lost ++ l'.items) (hmode : l'.overflow = l.overflow)
    (hclosed : l'.closed = false → l.closed = false) :
    Kept { p with frames := e.queue } (c.discard e.destroyed) l' := by
  obtain ⟨-,hdestroyed,hqueue,hsame⟩ := hagrees
  change e.destroyed = lost at hdestroyed
  rw [hdestroyed]
  exact ⟨hqueue,h.total.of_eq hsame,h.pixels,h.balanced.discard hitems hmode hclosed,h.processed⟩

theorem Kept.clear (h : Kept p c l) :
    ∃ l', Kept (p.handle c .clear).1 (p.handle c .clear).2 l' ∧
      l'.overflow = l.overflow ∧ l'.closed = l.closed := by
  obtain ⟨d,hd,htotal⟩ := h.total
  obtain ⟨hitems,hmode,hclosed⟩ := l.clear_splits
  have hagrees := ItemQueue.agrees_of_total htotal (h.queue.clear hd)
  exact ⟨_,h.discard hagrees hitems hmode hclosed.symm.trans,hmode,hclosed⟩

theorem Kept.close (h : Kept p c l) :
    ∃ l', Kept (p.handle c .close).1 (p.handle c .close).2 l' ∧ l'.overflow = l.overflow := by
  obtain ⟨d,hd,htotal⟩ := h.total
  obtain ⟨hitems,hmode,hclosed⟩ := l.close_splits
  have hagrees := ItemQueue.agrees_of_total htotal (h.queue.close hd)
  exact ⟨_,h.discard hagrees hitems hmode hclosed,hmode⟩

theorem Kept.handle (h : Kept p c l) (step : FrameStep) :
    ∃ l', Kept (p.handle c step).1 (p.handle c step).2 l' ∧ l'.overflow = l.overflow ∧
      (step ≠ .close → l'.closed = l.closed) := by
  cases step with
  | capture draws =>
    obtain ⟨l',hkept,hmode,hclosed⟩ := h.capture draws
    exact ⟨l',hkept,hmode,fun _ => hclosed⟩
  | consume =>
    obtain ⟨l',hkept,hmode,hclosed⟩ := h.consume
    exact ⟨l',hkept,hmode,fun _ => hclosed⟩
  | clear =>
    obtain ⟨l',hkept,hmode,hclosed⟩ := h.clear
    exact ⟨l',hkept,hmode,fun _ => hclosed⟩
  | close =>
    obtain ⟨l',hkept,hmode⟩ := h.close
    exact ⟨l',hkept,hmode,fun hne => absurd rfl hne⟩

/-! ## A whole run -/

theorem Kept.handleAll (h : Kept p c l) (steps : List FrameStep) :
    ∃ l', Kept (p.handleAll c steps).1 (p.handleAll c steps).2 l' ∧ l'.overflow = l.overflow ∧
      (.close ∉ steps → l'.closed = l.closed) := by
  induction steps generalizing p c l with
  | nil => exact ⟨l,h,rfl,fun _ => rfl⟩
  | cons step later ih =>
    obtain ⟨mid,hmid,hmode,hclosed⟩ := h.handle step
    obtain ⟨last,hlast,hmode',hclosed'⟩ := ih hmid
    refine ⟨last,hlast,hmode'.trans hmode,?_⟩
    intro hnever
    rw [List.mem_cons, not_or] at hnever
    obtain ⟨hstep,hlater⟩ := hnever
    exact (hclosed' hlater).trans (hclosed (Ne.symm hstep))

def FrameStep.isCapture : FrameStep → Bool
  | .capture _ => true
  | _ => false

theorem handle_source (p : Pipeline) (c : Custody) (step : FrameStep) :
    (p.handle c step).1.source.frames = p.source.frames + if step.isCapture then 1 else 0 := by
  cases step with
  | capture draws => rfl
  | consume => rfl
  | clear => rfl
  | close => rfl

theorem handle_denoise (p : Pipeline) (c : Custody) (step : FrameStep) :
    (p.handle c step).1.denoise = p.denoise := by
  cases step with
  | capture draws => rfl
  | consume => rfl
  | clear => rfl
  | close => rfl

theorem handleAll_source (p : Pipeline) (c : Custody) (steps : List FrameStep) :
    (p.handleAll c steps).1.source.frames = p.source.frames + steps.countP FrameStep.isCapture := by
  induction steps generalizing p c with
  | nil => rfl
  | cons step later ih =>
    rw [Pipeline.handleAll, ih, handle_source, List.countP_cons, Nat.add_assoc, Nat.add_comm (ite _ _ _)]

theorem handleAll_denoise (p : Pipeline) (c : Custody) (steps : List FrameStep) :
    (p.handleAll c steps).1.denoise = p.denoise := by
  induction steps generalizing p c with
  | nil => rfl
  | cons step later ih => exact (ih _ _).trans (p.handle_denoise c step)

/-- Who holds the frames after a run of a new pipeline. -/
structure Accounted (overflow : Overflow) (denoise : Bilateral) (steps : List FrameStep)
    (last : Pipeline) (c : Custody) : Prop where
  captured : c.captured.map Frame.sequence = List.range' 1 (steps.countP FrameStep.isCapture)
  consumed : (c.consumed.map Prod.fst).Sublist c.captured
  /-- A frame is consumed as the one with its number was captured. -/
  unchanged : ∀ x ∈ c.consumed, 0 < x.1.sequence ∧ c.captured[x.1.sequence - 1]? = some x.1
  increasing : (c.consumed.map (·.1.sequence)).Pairwise (· < ·)
  verified : ∀ x ∈ c.consumed, x.1.verify = true ∧ x.2 = process denoise x.1 ∧ x.2.verified = true
  /-- Each captured frame is held once. -/
  partition : (c.left ++ last.frames.stored).Perm c.captured
  evicted : overflow = .avoidDrop → c.evicted = []
  returned : overflow = .dropOldest → .close ∉ steps → c.returned = []

theorem Balanced.consumed_sublist (h : Balanced c l n) :
    (c.consumed.map Prod.fst).Sublist c.captured := (List.sublist_append_left _ _).trans h.ordered

theorem Balanced.mem_captured (h : Balanced c l n) {x : Frame × Consumed} (hx : x ∈ c.consumed) :
    x.1 ∈ c.captured := h.consumed_sublist.subset (List.mem_map_of_mem hx)

theorem Balanced.increasing (h : Balanced c l n) :
    (c.consumed.map (·.1.sequence)).Pairwise (· < ·) := by
  have hnumbers := h.consumed_sublist.map Frame.sequence
  rw [h.numbered, List.map_map] at hnumbers
  exact List.Pairwise.sublist hnumbers List.pairwise_lt_range'

/-- The number of a captured frame tells its place. -/
theorem Balanced.getElem?_sequence (h : Balanced c l n) (hf : f ∈ c.captured) :
    0 < f.sequence ∧ c.captured[f.sequence - 1]? = some f := by
  obtain ⟨i,hi,rfl⟩ := List.mem_iff_getElem.mp hf
  have hnumber : c.captured[i].sequence = 1 + i := by
    have hget := congrArg (·[i]?) h.numbered
    have hlen := congrArg List.length h.numbered
    rw [List.length_map, List.length_range'] at hlen
    simp only [List.getElem?_map, List.getElem?_eq_getElem hi, Option.map_some,
      List.getElem?_range' (hlen ▸ hi), Nat.one_mul, Option.some.injEq] at hget
    exact hget
  rw [hnumber, Nat.add_sub_cancel_left]
  exact ⟨Nat.add_pos_left Nat.one_pos i,List.getElem?_eq_getElem hi⟩

theorem Kept.consumed_verified (h : Kept p c l) {x : Frame × Consumed} (hx : x ∈ c.consumed) :
    x.1.verify = true ∧ x.2 = process p.denoise x.1 ∧ x.2.verified = true := by
  have hverify := h.balanced.verified x.1 (h.balanced.mem_captured hx)
  have hprocessed := h.processed x hx
  refine ⟨hverify,hprocessed,?_⟩
  rw [hprocessed]
  exact hverify

theorem fresh_kept {settings : SourceSettings} (hpixels : settings.HasPixels) {frameCapacity : UInt64}
    (hpos : 0 < frameCapacity.toNat) (hlt : frameCapacity.toNat < 2 ^ 63) (overflow : Overflow)
    (byteCapacity : UInt64) (denoise : Bilateral) :
    Kept (fresh settings frameCapacity overflow byteCapacity denoise) {}
      ⟨frameCapacity.toNat,overflow,[],false⟩ where
  queue := ItemQueue.fresh_implements hpos hlt overflow _
  total := ⟨_,rfl,fun _ => rfl⟩
  pixels := hpixels
  balanced := ⟨rfl,fun _ hf => absurd hf List.not_mem_nil,List.Sublist.refl _,List.Perm.refl _,
    fun _ => rfl,fun _ _ => rfl⟩
  processed := fun _ hx => absurd hx List.not_mem_nil

/-- In every run of captures, consumes, clears and closes each captured frame is consumed, handed back,
evicted, discarded or still queued, and is just one of these. What is consumed is what was captured, in
order, and its checksum is right. -/
theorem frames_accounted_for {settings : SourceSettings} (hpixels : settings.HasPixels)
    {frameCapacity byteCapacity : UInt64} (hframes : 0 < frameCapacity.toNat)
    (hframes' : frameCapacity.toNat < 2 ^ 63) (hbytes : 0 < byteCapacity.toNat)
    (hbytes' : byteCapacity.toNat < 2 ^ 63) (overflow : Overflow) (denoise : Bilateral) :
    ∃ p, create settings frameCapacity overflow byteCapacity denoise = .ok p ∧
      ∀ steps,
        Accounted overflow denoise steps (p.handleAll {} steps).1 (p.handleAll {} steps).2 := by
  refine ⟨_,create_eq_ok hframes hframes' hbytes hbytes' settings overflow denoise,?_⟩
  intro steps
  have hfresh := fresh_kept hpixels hframes hframes' overflow byteCapacity denoise
  obtain ⟨l,hkept,hmode,hclosed⟩ := hfresh.handleAll steps
  have hcount := handleAll_source (fresh settings frameCapacity overflow byteCapacity denoise) {} steps
  have hdenoise := handleAll_denoise (fresh settings frameCapacity overflow byteCapacity denoise) {} steps
  have hbalanced := hkept.balanced
  rw [hcount] at hbalanced
  exact {
    captured := hbalanced.numbered.trans (congrArg (List.range' 1 ·) (Nat.zero_add _))
    consumed := hbalanced.consumed_sublist
    unchanged := fun x hx => hbalanced.getElem?_sequence (hbalanced.mem_captured hx)
    increasing := hbalanced.increasing
    verified := by
      intro x hx
      have hx' := hkept.consumed_verified hx
      rw [hdenoise] at hx'
      exact hx'
    partition := by
      rw [hkept.queue.stored]
      exact hbalanced.split
    evicted := fun hkeep => hbalanced.evicted (hmode.trans hkeep)
    returned := fun hdrop hnever => hbalanced.returned (hmode.trans hdrop) (hclosed hnever) }

/-- One slot: the second frame evicts the first, the third is handed back after the close. -/
theorem frames_accounted_for_one_slot :
    (SourceSettings.HasPixels { width := 2, height := 1 } ∧
      (0 < (1 : UInt64).toNat ∧ (1 : UInt64).toNat < 2 ^ 63) ∧
      (0 < (19 : UInt64).toNat ∧ (19 : UInt64).toNat < 2 ^ 63)) ∧
    ∃ p, create { width := 2, height := 1 } 1 .dropOldest 19 .standard = .ok p ∧
      let draws : Nat → Draw := fun _ => {}
      let steps : List FrameStep :=
        [.capture draws, .capture draws, .consume, .clear, .close, .capture draws]
      let c := (p.handleAll {} steps).2
      Accounted .dropOldest .standard steps (p.handleAll {} steps).1 c ∧
        c.evicted.map Frame.sequence = [1] ∧ c.consumed.map (·.1.sequence) = [2] ∧
        c.returned.map Frame.sequence = [3] := by
  have hpixels : SourceSettings.HasPixels { width := 2, height := 1 } := ⟨by decide,by decide⟩
  have hframes : 0 < (1 : UInt64).toNat ∧ (1 : UInt64).toNat < 2 ^ 63 := by decide
  have hbytes : 0 < (19 : UInt64).toNat ∧ (19 : UInt64).toNat < 2 ^ 63 := by decide
  obtain ⟨p,hcreate,haccount⟩ :=
    frames_accounted_for hpixels hframes.1 hframes.2 hbytes.1 hbytes.2 .dropOldest .standard
  have hfresh : fresh { width := 2, height := 1 } 1 .dropOldest 19 .standard = p :=
    Except.ok.inj ((create_eq_ok hframes.1 hframes.2 hbytes.1 hbytes.2 _ _ _).symm.trans hcreate)
  subst hfresh
  exact ⟨⟨hpixels,hframes,hbytes⟩,_,hcreate,haccount _,by decide +kernel,by decide +kernel,
    by decide +kernel⟩

end Pipeline
end SensorRelay
