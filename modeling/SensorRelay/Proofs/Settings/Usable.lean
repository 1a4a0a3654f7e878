import SensorRelay.Proofs.ByteQueue.Contents
import SensorRelay.Proofs.Consumer
import SensorRelay.Proofs.ItemQueue.Contents
import SensorRelay.Proofs.Source.Ramp

/-! # What accepted settings are good for

The rules that settings are checked against are what the queues, the probe and the filter need, so that
none of them fails later because of the settings. Of the source they ask for pixels and no more: its
captures end well as long as its rows are not too wide for the words that distances are computed in.
-/
namespace SensorRelay

/-! ## What each rule is for -/

theorem Ring.create_ne_invalidParameter {capacity : UInt64} (h : capacity ≠ 0) :
    Ring.create capacity ≠ .error .invalidParameter := by
  rw [Ring.create, if_neg h]
  split <;> simp

theorem ByteQueue.create_ne_invalidParameter {capacity : UInt64} (h : capacity ≠ 0) :
    ByteQueue.create capacity ≠ .error .invalidParameter := by
  have hring := Ring.create_ne_invalidParameter h
  rw [ByteQueue.create]
  cases hcreate : Ring.create capacity with
  | error failure => simpa [hcreate] using hring
  | ok ring => simp

theorem FrameQueue.create_ne_invalidParameter {capacity : UInt64} (h : capacity ≠ 0)
    (overflow : Overflow) : FrameQueue.create capacity overflow ≠ .error .invalidParameter := by
  have hring := Ring.create_ne_invalidParameter h
  rw [FrameQueue.create, ItemQueue.create]
  cases hcreate : Ring.create capacity with
  | error failure => simpa [hcreate] using hring
  | ok ring => simp

namespace Probe

/-- In its range a number of replies is not moved. -/
theorem required_eq {n : UInt32} (hpos : n ≠ 0) (hle : n ≤ maxRequired) : required n = n := by
  have hone : n.toNat ≠ 0 := fun hzero => hpos (UInt32.toNat_inj.mp hzero)
  have hmax : max n.toNat (1 : UInt32).toNat = n.toNat := Nat.max_eq_left (Nat.pos_of_ne_zero hone)
  rw [← UInt32.toNat_inj, required, UInt32.toNat_min, UInt32.toNat_max, hmax]
  exact Nat.min_eq_left (UInt32.le_iff_toNat_le.mp hle)

/-- Whether a device is reachable depends on its replies alone. -/
theorem probe_of_isAddress {address : List Char} {n : UInt32} (haddress : isAddress address = true)
    (hpos : n ≠ 0) (hle : n ≤ maxRequired) (echo : List String → Option (List UInt8))
    (timeoutMillis : UInt32) :
    probe echo address n timeoutMillis =
      match echo (arguments address n timeoutMillis) with
      | none => ⟨false,none⟩
      | some output =>
        ⟨decide (n.toNat ≤ countReplies (Text.Utf8.decodeLossy output)),
          some (arguments address n timeoutMillis)⟩ := by
  cases hecho : echo (arguments address n timeoutMillis) with
  | none => simp [probe, check, isEnough, haddress, hecho]
  | some output =>
    simp [probe, check, isEnough, haddress, hecho, Run.result_ofOutput, required_eq hpos hle]

end Probe

namespace Settings

variable {s : Settings} {files : Files} {env : Environment} {path : Option (List Char)}

/-! ## What does not fail -/

/-- The consumer of the settings runs to its number of frames, if nothing but frames that were captured
and waits that end in time come to it. -/
def ConsumerRunsToLimit (s : Settings) : Prop :=
  ∀ (options : Options) (relay : Relay) (limit : Nat) (turns : List Turn),
    Relay.assemble options s = .ok relay → options.frames = some limit → 0 < limit →
    (∀ t ∈ turns, t.Undisturbed s.source) →
    (limit ≤ turns.countP Turn.hasFrame → relay.consumer.run turns = .stopped limit) ∧
      (turns.countP Turn.hasFrame < limit → ∃ c, relay.consumer.run turns = .goesOn c)

/-- No part of the relay fails because of the settings, and a capture that ends well gives a frame. All
captures do, if the rows are not too wide; and if pixels can have a return, only then. That the frame is
filtered is about windows whose weights fit the memory, as said at `Bilateral.apply`. -/
structure Usable (s : Settings) : Prop where
  frameQueue : FrameQueue.create s.queue.capacity s.queue.overflow ≠ .error .invalidParameter
  byteQueue : ByteQueue.create s.queue.byteCapacity ≠ .error .invalidParameter
  assembled : s.queue.capacity.toNat < 2 ^ 63 → s.queue.byteCapacity.toNat < 2 ^ 63 →
    ∀ options, ∃ relay, Relay.assemble options s = .ok relay
  required : Probe.required s.device.requiredSuccesses = s.device.requiredSuccesses
  probe : ∀ a, s.device.address = some a → Probe.isAddress a = true ∧
    ∀ echo, Probe.probe echo a s.device.requiredSuccesses s.device.probeTimeoutMillis =
      match echo (Probe.arguments a s.device.requiredSuccesses s.device.probeTimeoutMillis) with
      | none => ⟨false,none⟩
      | some output =>
        ⟨decide (s.device.requiredSuccesses.toNat ≤
            Probe.countReplies (Text.Utf8.decodeLossy output)),
          some (Probe.arguments a s.device.requiredSuccesses s.device.probeTimeoutMillis)⟩
  frames : ∀ source : Source, source.settings = s.source → ∀ draws result left,
    (source.nextFrameTraced draws).outcome = .ok (result, left) →
    ∃ f g, result = .ok f ∧ s.denoise.apply f = .ok g
  captures : s.source.RampFits → s.source.CapturesEnd
  captures_only : s.source.MayReturn → s.source.CapturesEnd → s.source.RampFits
  consumer : s.ConsumerRunsToLimit

theorem consumer_of_assemble {options : Options} {relay : Relay}
    (h : Relay.assemble options s = .ok relay) :
    relay.consumer =
      { limit := options.frames.getD 0, denoise := if options.noDenoise then none else some s.denoise } := by
  obtain ⟨frames,-,hframes⟩ := exists_of_bind_eq_ok h
  obtain ⟨bytes,-,hbytes⟩ := exists_of_bind_eq_ok hframes
  obtain rfl := Except.ok.inj hbytes
  rfl

theorem Accepted.assembled (h : s.Accepted) (hframes : s.queue.capacity.toNat < 2 ^ 63)
    (hbytes : s.queue.byteCapacity.toNat < 2 ^ 63) (options : Options) :
    ∃ relay, Relay.assemble options s = .ok relay := by
  have hpos : 0 < s.queue.capacity.toNat :=
    Nat.pos_of_ne_zero fun hzero => h.capacity (UInt64.toNat_inj.mp hzero)
  have hpos' : 0 < s.queue.byteCapacity.toNat :=
    Nat.pos_of_ne_zero fun hzero => h.byteCapacity (UInt64.toNat_inj.mp hzero)
  rw [Relay.assemble, FrameQueue.create, ItemQueue.create_eq_ok hpos hframes,
    ByteQueue.create_eq_ok hpos' hbytes]
  exact ⟨_,rfl⟩

theorem Accepted.frames (h : s.Accepted) {source left : Source} (hsource : source.settings = s.source)
    {draws : Nat → Draw} {result : Except FrameError Frame}
    (hends : (source.nextFrameTraced draws).outcome = .ok (result, left)) :
    ∃ f g, result = .ok f ∧ s.denoise.apply f = .ok g := by
  obtain ⟨f,hf,hcaptured⟩ := Source.nextFrame_eq_ok (s := source) (hsource ▸ h.pixels) draws
  rw [Source.nextFrame_of_outcome hends] at hf
  obtain ⟨g,hg⟩ := Bilateral.apply_eq_ok h.denoise hcaptured.distance
  exact ⟨f,g,hf,hg⟩

theorem Accepted.consumer (h : s.Accepted) : s.ConsumerRunsToLimit := by
  intro options relay limit turns hassemble hoption hlimit hturns
  have hconsumer := consumer_of_assemble hassemble
  rw [hoption, Option.getD_some] at hconsumer
  have hfilter : relay.consumer.HasValidFilter := by
    intro p hp
    rw [hconsumer] at hp
    cases hno : options.noDenoise with
    | true => simp [hno] at hp
    | false =>
      simp only [hno, Bool.false_eq_true, if_false, Option.some.injEq] at hp
      exact hp ▸ h.denoise
  have hpositive : 0 < relay.consumer.limit := by rwa [hconsumer]
  have hfew : relay.consumer.consumed ≤ relay.consumer.limit := by
    rw [hconsumer]
    exact Nat.zero_le _
  have hrun := Consumer.run_of_undisturbed h.pixels hfilter hpositive hfew hturns
  simp only [hconsumer, Nat.zero_add] at hrun ⊢
  refine ⟨hrun.1,?_⟩
  intro hlt
  obtain ⟨later,hlater,-⟩ := hrun.2 hlt
  exact ⟨later,hlater⟩

/-- Settings that were loaded are never the reason why a queue, the probe, the filter or the consumer
fails, nor, unless its rows are too wide, the source. -/
theorem loaded_usable (h : loadFrom files env path = .ok s) : s.Usable := by
  have haccepted := accepted_of_loadFrom h
  obtain ⟨hpos,hle⟩ := haccepted.required
  exact {
    frameQueue := FrameQueue.create_ne_invalidParameter haccepted.capacity _
    byteQueue := ByteQueue.create_ne_invalidParameter haccepted.byteCapacity
    assembled := haccepted.assembled
    required := Probe.required_eq hpos hle
    probe := by
      intro a ha
      have haddress := haccepted.address a ha
      exact ⟨haddress,fun echo => Probe.probe_of_isAddress haddress hpos hle echo _⟩
    frames := fun _ hsource _ _ _ => haccepted.frames hsource
    captures := Source.capturesEnd_of_fits haccepted.pixels
    captures_only := Source.fits_of_capturesEnd haccepted.pixels
    consumer := haccepted.consumer }

/-- A file with two sections and a variable over them. -/
theorem loaded_usable_from_file :
    let text := "\x7b\"device\": \x7b\"addr\": \"sensor-1\"\x7d, \"source\": [4, 2, null, 0, 0]\x7d"
    let files : Files := fun _ => some (text.toList.map fun c => UInt8.ofNat c.toNat)
    let env : Environment :=
      ⟨fun name => if name = "SENSOR_QUEUE_CAPACITY" then some " 3".toList else none⟩
    let s : Settings :=
      { queue := { capacity := 3 }, device := { address := some "sensor-1".toList }
        source := { width := 4, height := 2, noise := 0, dropout := .ofNat 0 } }
    loadFrom files env (some []) = .ok s ∧ s.Usable ∧ s.source.CapturesEnd := by
  intro text files env s
  have hload : loadFrom files env (some []) = .ok s := by decide +kernel
  have hfits : s.source.RampFits := by decide +kernel
  exact ⟨hload,loaded_usable hload,(loaded_usable hload).captures hfits⟩

/-- A file with a row that is too wide is loaded, and the first capture ends the program. -/
theorem loaded_row_too_wide :
    let text :=
      "\x7b\"source\": \x7b\"width\": 214748286, \"height\": 1, \"noise\": 0, \"dropout\": 0\x7d\x7d"
    let files : Files := fun _ => some (text.toList.map fun c => UInt8.ofNat c.toNat)
    let s : Settings := { source := { width := 214748286, height := 1, noise := 0, dropout := .ofNat 0 } }
    loadFrom files ⟨fun _ => none⟩ (some []) = .ok s ∧
      (∀ draws, (Source.nextFrameTraced { settings := s.source } draws).outcome =
        .error (.sum32 800 2147482850)) ∧
      (Machine.Step.sum32 800 2147482850).complaint? = some "attempt to add with overflow" ∧
      ¬ s.source.CapturesEnd := by
  intro text files s
  have hends (draws : Nat → Draw) : (Source.nextFrameTraced { settings := s.source } draws).outcome =
      .error (.sum32 800 2147482850) :=
    Source.first_capture_of_too_wide rfl (by decide) rfl draws
  refine ⟨by decide +kernel,hends,rfl,?_⟩
  intro hcaptures
  obtain ⟨result,hresult⟩ := hcaptures [] fun _ => {}
  cases (hends _).symm.trans hresult

end Settings
end SensorRelay
