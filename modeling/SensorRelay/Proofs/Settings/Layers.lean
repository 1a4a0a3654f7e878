import SensorRelay.Proofs.Settings.Variables

/-! # Settings in layers

Every setting has a place in the file and a default, and six have a variable too. What is loaded takes
each setting from the first of these layers that has it, and is accepted or refused as a whole. So what a
file says of a setting whose variable is set is never seen, not even by an error.

A blank address is no address in the file either: there it is dropped before anything is put over it.
-/
namespace SensorRelay
open Text

/-- The file without an address that is blank. -/
def SettingsFile.withoutBlank (file : SettingsFile) : SettingsFile :=
  { file with
    device := { file.device with address := file.device.address.filter fun a => !a.all isBlank } }

namespace Settings
variable {s : Settings} {o : Overrides} {file : SettingsFile} {files : Files} {env : Environment}
  {path : Option (List Char)}

/-- Every setting from the first layer that has it. -/
def layered (o : Overrides) (file : SettingsFile) : Settings :=
  let default : Settings := {}
  { queue := {
      capacity := (o.capacity.or file.queue.capacity).getD default.queue.capacity
      overflow := (o.overflow.or file.queue.overflow).getD default.queue.overflow
      byteCapacity := (o.byteCapacity.or file.queue.byteCapacity).getD default.queue.byteCapacity
      dequeueTimeout := ((o.dequeueTimeoutMillis.or file.queue.dequeueTimeoutMillis).map
        Timeout.ofMillis).getD default.queue.dequeueTimeout }
    device := {
      address := (o.address.or file.device.address).or default.device.address
      requiredSuccesses := file.device.requiredSuccesses.getD default.device.requiredSuccesses
      probeTimeoutMillis := file.device.probeTimeoutMillis.getD default.device.probeTimeoutMillis }
    denoise := {
      window := (o.window.or file.denoise.window).getD default.denoise.window
      sigmaSpatial := file.denoise.sigmaSpatial.getD default.denoise.sigmaSpatial
      sigmaRange := file.denoise.sigmaRange.getD default.denoise.sigmaRange }
    source := {
      width := file.source.width.getD default.source.width
      height := file.source.height.getD default.source.height
      targetFps := file.source.targetFps.getD default.source.targetFps
      noise := file.source.noise.getD default.source.noise
      dropout := file.source.dropout.getD default.source.dropout } }

theorem put_settings (o : Overrides) (file : SettingsFile) :
    file.settings.put o = layered o file.withoutBlank := by
  simp only [put, layered, SettingsFile.settings, QueueFile.settings, DeviceFile.settings,
    DenoiseFile.settings, SourceFile.settings, SettingsFile.withoutBlank, Option.getD_or, Option.map_or,
    Option.or_none]

/-! ## The check -/

theorem Accepted.fault?_eq_none (h : s.Accepted) : s.fault? = none := by
  have hrequired : ¬ (s.device.requiredSuccesses = 0 ∨ Probe.maxRequired < s.device.requiredSuccesses) :=
    not_or.mpr ⟨h.required.1,UInt32.not_lt.mpr h.required.2⟩
  have haddress : (s.device.address.filter fun a => !Probe.isAddress a) = none := by
    rw [Option.filter_eq_none_iff]
    intro a ha
    simp [h.address a ha]
  have hsource : ¬ (s.source.width = 0 ∨ s.source.height = 0 ∨ s.source.targetFps = 0) := by
    rw [not_or, not_or]
    exact ⟨h.pixels.1,h.pixels.2,h.targetFps⟩
  have hdenoise : ¬ (!s.denoise.isValid) = true := by simp [h.denoise]
  rw [fault?, if_neg h.capacity, if_neg h.byteCapacity, if_neg hdenoise, if_neg hrequired, haddress]
  exact if_neg hsource

theorem fault?_eq_none_iff : s.fault? = none ↔ s.Accepted :=
  ⟨accepted_of_fault?,Accepted.fault?_eq_none⟩

/-- The settings, or the first rule that they break. -/
def checked (s : Settings) : Except SettingsError Settings :=
  match s.fault? with
  | some error => .error error
  | none => .ok s

theorem checked_eq_ok_iff {t : Settings} : s.checked = .ok t ↔ s = t ∧ s.Accepted := by
  rw [checked, ← fault?_eq_none_iff]
  cases s.fault? with
  | some error => simp
  | none => simp

/-! ## What is loaded -/

theorem resolve_eq (file : SettingsFile) (env : Environment) :
    resolve file env = env.overrides >>= fun o => (layered o file.withoutBlank).checked := by
  rw [resolve, Environment.override_eq_map, bind_map_left]
  refine bind_congr fun o => ?_
  rw [put_settings, checked]
  rfl

theorem resolve_eq_ok_iff : resolve file env = .ok s ↔
    ∃ o, env.Says o ∧ s = layered o file.withoutBlank ∧ s.Accepted := by
  rw [resolve_eq, bind_eq_ok_iff]
  refine exists_congr fun o => ?_
  rw [Environment.overrides_eq_ok_iff, checked_eq_ok_iff]
  refine and_congr_right fun _ => ?_
  constructor
  · rintro ⟨rfl,haccepted⟩
    exact ⟨rfl,haccepted⟩
  · rintro ⟨rfl,haccepted⟩
    exact ⟨rfl,haccepted⟩

/-- The settings file at a path; without a path there is nothing in it. -/
def FileAt (files : Files) : Option (List Char) → SettingsFile → Prop
  | none, file => file = {}
  | some path, file => SettingsFile.read (files path) = .ok file

theorem loadFrom_eq (h : FileAt files path file) (env : Environment) :
    loadFrom files env path = (resolve file env).mapError .settings := by
  cases path with
  | none =>
    obtain rfl : file = {} := h
    rfl
  | some path =>
    have hread : SettingsFile.read (files path) = .ok file := h
    rw [loadFrom]
    simp only [hread]
    rfl

theorem loadFrom_eq_ok_iff (h : FileAt files path file) : loadFrom files env path = .ok s ↔
    ∃ o, env.Says o ∧ s = layered o file.withoutBlank ∧ s.Accepted := by
  rw [← resolve_eq_ok_iff, loadFrom_eq h env]
  refine ⟨eq_ok_of_mapError_eq_ok,fun hresolve => ?_⟩
  rw [hresolve]
  rfl

/-! ## What the variables hide -/

/-- Two files that say the same, but for settings whose variable is set: to anything at all if it has a
number, and to what is not blank if it has a mode or an address. -/
structure SameBelow (env : Environment) (file file' : SettingsFile) : Prop where
  capacity : env.get? "SENSOR_QUEUE_CAPACITY" = none → file.queue.capacity = file'.queue.capacity
  overflow : env.nonBlank "SENSOR_QUEUE_MODE" = none → file.queue.overflow = file'.queue.overflow
  byteCapacity : env.get? "SENSOR_QUEUE_BYTE_CAPACITY" = none →
    file.queue.byteCapacity = file'.queue.byteCapacity
  dequeueTimeoutMillis : env.get? "SENSOR_QUEUE_DEQUEUE_TIMEOUT_MS" = none →
    file.queue.dequeueTimeoutMillis = file'.queue.dequeueTimeoutMillis
  address : env.nonBlank "SENSOR_QUEUE_DEVICE_ADDR" = none → file.device.address = file'.device.address
  requiredSuccesses : file.device.requiredSuccesses = file'.device.requiredSuccesses
  probeTimeoutMillis : file.device.probeTimeoutMillis = file'.device.probeTimeoutMillis
  window : env.get? "SENSOR_QUEUE_DENOISE_WINDOW" = none → file.denoise.window = file'.denoise.window
  sigmaSpatial : file.denoise.sigmaSpatial = file'.denoise.sigmaSpatial
  sigmaRange : file.denoise.sigmaRange = file'.denoise.sigmaRange
  source : file.source = file'.source

theorem or_eq_or {α : Type} {x a b : Option α} (h : x = none → a = b) : x.or a = x.or b := by
  cases x with
  | none => exact h rfl
  | some _ => rfl

theorem SameBelow.layered_eq {file' : SettingsFile} (h : SameBelow env file file') (ho : env.Says o) :
    layered o file.withoutBlank = layered o file'.withoutBlank := by
  have hcapacity := or_eq_or fun hnone => h.capacity (ho.capacity.get?_eq_none hnone)
  have hbytes := or_eq_or fun hnone => h.byteCapacity (ho.byteCapacity.get?_eq_none hnone)
  have hmillis := or_eq_or fun hnone =>
    h.dequeueTimeoutMillis (ho.dequeueTimeoutMillis.get?_eq_none hnone)
  have hwindow := or_eq_or fun hnone => h.window (ho.window.get?_eq_none hnone)
  have hoverflow : o.overflow.or file.queue.overflow = o.overflow.or file'.queue.overflow := by
    refine or_eq_or fun hnone => h.overflow ?_
    exact Environment.gives_none_iff.mp (hnone ▸ ho.overflow)
  have haddress : o.address.or file.withoutBlank.device.address =
      o.address.or file'.withoutBlank.device.address := by
    refine or_eq_or fun hnone => congrArg (Option.filter _) (h.address ?_)
    exact Environment.gives_none_iff.mp (hnone ▸ ho.address)
  simp only [layered, haddress]
  simp only [SettingsFile.withoutBlank, hcapacity, hoverflow, hbytes, hmillis, hwindow,
    h.requiredSuccesses, h.probeTimeoutMillis, h.sigmaSpatial, h.sigmaRange, h.source]

theorem SameBelow.resolve_eq {file' : SettingsFile} (h : SameBelow env file file') :
    resolve file env = resolve file' env := by
  rw [Settings.resolve_eq, Settings.resolve_eq]
  cases hread : env.overrides with
  | error error => rfl
  | ok o =>
    have hlayered := h.layered_eq (Environment.overrides_eq_ok_iff.mp hread)
    exact congrArg checked hlayered

/-- **Loading in layers.** Settings are loaded from a file that was read, or from none, if and only if
every variable that counts can be read and the layers together pass the check; then the layers are what
is loaded. What a file says of a setting whose variable is set changes neither them nor the error. -/
theorem loaded_in_layers (hfile : FileAt files path file) (env : Environment) :
    (∀ s, loadFrom files env path = .ok s ↔
      ∃ o, env.Says o ∧ s = layered o file.withoutBlank ∧ s.Accepted) ∧
    ∀ (files' : Files) (path' : Option (List Char)) (file' : SettingsFile), FileAt files' path' file' →
      SameBelow env file file' → loadFrom files env path = loadFrom files' env path' := by
  refine ⟨fun s => loadFrom_eq_ok_iff hfile,?_⟩
  intro files' path' file' hfile' hsame
  rw [loadFrom_eq hfile, loadFrom_eq hfile', hsame.resolve_eq]

/-- Of these files one has a capacity that would be refused, and nobody sees it. -/
theorem loaded_in_layers_hidden :
    let files : Files := fun path =>
      let capacity := if path = [] then "0" else "5"
      let text := "\x7b\"queue\": [" ++ capacity ++ ", null, null, null], \"device\": [\"a\", 1, null]\x7d"
      some (text.toList.map fun c => UInt8.ofNat c.toNat)
    let env : Environment := ⟨fun name =>
      if name = "SENSOR_QUEUE_CAPACITY" then some " +3".toList
      else if name = "SENSOR_QUEUE_MODE" then some "Avoid-Drop".toList else none⟩
    let s : Settings :=
      { queue := { capacity := 3, overflow := .avoidDrop }
        device := { address := some "a".toList, requiredSuccesses := 1 } }
    loadFrom files env (some []) = .ok s ∧ loadFrom files env (some ['b']) = .ok s := by
  intro files env s
  let device : DeviceFile := { address := some "a".toList, requiredSuccesses := some 1 }
  have hfile : FileAt files (some []) { queue := { capacity := some 0 }, device } := by
    rw [FileAt]
    decide +kernel
  have hfile' : FileAt files (some ['b']) { queue := { capacity := some 5 }, device } := by
    rw [FileAt]
    decide +kernel
  have hunset : ∀ name, name ≠ "SENSOR_QUEUE_CAPACITY" → name ≠ "SENSOR_QUEUE_MODE" →
      env.get? name = none := fun name h h' => by simp only [env, if_neg h, if_neg h']
  have hnonBlank : ¬ Blank "Avoid-Drop".toList :=
    fun h => absurd (h 'A' (by decide +kernel)) (by decide)
  have hsaid : env.Says { capacity := some 3, overflow := some .avoidDrop } :=
    { capacity := ⟨" +3".toList,rfl,trivial,['3'],.inr (by decide),by decide,
        List.forall_mem_singleton.mpr rfl,by decide⟩
      overflow := ⟨"Avoid-Drop".toList,rfl,hnonBlank,by decide +kernel⟩
      byteCapacity := fun text h => by simp [hunset] at h
      dequeueTimeoutMillis := fun text h => by simp [hunset] at h
      address := fun text h => by simp [hunset] at h
      window := fun text h => by simp [hunset] at h }
  have haccepted : s.Accepted := accepted_of_fault? (by decide +kernel)
  have hsame : SameBelow env { queue := { capacity := some 0 }, device }
      { queue := { capacity := some 5 }, device } :=
    { capacity := fun h => absurd h (by decide)
      overflow := fun _ => rfl
      byteCapacity := fun _ => rfl
      dequeueTimeoutMillis := fun _ => rfl
      address := fun _ => rfl
      requiredSuccesses := rfl
      probeTimeoutMillis := rfl
      window := fun _ => rfl
      sigmaSpatial := rfl
      sigmaRange := rfl
      source := rfl }
  obtain ⟨hlayers,hhidden⟩ := loaded_in_layers hfile env
  have hload := (hlayers s).mpr ⟨_,hsaid,by decide +kernel,haccepted⟩
  exact ⟨hload,(hhidden _ _ _ hfile' hsame).symm.trans hload⟩

/-- With blank addresses left in the file this would be wrong: a file with one is accepted. -/
theorem loaded_in_layers_blank : ¬ ∀ (files : Files) (env : Environment) (path : Option (List Char))
    (file : SettingsFile), FileAt files path file → ∀ s, loadFrom files env path = .ok s ↔
      ∃ o, env.Says o ∧ s = layered o file ∧ s.Accepted := by
  intro h
  let text := "\x7b\"device\": \x7b\"addr\": \"  \"\x7d\x7d"
  let files : Files := fun _ => some (text.toList.map fun c => UInt8.ofNat c.toNat)
  have hfile : FileAt files (some []) { device := { address := some "  ".toList } } := by
    rw [FileAt]
    decide +kernel
  have hload : loadFrom files ⟨fun _ => none⟩ (some []) = .ok {} := by decide +kernel
  obtain ⟨o,-,hlayered,-⟩ := (h _ _ _ _ hfile _).mp hload
  have haddress : none = (o.address.or (some "  ".toList)).or none :=
    congrArg (fun s => s.device.address) hlayered
  cases hgiven : o.address with
  | none => simp [hgiven] at haddress
  | some a => simp [hgiven] at haddress

end Settings
end SensorRelay
