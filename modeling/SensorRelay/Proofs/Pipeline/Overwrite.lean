import Mathlib.Data.List.Pairwise
import SensorRelay.Proofs.Pipeline.Traffic
import SensorRelay.Proofs.Telemetry.Finds

/-! # Telemetry that was overwritten

Bytes that are overwritten leave gaps in what the decoder reads. A chunk that arrives in one piece and
is found from its first byte on gives the payload that was sent, and these payloads come in the order
in which they were sent. The decoder can also take for a chunk what is none: its check has only seven
bits. But then it began at a byte of the counters that happens to be the sync byte, or it read across
a gap.
-/
namespace SensorRelay

open Telemetry Pipeline

/-! ## The places of a find -/

namespace Telemetry.Find

/-- The places in the stream of chunks of the bytes of a find. -/
def span (f : Find) (places : List Nat) : List Nat := (places.drop f.offset).take f.size

def start (f : Find) (places : List Nat) : Nat := places.getD f.offset 0

/-- The bytes of a find are those of one chunk sent. -/
def IsWhole (f : Find) (places : List Nat) : Prop :=
  f.span places = List.range' (chunkSize * (f.start places / chunkSize)) chunkSize

/-- Between the bytes of a find others were lost. -/
def CrossesGap (f : Find) (places : List Nat) : Prop :=
  f.span places ≠ List.range' (f.start places) f.size

instance (f : Find) (places : List Nat) : Decidable (f.IsWhole places) :=
  inferInstanceAs (Decidable (_ = _))

end Telemetry.Find

namespace Pipeline

variable {capacity : Nat} {p : Pipeline} {t : Traffic} {places : List Nat} {w : Window} {f g : Find}

theorem Account.places_length (h : Account capacity p t places w) :
    places.length = t.received.length := by
  have hlen := congrArg List.length h.bytes
  rw [List.length_map, List.length_map] at hlen
  exact hlen.symm

theorem Account.getElem?_start (h : Account capacity p t places w) (hf : f.In t.received) :
    places[f.offset]? = some (f.start places) := by
  have hle := hf.length_le
  have hlen := h.places_length
  have hsize : 0 < f.size := Nat.succ_pos _
  have hlt : f.offset < places.length := by omega
  rw [Find.start, List.getD_eq_getElem?_getD, List.getElem?_eq_getElem hlt, Option.getD_some]

theorem Account.span_length (h : Account capacity p t places w) (hf : f.In t.received) :
    (f.span places).length = f.size := by
  have hle := hf.length_le
  have hlen := h.places_length
  rw [Find.span, List.length_take, List.length_drop]
  omega

/-- Where the places of a find are consecutive, the stream has the bytes of its chunk. -/
theorem Account.stream_of_span (h : Account capacity p t places w) (hf : f.In t.received) {a j : Nat}
    (hspan : f.span places = List.range' a f.size) (hj : j < f.size) :
    (chunkStream p.source.chunks)[a + j]? = (encode f.payload)[j]? := by
  have hplace : places[f.offset + j]? = some (a + j) := by
    have hget := congrArg (·[j]?) hspan
    simp only [Find.span, List.getElem?_take_of_lt hj, List.getElem?_drop] at hget
    rw [hget, List.getElem?_range' hj, Nat.one_mul]
  have hbyte := congrArg (·[f.offset + j]?) h.bytes
  simp only [List.getElem?_map, hplace, hf.getElem? hj, Option.map_some] at hbyte
  have hchunk : j < (encode f.payload).length := by
    rw [hf.encode_length]
    exact hj
  rw [List.getElem?_eq_getElem hchunk, Option.map_some, Option.some.injEq] at hbyte
  rw [← hbyte, List.getElem?_eq_getElem hchunk]

/-! ## Whole chunks -/

theorem Account.size_of_whole (h : Account capacity p t places w) (hf : f.In t.received)
    (hw : f.IsWhole places) : f.size = chunkSize := by
  rw [← h.span_length hf, hw, List.length_range']

theorem Account.start_of_whole (h : Account capacity p t places w) (hf : f.In t.received)
    (hw : f.IsWhole places) : f.start places = chunkSize * (f.start places / chunkSize) := by
  have hget := congrArg (·[0]?) hw
  have hsize : 0 < f.size := Nat.succ_pos _
  simp only [Find.span, List.getElem?_take_of_lt hsize, List.getElem?_drop, Nat.add_zero,
    h.getElem?_start hf] at hget
  exact Option.some.inj hget

/-- A whole chunk gives the payload that was sent. -/
theorem Account.payload_of_whole (h : Account capacity p t places w) (hf : f.In t.received)
    (hw : f.IsWhole places) : t.sent[f.start places / chunkSize]? = some f.payload := by
  have hsize := h.size_of_whole hf hw
  have hspan : f.span places = List.range' (chunkSize * (f.start places / chunkSize)) f.size := by
    rw [hsize]
    exact hw
  have hstream : ∀ j, j < chunkSize →
      (chunkStream p.source.chunks)[chunkSize * (f.start places / chunkSize) + j]? =
        (encode f.payload)[j]? := by
    intro j hj
    exact h.stream_of_span hf hspan (by omega)
  have hk : f.start places / chunkSize < p.source.chunks := by
    have hfirst := hstream 0 (by decide)
    rw [encode_getElem?_zero] at hfirst
    have hlt := (List.getElem?_eq_some_iff.mp hfirst).1
    rw [chunkStream_length, Nat.add_zero] at hlt
    exact Nat.lt_of_mul_lt_mul_left hlt
  have hencode : encode f.payload = encode (counters (f.start places / chunkSize)) := by
    apply List.ext_getElem?
    intro j
    by_cases hj : j < chunkSize
    · rw [← hstream j hj, chunkStream_getElem? hk hj]
    · have hlen := hf.encode_length
      have hlen' := encode_counters_length (f.start places / chunkSize)
      rw [List.getElem?_eq_none (by omega), List.getElem?_eq_none (by omega)]
  rw [h.sent, List.getElem?_map, List.getElem?_range hk,
    encode_injective hf.short (counters_short _) hencode]
  rfl

/-- Behind a whole chunk a whole chunk is a later one. -/
theorem Account.whole_lt (h : Account capacity p t places w) (hf : f.In t.received)
    (hg : g.In t.received) (hf' : f.IsWhole places) (hg' : g.IsWhole places)
    (hfg : f.offset + f.size ≤ g.offset) :
    f.start places / chunkSize < g.start places / chunkSize := by
  have hsize : 0 < f.size := Nat.succ_pos _
  obtain ⟨hi,hfirst⟩ := List.getElem?_eq_some_iff.mp (h.getElem?_start hf)
  obtain ⟨hj,hlater⟩ := List.getElem?_eq_some_iff.mp (h.getElem?_start hg)
  have hlt := List.pairwise_iff_getElem.mp h.increasing f.offset g.offset hi hj (by omega)
  rw [hfirst, hlater, h.start_of_whole hf hf', h.start_of_whole hg hg'] at hlt
  exact Nat.lt_of_mul_lt_mul_left hlt

/-- The elements at increasing indices are a part of a list in order. -/
theorem sublist_of_getElem? {α : Type} {part whole : List α} {indices : List Nat}
    (hinc : indices.Pairwise (· < ·)) (h : part.map some = indices.map (whole[·]?)) :
    part.Sublist whole := by
  have hbound : ∀ i ∈ indices, i < whole.length := by
    intro i hi
    have hmem : whole[i]? ∈ part.map some := h ▸ List.mem_map_of_mem hi
    obtain ⟨a,-,ha⟩ := List.mem_map.mp hmem
    exact (List.getElem?_eq_some_iff.mp ha.symm).1
  let chosen : List (Fin whole.length) := indices.pmap Fin.mk hbound
  have hchosen : chosen.Pairwise (· < ·) := hinc.pmap hbound fun _ _ _ _ hlt => hlt
  have hpart : part = chosen.map (whole[·]) := by
    apply List.map_injective_iff.mpr (Option.some_injective α)
    rw [h, List.map_map, List.map_pmap]
    symm
    refine (List.pmap_congr_left indices ?_).trans (List.pmap_eq_map hbound)
    intro i hi hlt _
    exact (List.getElem?_eq_getElem hlt).symm
  rw [hpart]
  exact List.map_getElem_sublist hchosen

/-- The payloads of whole chunks are sent payloads in order. -/
theorem Account.whole_sublist (h : Account capacity p t places w) {finds : List Find}
    (hfinds : Located t.received t.emitted finds) :
    ((finds.filter (·.IsWhole places)).map Find.payload).Sublist t.sent := by
  have hwhole : ∀ f ∈ finds.filter (·.IsWhole places), f.In t.received ∧ f.IsWhole places := by
    intro f hf
    rw [List.mem_filter, decide_eq_true_eq] at hf
    exact ⟨hfinds.inside f hf.1,hf.2⟩
  let chunks := (finds.filter (·.IsWhole places)).map (·.start places / chunkSize)
  have hchunks : chunks.Pairwise (· < ·) := by
    rw [List.pairwise_map]
    refine (hfinds.apart.filter _).imp_of_mem ?_
    intro f g hf hg hfg
    exact h.whole_lt (hwhole f hf).1 (hwhole g hg).1 (hwhole f hf).2 (hwhole g hg).2 hfg
  refine sublist_of_getElem? hchunks ?_
  rw [List.map_map, List.map_map]
  refine List.map_congr_left ?_
  intro f hf
  exact (h.payload_of_whole (hwhole f hf).1 (hwhole f hf).2).symm

/-! ## False chunks -/

/-- Consecutive bytes that are not one chunk start at a byte of the counters. -/
theorem Account.inCounters_of_not_whole (h : Account capacity p t places w) (hf : f.In t.received)
    (hw : ¬ f.IsWhole places) (hgap : ¬ f.CrossesGap places) : InCounters (f.start places) := by
  have hspan : f.span places = List.range' (f.start places) f.size := not_not.mp hgap
  have hfirst := h.stream_of_span hf hspan (j := 0) (Nat.succ_pos _)
  rw [encode_getElem?_zero, Nat.add_zero] at hfirst
  refine (sync_place hfirst).resolve_left fun hzero => hw ?_
  -- At the start of a chunk the length byte is that of the source's chunks.
  have hstart : chunkSize * (f.start places / chunkSize) = f.start places :=
    Nat.mul_div_cancel' (Nat.dvd_of_mod_eq_zero hzero)
  obtain ⟨hk,-⟩ := chunkStream_getElem?_place (List.getElem?_eq_some_iff.mp hfirst).1
  have hlength := h.stream_of_span hf hspan (j := 1) (Nat.succ_lt_succ (Nat.succ_pos _))
  rw [← hstart, chunkStream_getElem? hk (by decide), encode_getElem?_one (counters_short _),
    encode_getElem?_one hf.short, Option.some.injEq] at hlength
  have hpayload : f.payload.length = 16 := by
    have hbyte := congrArg UInt8.toNat hlength
    rw [counters_length, UInt8.toNat_ofNat_of_lt' (Nat.lt_succ_of_le hf.short)] at hbyte
    exact hbyte.symm
  have hsize : f.size = chunkSize := by rw [Find.size, hpayload]; rfl
  rw [Find.IsWhole, hspan, hstart, hsize]

/-! ## The account of a run -/

/-- What the decoder emitted are the payloads of `finds` in the bytes it received, and it received the
bytes of the chunks sent that have the places `places`. -/
structure Explained (t : Traffic) (places : List Nat) (finds : List Find) : Prop where
  sent : t.sent = (List.range t.sent.length).map counters
  bytes : t.received.map some = places.map ((t.sent.flatMap encode)[·]?)
  increasing : places.Pairwise (· < ·)
  located : Located t.received t.emitted finds
  genuine : ((finds.filter (·.IsWhole places)).map Find.payload).Sublist t.sent
  spurious : ∀ f ∈ finds, ¬ f.IsWhole places → InCounters (f.start places) ∨ f.CrossesGap places

theorem Account.explained (h : Account capacity p t places w) :
    ∃ finds, Explained t places finds := by
  obtain ⟨finds,hfinds⟩ := exists_located t.received
  rw [← h.emitted] at hfinds
  have hlen : t.sent.length = p.source.chunks := by rw [h.sent, List.length_map, List.length_range]
  refine ⟨finds,?_,?_,h.increasing,hfinds,h.whole_sublist hfinds,?_⟩
  · rw [hlen, h.sent]
  · rw [h.bytes, h.sent]
    rfl
  · intro f hf hw
    by_cases hgap : f.CrossesGap places
    · exact Or.inr hgap
    · exact Or.inl (h.inCounters_of_not_whole (hfinds.inside f hf) hw hgap)

/-- In every run of captures and reads the decoder emits payloads that were sent, in order, and
payloads of false chunks that start at a byte of the counters or go across a gap. -/
theorem emitted_explained {frameCapacity byteCapacity : UInt64} (hframes : 0 < frameCapacity.toNat)
    (hframes' : frameCapacity.toNat < 2 ^ 63) (hbytes : 0 < byteCapacity.toNat)
    (hbytes' : byteCapacity.toNat < 2 ^ 63) (settings : SourceSettings) (overflow : Overflow)
    (denoise : Bilateral) :
    ∃ p, create settings frameCapacity overflow byteCapacity denoise = .ok p ∧
      ∀ steps, ∃ finds,
        Explained (p.run {} steps).2 (Window.arrivals byteCapacity.toNat {} steps) finds := by
  obtain ⟨p,hcreate,h⟩ := create_account hframes hframes' hbytes hbytes' settings overflow denoise
  refine ⟨p,hcreate,?_⟩
  intro steps
  exact (h.run steps).explained

/-- The first byte of a chunk is read, and the next three are overwritten before the second read. -/
def tornRead (draws : Nat → Draw) : List Step :=
  [.capture draws, .telemetry 1, .capture draws, .telemetry 34]

/-- Of the last chunk all but two bytes are left, and they begin with the first counter. -/
def lateRead (draws : Nat → Draw) : List Step :=
  List.replicate 165 (.capture draws) ++ [.telemetry 17]

theorem emitted_explained_torn :
    ((0 < (4 : UInt64).toNat ∧ (4 : UInt64).toNat < 2 ^ 63) ∧
      (0 < (34 : UInt64).toNat ∧ (34 : UInt64).toNat < 2 ^ 63)) ∧
    ∃ p, create {} 4 .dropOldest 34 .standard = .ok p ∧
      ∀ draws, ∃ finds, Explained (p.run {} (tornRead draws)).2 (0 :: List.range' 4 34) finds := by
  have hframes : 0 < (4 : UInt64).toNat := by decide
  have hframes' : (4 : UInt64).toNat < 2 ^ 63 := by decide
  have hbytes : 0 < (34 : UInt64).toNat := by decide
  have hbytes' : (34 : UInt64).toNat < 2 ^ 63 := by decide
  obtain ⟨p,hcreate,hruns⟩ :=
    emitted_explained hframes hframes' hbytes hbytes' {} .dropOldest .standard
  refine ⟨⟨⟨hframes,hframes'⟩,hbytes,hbytes'⟩,p,hcreate,?_⟩
  intro draws
  exact hruns (tornRead draws)

/-- An empty payload found in the bytes at the places that have arrived was never sent. -/
theorem Account.not_sublist (h : Account capacity p t places w) {n : Nat}
    (hn : w.next = chunkSize * n) {bytes : List UInt8}
    (hbytes : places.map ((chunkStream n)[·]?) = bytes.map some)
    (hnil : [] ∈ (search bytes).payloads) : ¬ t.emitted.Sublist t.sent := by
  have hchunks : p.source.chunks = n :=
    Nat.eq_of_mul_eq_mul_left (show 0 < chunkSize by decide) (h.next.symm.trans hn)
  have hreceived : t.received = bytes := by
    apply List.map_injective_iff.mpr (Option.some_injective UInt8)
    rw [h.bytes, hchunks, hbytes]
  rw [← hreceived, ← h.emitted] at hnil
  intro hsub
  have hsent := hsub.subset hnil
  rw [h.sent] at hsent
  obtain ⟨k,-,hk⟩ := List.mem_map.mp hsent
  exact absurd (congrArg List.length hk) (by rw [counters_length]; decide)

/-- Across a gap, and from a counter on, a payload is emitted that was never sent. -/
theorem emitted_not_sublist :
    (∃ p, create {} 4 .dropOldest 34 .standard = .ok p ∧
      ∀ draws, ¬ (p.run {} (tornRead draws)).2.emitted.Sublist (p.run {} (tornRead draws)).2.sent) ∧
    (∃ p, create {} 4 .dropOldest 17 .standard = .ok p ∧
      ∀ draws, ¬ (p.run {} (lateRead draws)).2.emitted.Sublist (p.run {} (lateRead draws)).2.sent) := by
  have hframes : 0 < (4 : UInt64).toNat ∧ (4 : UInt64).toNat < 2 ^ 63 := by decide
  constructor
  · have hbytes : 0 < (34 : UInt64).toNat ∧ (34 : UInt64).toNat < 2 ^ 63 := by decide
    obtain ⟨p,hcreate,h⟩ :=
      create_account hframes.1 hframes.2 hbytes.1 hbytes.2 {} .dropOldest .standard
    refine ⟨p,hcreate,?_⟩
    intro draws
    have harrivals : Window.arrivals (34 : UInt64).toNat {} (tornRead draws) = 0 :: List.range' 4 34 := rfl
    have hrun := h.run (tornRead draws)
    rw [List.nil_append, harrivals] at hrun
    have hplaces : (0 :: List.range' 4 34).map ((chunkStream 2)[·]?) =
        (sync :: (chunkStream 2).drop 4).map some := by decide +kernel
    have hnil : [] ∈ (search (sync :: (chunkStream 2).drop 4)).payloads := by decide +kernel
    exact hrun.not_sublist rfl hplaces hnil
  · have hbytes : 0 < (17 : UInt64).toNat ∧ (17 : UInt64).toNat < 2 ^ 63 := by decide
    obtain ⟨p,hcreate,h⟩ :=
      create_account hframes.1 hframes.2 hbytes.1 hbytes.2 {} .dropOldest .standard
    refine ⟨p,hcreate,?_⟩
    intro draws
    obtain ⟨hnone,hwindow⟩ := Window.captures (17 : UInt64).toNat 165 draws
    have hnext : ((lateRead draws).foldl (Window.after (17 : UInt64).toNat) {}).next =
        chunkSize * 165 := by
      rw [lateRead, List.foldl_append, hwindow]
      rfl
    have harrivals : Window.arrivals (17 : UInt64).toNat {} (lateRead draws) =
        List.range' (chunkSize * 164 + 2) (chunkSize - 2) := by
      rw [lateRead, Window.arrivals_append, hnone, hwindow]
      rfl
    have hrun := h.run (lateRead draws)
    rw [List.nil_append, harrivals] at hrun
    have hplaces := chunkStream_tail (n := 165) (k := 164) (j := 2) (by decide) (by decide)
    have hnil : [] ∈ (search ((encode (counters 164)).drop 2)).payloads := by decide +kernel
    exact hrun.not_sublist hnext hplaces hnil

end Pipeline
end SensorRelay
