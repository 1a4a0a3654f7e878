import SensorRelay.Proofs.Pipeline.Traffic
import SensorRelay.Proofs.Telemetry.RoundTrip

/-! # Telemetry without overflow

As long as every chunk finds room in the queue, nothing is overwritten: the places that arrive are
0, 1, 2, … without a gap. What the decoder has received is then the front of the bytes sent, cut
anywhere, and it has emitted the payloads of the chunks that lie in it whole.
-/
namespace SensorRelay

/-! ## Calls of a source -/

inductive Source.Call where
  | frame
  | chunk
deriving DecidableEq

/-- The number of frames taken before the chunk that `k` others go before. -/
def Source.framesBefore : List Source.Call → Nat → Nat
  | [], _ => 0
  | .frame :: later, k => framesBefore later k + 1
  | .chunk :: _, 0 => 0
  | .chunk :: later, k + 1 => framesBefore later k

namespace Pipeline

open Telemetry

variable {capacity : Nat} {p : Pipeline} {t : Traffic} {places : List Nat} {w : Window}

def Step.calls : Step → List Source.Call
  | .capture _ => [.frame, .chunk]
  | .telemetry _ => []

theorem sent_length_run (p : Pipeline) (t : Traffic) (steps : List Step) :
    (p.run t steps).2.sent.length =
      t.sent.length + (steps.flatMap Step.calls).count .chunk := by
  induction steps generalizing p t with
  | nil => rfl
  | cons step later ih =>
    rw [Pipeline.run, ih, List.flatMap_cons, List.count_append, ← Nat.add_assoc]
    congr 1
    cases step with
    | capture draws => rw [perform, List.length_append]; rfl
    | telemetry max =>
      rw [perform]
      split
      · rfl
      · rfl

/-- Of the captures each takes its frame first. -/
theorem framesBefore_calls {steps : List Step} {k : Nat}
    (hk : k < (steps.flatMap Step.calls).count .chunk) :
    Source.framesBefore (steps.flatMap Step.calls) k = k + 1 := by
  induction steps generalizing k with
  | nil => exact absurd hk (Nat.not_lt_zero k)
  | cons step later ih =>
    cases step with
    | telemetry max => exact ih hk
    | capture draws =>
      cases k with
      | zero => rfl
      | succ k =>
        have hlater : k < (later.flatMap Step.calls).count .chunk := by
          rw [List.flatMap_cons, List.count_append, Step.calls] at hk
          exact Nat.lt_of_succ_lt_succ (hk.trans_eq (Nat.add_comm 1 _))
        exact congrArg (· + 1) (ih hlater)

/-! ## Room -/

/-- A chunk is not longer than the room that is left in the queue. -/
def Step.Fits (p : Pipeline) : Step → Prop
  | .capture draws =>
    (p.source.nextFrame draws).2.nextChunk.1.length ≤ p.bytes.ring.free.toNat
  | .telemetry _ => True

instance (p : Pipeline) (step : Step) : Decidable (step.Fits p) :=
  match step with
  | .capture _ => inferInstanceAs (Decidable (_ ≤ _))
  | .telemetry _ => inferInstanceAs (Decidable True)

/-- Every step of a run has room. -/
def Fits (p : Pipeline) (t : Traffic) : List Step → Prop
  | [] => True
  | step :: later => step.Fits p ∧ (p.perform t step).1.Fits (p.perform t step).2 later

instance Fits.decidable (p : Pipeline) (t : Traffic) : (steps : List Step) → Decidable (p.Fits t steps)
  | [] => inferInstanceAs (Decidable True)
  | step :: later =>
    have := Fits.decidable (p.perform t step).1 (p.perform t step).2 later
    inferInstanceAs (Decidable (_ ∧ _))

/-- With room a capture leaves the start of the window, and the places go on where they ended. -/
theorem Account.range_arriving (h : Account capacity p t places w) {step : Step} (hfits : step.Fits p) :
    List.range w.first ++ w.arriving step = List.range (w.after capacity step).first := by
  cases step with
  | telemetry max =>
    have hranges := List.range'_append_1 (s := 0) (m := w.first) (n := min max (w.next - w.first))
    rw [Nat.zero_add] at hranges
    rw [Window.arriving, Window.after, List.range_eq_range', List.range_eq_range']
    exact hranges
  | capture draws =>
    have hlen := h.stream_length
    have hcount := h.holds.count
    have hle := h.holds.ring.count_le
    have hcap : p.bytes.ring.capacity.toNat = capacity := by
      rw [h.holds.capacity, h.capacity]
    have hroom : chunkSize ≤ p.bytes.ring.free.toNat := by
      rw [Step.Fits, Source.nextChunk_eq, h.report] at hfits
      exact hfits
    rw [h.holds.ring.free_toNat] at hroom
    rw [List.length_drop, hlen] at hcount
    rw [Window.arriving, Window.after, List.append_nil, Nat.max_eq_left (by omega)]

theorem Account.range_arrivals (h : Account capacity p t places w) {steps : List Step}
    (hfits : p.Fits t steps) :
    List.range w.first ++ w.arrivals capacity steps =
      List.range (steps.foldl (Window.after capacity) w).first := by
  induction steps generalizing p t places w with
  | nil => exact List.append_nil _
  | cons step later ih =>
    obtain ⟨hstep,hlater⟩ := hfits
    rw [Window.arrivals, ← List.append_assoc, h.range_arriving hstep]
    exact ih (h.perform step) hlater

/-! ## What has arrived -/

theorem Account.sent_size (h : Account capacity p t places w) :
    ∀ payload ∈ t.sent, payload.length ≤ maxPayload ∧ (encode payload).length = chunkSize := by
  intro payload hpayload
  rw [h.sent] at hpayload
  obtain ⟨k,-,rfl⟩ := List.mem_map.mp hpayload
  exact ⟨counters_short k,encode_counters_length k⟩

/-- Without a gap in the places a front of the stream has arrived. -/
theorem Account.received_prefix (h : Account capacity p t places w)
    (hplaces : places = List.range w.first) : t.received <+: t.sent.flatMap encode := by
  have htake : t.received = (chunkStream p.source.chunks).take w.first := by
    apply List.map_injective_iff.mpr (Option.some_injective UInt8)
    have hall := map_take_drop_eq_map_range' (chunkStream p.source.chunks) 0 w.first
    rw [List.drop_zero, Nat.sub_zero, h.stream_length, Nat.min_eq_left h.first_le] at hall
    rw [h.bytes, hplaces, List.range_eq_range', hall]
  rw [htake, h.sent]
  exact List.take_prefix _ _

theorem Account.emitted_of_prefix (h : Account capacity p t places w)
    (hfront : t.received <+: t.sent.flatMap encode) :
    t.emitted = t.sent.take (t.received.length / chunkSize) ∧ p.decoder.rejected = 0 := by
  obtain ⟨hpayloads,hrejected⟩ := search_of_prefix hfront
  refine ⟨?_,h.decoder.rejected.trans hrejected⟩
  rw [h.emitted, hpayloads, arrived_of_size (by decide) fun payload hp => (h.sent_size payload hp).2]
  refine (List.map_congr_left ?_).trans (List.map_id _)
  intro payload hpayload
  exact List.take_of_length_le (h.sent_size payload (List.mem_of_mem_take hpayload)).1

/-- What was sent has arrived from the front on, and the chunks that are in it whole were emitted. -/
structure Lossless (steps : List Step) (last : Pipeline) (t : Traffic) : Prop where
  sent : t.sent.length = (steps.flatMap Step.calls).count .chunk
  size : ∀ payload ∈ t.sent, (encode payload).length = chunkSize
  received : t.received <+: t.sent.flatMap encode
  emitted : t.emitted = t.sent.take (t.received.length / chunkSize)
  /-- A payload has the number of its chunk and the number of frames taken before. -/
  numbered : ∀ k < t.emitted.length, t.emitted[k]? =
    some (littleEndian64 (k + 1) ++
      littleEndian64 (Source.framesBefore (steps.flatMap Step.calls) k))
  rejected : last.decoder.rejected = 0

/-- In every run of captures and reads in which every chunk has room, the decoder has emitted the
payloads of the chunks that were read to their end, and rejected nothing. -/
theorem lossless_of_fits {frameCapacity byteCapacity : UInt64} (hframes : 0 < frameCapacity.toNat)
    (hframes' : frameCapacity.toNat < 2 ^ 63) (hbytes : 0 < byteCapacity.toNat)
    (hbytes' : byteCapacity.toNat < 2 ^ 63) (settings : SourceSettings) (overflow : Overflow)
    (denoise : Bilateral) :
    ∃ p, create settings frameCapacity overflow byteCapacity denoise = .ok p ∧
      ∀ steps, p.Fits {} steps → Lossless steps (p.run {} steps).1 (p.run {} steps).2 := by
  obtain ⟨p,hcreate,h⟩ := create_account hframes hframes' hbytes hbytes' settings overflow denoise
  refine ⟨p,hcreate,?_⟩
  intro steps hfits
  have hrun := h.run steps
  have hsent := (p.sent_length_run {} steps).trans (Nat.zero_add _)
  -- The places that have arrived are those of `h.run`, and without overflow they have no gap.
  have hreceived := hrun.received_prefix (h.range_arrivals hfits)
  obtain ⟨hemitted,hrejected⟩ := hrun.emitted_of_prefix hreceived
  refine ⟨hsent,fun payload hp => (hrun.sent_size payload hp).2,hreceived,hemitted,?_,hrejected⟩
  intro k hk
  rw [hemitted, List.length_take, Nat.lt_min] at hk
  obtain ⟨hend,hlt⟩ := hk
  have hchunks : k < (p.run {} steps).1.source.chunks := by
    rw [hrun.sent, List.length_map, List.length_range] at hlt
    exact hlt
  rw [hemitted, List.getElem?_take_of_lt hend, hrun.sent, List.getElem?_map,
    List.getElem?_range hchunks, framesBefore_calls (hlt.trans_eq hsent)]
  rfl

/-- The reads cut both chunks, and the second one goes around the end of the storage. -/
theorem lossless_of_fits_cut :
    ((0 < (4 : UInt64).toNat ∧ (4 : UInt64).toNat < 2 ^ 63) ∧
      (0 < (25 : UInt64).toNat ∧ (25 : UInt64).toNat < 2 ^ 63)) ∧
    ∃ p, create { width := 2, height := 1 } 4 .dropOldest 25 .standard = .ok p ∧
      let steps : List Step := [.capture fun _ => {}, .telemetry 15, .capture fun _ => {},
        .telemetry 22]
      p.Fits {} steps ∧ Lossless steps (p.run {} steps).1 (p.run {} steps).2 ∧
        (p.run {} steps).2.received.length = 37 ∧ (p.run {} steps).2.emitted.length = 1 := by
  have hframes : 0 < (4 : UInt64).toNat ∧ (4 : UInt64).toNat < 2 ^ 63 := by decide
  have hbytes : 0 < (25 : UInt64).toNat ∧ (25 : UInt64).toNat < 2 ^ 63 := by decide
  obtain ⟨p,hcreate,h⟩ := lossless_of_fits hframes.1 hframes.2 hbytes.1 hbytes.2
    { width := 2, height := 1 } .dropOldest .standard
  have hfresh : fresh { width := 2, height := 1 } 4 .dropOldest 25 .standard = p :=
    Except.ok.inj ((create_eq_ok hframes.1 hframes.2 hbytes.1 hbytes.2 _ _ _).symm.trans hcreate)
  subst hfresh
  have hfits : (fresh { width := 2, height := 1 } 4 .dropOldest 25 .standard).Fits {}
      [.capture fun _ => {}, .telemetry 15, .capture fun _ => {}, .telemetry 22] := by
    decide +kernel
  exact ⟨⟨hframes,hbytes⟩,_,hcreate,hfits,h _ hfits,by decide +kernel,by decide +kernel⟩

end Pipeline
end SensorRelay
