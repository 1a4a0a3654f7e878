import SensorRelay.Pipeline
import SensorRelay.Proofs.ByteQueue.Contents
import SensorRelay.Proofs.ItemQueue.Contents
import SensorRelay.Proofs.Pipeline.ChunkStream
import SensorRelay.Proofs.Telemetry.Search

/-! # Telemetry of a run

A run captures and reads in any order. Its traffic is what the source sent as payloads, what reached
the decoder as bytes and what the decoder emitted as payloads.

The queue holds the bytes of a window of the stream of chunks: a capture moves the end of the window
on, and its start too as far as the bytes would not fit; a read moves the start on. So the places of
the bytes that arrive can be told from the steps and the capacity alone.
-/
namespace SensorRelay
namespace Pipeline

open Telemetry

inductive Step where
  /-- One frame and one chunk, with the draws for the frame's pixels. -/
  | capture (draws : Nat → Draw)
  /-- A read of at most `max` bytes. -/
  | telemetry (max : Nat)

structure Traffic where
  sent : List (List UInt8) := []
  received : List UInt8 := []
  emitted : List (List UInt8) := []

def moved (p : Pipeline) (max : Nat) : List UInt8 :=
  match (settle p.bytes (p.bytes.dequeue max .poll)).1 with
  | .ok run => run
  | .error _ => []

/-- The pipeline after a step, and the traffic with that of the step. -/
def perform (p : Pipeline) (t : Traffic) : Step → Pipeline × Traffic
  | .capture draws =>
    ((p.capture draws).2, { t with sent := t.sent ++ [(p.source.nextFrame draws).2.report] })
  | .telemetry max =>
    let received := t.received ++ p.moved max
    match p.readTelemetry max with
    | (.ok read, left) => (left, { t with received, emitted := t.emitted ++ read.payloads })
    | (.error _, left) => (left, { t with received })

def run (p : Pipeline) (t : Traffic) : List Step → Pipeline × Traffic
  | [] => (p, t)
  | step :: later => (p.perform t step).1.run (p.perform t step).2 later

/-! ## Places -/

/-- The places of the bytes in the queue: from `first` on, and before `next`. -/
structure Window where
  first : Nat := 0
  next : Nat := 0
deriving DecidableEq

namespace Window

/-- The window of a queue of `capacity` slots after a step. -/
def after (capacity : Nat) (w : Window) : Step → Window
  | .capture _ => ⟨max w.first (w.next + chunkSize - capacity), w.next + chunkSize⟩
  | .telemetry max => ⟨w.first + min max (w.next - w.first), w.next⟩

/-- The places of the bytes that a step moves to the decoder. -/
def arriving (w : Window) : Step → List Nat
  | .capture _ => []
  | .telemetry max => List.range' w.first (min max (w.next - w.first))

/-- The places of all bytes that a run moves to the decoder. -/
def arrivals (capacity : Nat) (w : Window) : List Step → List Nat
  | [] => []
  | step :: later => w.arriving step ++ (w.after capacity step).arrivals capacity later

theorem arrivals_append (capacity : Nat) (w : Window) (steps later : List Step) :
    w.arrivals capacity (steps ++ later) =
      w.arrivals capacity steps ++ (steps.foldl (after capacity) w).arrivals capacity later := by
  induction steps generalizing w with
  | nil => rfl
  | cons step steps ih =>
    rw [List.cons_append, arrivals, arrivals, ih, List.append_assoc]
    rfl

/-- Of captures alone nothing arrives, and the window keeps the last bytes. -/
theorem captures (capacity n : Nat) (draws : Nat → Draw) :
    arrivals capacity {} (List.replicate n (.capture draws)) = [] ∧
      (List.replicate n (Step.capture draws)).foldl (after capacity) {} =
        ⟨chunkSize * n - capacity,chunkSize * n⟩ := by
  induction n with
  | zero =>
    refine ⟨rfl,?_⟩
    rw [Nat.mul_zero, Nat.zero_sub]
    rfl
  | succ n ih =>
    obtain ⟨harrivals,hwindow⟩ := ih
    rw [List.replicate_succ', arrivals_append, harrivals, List.foldl_append, hwindow]
    refine ⟨rfl,?_⟩
    rw [List.foldl_cons, List.foldl_nil, after, Nat.mul_succ, max_eq_right]
    exact Nat.sub_le_sub_right (Nat.le_add_right _ _) _

end Window

/-- A pipeline, its traffic so far, the places that have arrived and the window agree. -/
structure Account (capacity : Nat) (p : Pipeline) (t : Traffic) (places : List Nat) (w : Window) :
    Prop where
  holds : p.bytes.Holds ((chunkStream p.source.chunks).drop w.first)
  capacity : p.bytes.capacity.toNat = capacity
  first_le : w.first ≤ w.next
  next : w.next = chunkSize * p.source.chunks
  frames : p.source.frames = p.source.chunks
  sent : t.sent = (List.range p.source.chunks).map counters
  decoder : p.decoder.Received t.received
  emitted : t.emitted = (search t.received).payloads
  bytes : t.received.map some = places.map ((chunkStream p.source.chunks)[·]?)
  behind : ∀ i ∈ places, i < w.first
  increasing : places.Pairwise (· < ·)

variable {capacity : Nat} {p : Pipeline} {t : Traffic} {places : List Nat} {w : Window}

theorem Account.stream_length (h : Account capacity p t places w) :
    (chunkStream p.source.chunks).length = w.next := by
  rw [chunkStream_length, h.next]

/-! ## Windows of a list -/

/-- The last `n` elements of a window and of what comes behind it are a window again. -/
theorem rtake_drop_append {α : Type} (l more : List α) {first : Nat} (h : first ≤ l.length) (n : Nat) :
    (l.drop first ++ more).rtake n = (l ++ more).drop (max first (l.length + more.length - n)) := by
  rw [← List.drop_append_of_le_length h, List.rtake, List.drop_drop, List.length_drop,
    List.length_append]
  congr 1
  omega

theorem drop_add_min {α : Type} (l : List α) (first n : Nat) :
    l.drop (first + min n (l.length - first)) = (l.drop first).drop n := by
  rw [List.drop_drop, List.drop_eq_drop_iff]
  omega

theorem map_take_drop_eq_map_range' {α : Type} (l : List α) (first n : Nat) :
    ((l.drop first).take n).map some =
      (List.range' first (min n (l.length - first))).map (l[·]?) := by
  apply List.ext_getElem
  · simp
  · intro i hi hi'
    simp only [List.length_map, List.length_range'] at hi'
    simp only [List.getElem_map, List.getElem_take, List.getElem_drop, List.getElem_range', Nat.one_mul]
    rw [List.getElem?_eq_getElem (by omega)]

/-! ## One step -/

theorem capture_bytes (p : Pipeline) (draws : Nat → Draw) :
    (p.capture draws).2.bytes =
      (offerChunk p.bytes (p.source.nextFrame draws).2.nextChunk.1).2 := rfl

theorem Account.report (h : Account capacity p t places w) (draws : Nat → Draw) :
    (p.source.nextFrame draws).2.report = counters p.source.chunks := by
  change littleEndian64 (p.source.chunks + 1) ++ littleEndian64 (p.source.frames + 1) = _
  rw [h.frames, counters]

theorem Account.perform_capture (h : Account capacity p t places w) (draws : Nat → Draw) :
    p.perform t (.capture draws) =
      ((p.capture draws).2, { t with sent := t.sent ++ [counters p.source.chunks] }) := by
  rw [perform, h.report]

theorem Account.capture (h : Account capacity p t places w) (draws : Nat → Draw) :
    Account capacity (p.perform t (.capture draws)).1 (p.perform t (.capture draws)).2
      (places ++ w.arriving (.capture draws)) (w.after capacity (.capture draws)) := by
  have hfirst := h.first_le
  have hlen := h.stream_length
  obtain ⟨left,henqueue,hleft,hcap⟩ := h.holds.enqueue (encode (counters p.source.chunks))
  have hbytes : (p.capture draws).2.bytes = left := by
    rw [capture_bytes, Source.nextChunk_eq, h.report, offerChunk, henqueue]
  have hchunks : (p.capture draws).2.source.chunks = p.source.chunks + 1 := rfl
  rw [h.perform_capture, Window.arriving, List.append_nil, Window.after]
  refine ⟨?_,?_,?_,?_,?_,?_,h.decoder,h.emitted,?_,?_,h.increasing⟩
  · rw [rtake_drop_append _ _ (hlen ▸ hfirst), hlen, encode_counters_length, h.capacity] at hleft
    rw [hbytes, hchunks, chunkStream_succ]
    exact hleft
  · rw [hbytes, hcap, h.capacity]
  · change max w.first (w.next + chunkSize - capacity) ≤ w.next + chunkSize
    omega
  · rw [hchunks, h.next, Nat.mul_succ]
  · change p.source.frames + 1 = p.source.chunks + 1
    rw [h.frames]
  · rw [hchunks, List.range_succ, List.map_append, List.map_singleton, h.sent]
  · rw [hchunks, chunkStream_succ]
    refine h.bytes.trans (List.map_congr_left ?_)
    intro i hi
    have hplace := h.behind i hi
    exact (List.getElem?_append_left (by omega)).symm
  · intro i hi
    exact lt_of_lt_of_le (h.behind i hi) (le_max_left _ _)

/-- A read that fails changes nothing. -/
theorem perform_of_error {max : Nat} {f : Failure} (h : p.bytes.dequeue max .poll = some (.error f)) :
    p.perform t (.telemetry max) = (p, t) := by
  rw [perform, moved, readTelemetry, h]
  simp only [settle, List.append_nil]

theorem perform_of_ok {max : Nat} {run : List UInt8} {left : ByteQueue}
    (h : p.bytes.dequeue max .poll = some (.ok (run, left))) :
    p.perform t (.telemetry max) =
      ({ p with bytes := left, decoder := (p.decoder.push run).2 },
        { t with received := t.received ++ run, emitted := t.emitted ++ (p.decoder.push run).1 }) := by
  rw [perform, moved, readTelemetry, h]
  rfl

/-- A read of nothing, or from an empty queue, fails. -/
theorem Account.dequeue_error (h : Account capacity p t places w) {max : Nat}
    (hnone : min max (w.next - w.first) = 0) :
    ∃ f, p.bytes.dequeue max .poll = some (.error f) := by
  by_cases hmax : max = 0
  · refine ⟨.invalidParameter,?_⟩
    rw [ByteQueue.dequeue, ByteQueue.dequeueSeeing, if_pos hmax]
  · have hlen := h.stream_length
    have hnil : (chunkStream p.source.chunks).drop w.first = [] := List.drop_eq_nil_of_le (by omega)
    have hempty : p.bytes.Holds [] := hnil ▸ h.holds
    exact ⟨.timeout,hempty.dequeue_nil hmax .poll⟩

theorem Account.dequeue_ok (h : Account capacity p t places w) {max : Nat}
    (hsome : min max (w.next - w.first) ≠ 0) :
    ∃ left, p.bytes.dequeue max .poll =
        some (.ok (((chunkStream p.source.chunks).drop w.first).take max, left)) ∧
      left.Holds ((chunkStream p.source.chunks).drop (w.first + min max (w.next - w.first))) ∧
      left.capacity = p.bytes.capacity := by
  have hlen := h.stream_length
  have hmax : max ≠ 0 := by omega
  have hne : (chunkStream p.source.chunks).drop w.first ≠ [] := by
    intro hnil
    have hdrop := congrArg List.length hnil
    rw [List.length_drop, List.length_nil] at hdrop
    omega
  rw [← hlen, drop_add_min]
  exact h.holds.dequeue_some hne hmax .poll

theorem Account.telemetry (h : Account capacity p t places w) (max : Nat) :
    Account capacity (p.perform t (.telemetry max)).1 (p.perform t (.telemetry max)).2
      (places ++ w.arriving (.telemetry max)) (w.after capacity (.telemetry max)) := by
  have hfirst := h.first_le
  have hlen := h.stream_length
  rw [Window.arriving, Window.after]
  by_cases hnone : min max (w.next - w.first) = 0
  · obtain ⟨f,hf⟩ := h.dequeue_error hnone
    rw [perform_of_error hf, hnone, List.range'_zero, List.append_nil, Nat.add_zero]
    exact h
  · obtain ⟨left,hdequeue,hleft,hcap⟩ := h.dequeue_ok hnone
    obtain ⟨hdecoder,hsearch⟩ := h.decoder.push (((chunkStream p.source.chunks).drop w.first).take max)
    rw [perform_of_ok hdequeue]
    refine ⟨hleft,?_,?_,h.next,h.frames,h.sent,hdecoder,?_,?_,?_,?_⟩
    · exact (congrArg UInt64.toNat hcap).trans h.capacity
    · change w.first + min max (w.next - w.first) ≤ w.next
      omega
    · rw [hsearch, h.emitted]
    · rw [List.map_append, List.map_append, h.bytes, map_take_drop_eq_map_range', hlen]
    · refine List.forall_mem_append.mpr ⟨?_,?_⟩
      · intro i hi
        exact lt_of_lt_of_le (h.behind i hi) (Nat.le_add_right _ _)
      · intro i hi
        exact (List.mem_range'_1.mp hi).2
    · refine List.pairwise_append.mpr ⟨h.increasing,List.pairwise_lt_range',?_⟩
      intro i hi j hj
      exact lt_of_lt_of_le (h.behind i hi) (List.mem_range'_1.mp hj).1

theorem Account.perform (h : Account capacity p t places w) (step : Step) :
    Account capacity (p.perform t step).1 (p.perform t step).2 (places ++ w.arriving step)
      (w.after capacity step) := by
  cases step with
  | capture draws => exact h.capture draws
  | telemetry max => exact h.telemetry max

/-! ## A whole run -/

/-- A whole run keeps the account, with the places that its steps bring. -/
theorem Account.run (h : Account capacity p t places w) (steps : List Step) :
    Account capacity (p.run t steps).1 (p.run t steps).2 (places ++ w.arrivals capacity steps)
      (steps.foldl (Window.after capacity) w) := by
  induction steps generalizing p t places w with
  | nil =>
    rw [Pipeline.run, Window.arrivals, List.append_nil]
    exact h
  | cons step later ih =>
    have hlast := ih (h.perform step)
    rw [List.append_assoc] at hlast
    exact hlast

/-- The pipeline with two empty queues. -/
def fresh (settings : SourceSettings) (frameCapacity : UInt64) (overflow : Overflow)
    (byteCapacity : UInt64) (denoise : Bilateral) : Pipeline :=
  ⟨⟨settings,0,0,0⟩,ItemQueue.fresh frameCapacity overflow (some ⟨fun _ => false⟩),
    ByteQueue.fresh byteCapacity,denoise,{}⟩

theorem create_eq_ok {frameCapacity byteCapacity : UInt64} (hframes : 0 < frameCapacity.toNat)
    (hframes' : frameCapacity.toNat < 2 ^ 63) (hbytes : 0 < byteCapacity.toNat)
    (hbytes' : byteCapacity.toNat < 2 ^ 63) (settings : SourceSettings) (overflow : Overflow)
    (denoise : Bilateral) :
    create settings frameCapacity overflow byteCapacity denoise =
      .ok (fresh settings frameCapacity overflow byteCapacity denoise) := by
  rw [create, FrameQueue.create, ItemQueue.create_eq_ok hframes hframes',
    ByteQueue.create_eq_ok hbytes hbytes']
  rfl

/-- A pipeline of two allocatable queues starts with no traffic. -/
theorem create_account {frameCapacity byteCapacity : UInt64} (hframes : 0 < frameCapacity.toNat)
    (hframes' : frameCapacity.toNat < 2 ^ 63) (hbytes : 0 < byteCapacity.toNat)
    (hbytes' : byteCapacity.toNat < 2 ^ 63) (settings : SourceSettings) (overflow : Overflow)
    (denoise : Bilateral) :
    ∃ p, create settings frameCapacity overflow byteCapacity denoise = .ok p ∧
      Account byteCapacity.toNat p {} [] {} := by
  refine ⟨_,create_eq_ok hframes hframes' hbytes hbytes' settings overflow denoise,?_⟩
  exact {
    holds := ByteQueue.fresh_holds hbytes hbytes'
    capacity := rfl
    first_le := Nat.le_refl 0
    next := rfl
    frames := rfl
    sent := rfl
    decoder := Decoder.received_nil
    emitted := by rw [search]
    bytes := rfl
    behind := fun _ hi => absurd hi List.not_mem_nil
    increasing := List.Pairwise.nil }

end Pipeline
end SensorRelay
