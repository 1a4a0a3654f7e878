import SensorRelay.Proofs.Telemetry.Feed
import SensorRelay.Proofs.Telemetry.Front

/-! # Chunks that arrive in pieces

The stream of the chunks of some payloads is found again without a rejected byte, whatever bytes the
payloads have: a search that starts at a chunk goes from chunk to chunk. Of a part of the stream it
finds the payloads whose chunks have come to their end.
-/
namespace SensorRelay
namespace Telemetry

/-- The number of bytes up to the end of the chunk of the `k`-th payload. -/
def chunkEnd (payloads : List (List UInt8)) (k : Nat) : Nat :=
  ((payloads.take (k + 1)).flatMap encode).length

/-- The payloads, as far as a chunk can carry them, whose chunks end within the first `n` bytes. -/
def arrived (payloads : List (List UInt8)) (n : Nat) : List (List UInt8) :=
  (payloads.zipIdx.filter fun p => chunkEnd payloads p.2 ≤ n).map fun p => p.1.take maxPayload

variable {payload stream : List UInt8} {payloads : List (List UInt8)} {n : Nat}

theorem chunkEnd_zero (payload : List UInt8) (payloads : List (List UInt8)) :
    chunkEnd (payload :: payloads) 0 = (encode payload).length := by
  simp [chunkEnd]

theorem chunkEnd_succ (payload : List UInt8) (payloads : List (List UInt8)) (k : Nat) :
    chunkEnd (payload :: payloads) (k + 1) = (encode payload).length + chunkEnd payloads k := by
  simp [chunkEnd]

theorem encode_length_le_chunkEnd (payload : List UInt8) (payloads : List (List UInt8)) (k : Nat) :
    (encode payload).length ≤ chunkEnd (payload :: payloads) k := by
  cases k with
  | zero => exact Nat.le_of_eq (chunkEnd_zero payload payloads).symm
  | succ k =>
    rw [chunkEnd_succ]
    exact Nat.le_add_right _ _

theorem arrived_cons_of_le (h : (encode payload).length ≤ n) :
    arrived (payload :: payloads) n =
      payload.take maxPayload :: arrived payloads (n - (encode payload).length) := by
  have hlater : ∀ k, chunkEnd (payload :: payloads) (k + 1) ≤ n ↔
      chunkEnd payloads k ≤ n - (encode payload).length := by
    intro k
    rw [chunkEnd_succ]
    omega
  rw [arrived, List.zipIdx_cons, List.filter_cons_of_pos (by simpa [chunkEnd_zero] using h),
    List.map_cons, Nat.zero_add, List.zipIdx_succ, List.filter_map, List.map_map]
  simp [arrived, Function.comp_def, hlater]

theorem arrived_cons_of_lt (h : n < (encode payload).length) :
    arrived (payload :: payloads) n = [] := by
  have hnone : ∀ k, ¬ chunkEnd (payload :: payloads) k ≤ n := by
    intro k
    have := encode_length_le_chunkEnd payload payloads k
    omega
  simp [arrived, hnone]

/-- Where all chunks have one size, as many have arrived as fit. -/
theorem arrived_of_size {size : Nat} (hpos : 0 < size)
    (hsize : ∀ payload ∈ payloads, (encode payload).length = size) :
    arrived payloads n = (payloads.take (n / size)).map (List.take maxPayload) := by
  induction payloads generalizing n with
  | nil => rw [List.take_nil]; rfl
  | cons payload payloads ih =>
    obtain ⟨hfirst,hlater⟩ := List.forall_mem_cons.mp hsize
    by_cases hle : size ≤ n
    · rw [arrived_cons_of_le (hfirst ▸ hle), hfirst, ih hlater,
        Nat.div_eq_sub_div hpos hle, List.take_succ_cons, List.map_cons]
    · have hlt : n < size := Nat.lt_of_not_le hle
      rw [arrived_cons_of_lt (hfirst ▸ hlt), Nat.div_eq_of_lt hlt]
      rfl

/-! ## Searching chunks -/

theorem search_encode_append (payload after : List UInt8) :
    search (encode payload ++ after) =
      { search after with payloads := payload.take maxPayload :: (search after).payloads } := by
  cases h : encode payload ++ after with
  | nil => exact absurd (List.append_eq_nil_iff.mp h).1 (encode_ne_nil payload)
  | cons first rest => rw [search_of_chunk (front_encode_append h.symm)]

theorem search_of_brokenOff (h : stream = [] ∨ BrokenOff stream) :
    search stream = ⟨[], 0, stream⟩ := by
  cases stream with
  | nil => rw [search]
  | cons first rest =>
    rcases h with h | h
    · cases h
    · exact search_of_partly (brokenOff_iff.mp h)

theorem search_flatMap_encode (payloads : List (List UInt8)) :
    search (payloads.flatMap encode) = ⟨payloads.map (List.take maxPayload), 0, []⟩ := by
  induction payloads with
  | nil => rw [List.flatMap_nil, search, List.map_nil]
  | cons payload payloads ih => rw [List.flatMap_cons, search_encode_append, ih, List.map_cons]

theorem search_of_prefix (h : stream <+: payloads.flatMap encode) :
    (search stream).payloads = arrived payloads stream.length ∧ (search stream).rejected = 0 := by
  induction payloads generalizing stream with
  | nil =>
    rw [List.prefix_nil.mp h, search]
    exact ⟨rfl,rfl⟩
  | cons payload payloads ih =>
    rw [List.flatMap_cons] at h
    by_cases hlen : (encode payload).length ≤ stream.length
    · obtain ⟨later,rfl⟩ := List.prefix_of_prefix_length_le (List.prefix_append _ _) h hlen
      obtain ⟨hpayloads,hrejected⟩ := ih ((List.prefix_append_right_inj _).mp h)
      rw [search_encode_append, arrived_cons_of_le hlen, List.length_append, Nat.add_sub_cancel_left]
      exact ⟨congrArg _ hpayloads,hrejected⟩
    · -- The stream ends within the first chunk, so the search waits at once.
      have hbroken : stream = [] ∨ BrokenOff stream := by
        refine or_iff_not_imp_left.mpr fun hne => ⟨hne,payload,?_,?_⟩
        · exact List.prefix_of_prefix_length_le h (List.prefix_append _ _) (by omega)
        · intro heq
          exact hlen (Nat.le_of_eq (congrArg List.length heq.symm))
      rw [search_of_brokenOff hbroken, arrived_cons_of_lt (by omega)]
      exact ⟨rfl,rfl⟩

/-- However the chunks of some payloads are cut into pushes, the decoder has emitted after each push
the payloads whose chunks have arrived up to their last byte, and has rejected nothing; in the end it
has emitted all of them and is as new. -/
theorem emitted_as_chunks_arrive {payloads pushes : List (List UInt8)}
    (hcut : pushes.flatten = payloads.flatMap encode) :
    (∀ n, (Decoder.feed {} (pushes.take n)).1 = arrived payloads (pushes.take n).flatten.length ∧
      (Decoder.feed {} (pushes.take n)).2.rejected = 0) ∧
    Decoder.feed {} pushes = (payloads.map (List.take maxPayload), {}) := by
  constructor
  · intro n
    have hbegin : (pushes.take n).flatten <+: payloads.flatMap encode := by
      rw [← hcut, ← List.take_append_drop n pushes, List.flatten_append]
      simp
    rw [Decoder.feed_new]
    exact search_of_prefix hbegin
  · rw [Decoder.feed_new, hcut, search_flatMap_encode]

/-- A payload that looks like the start of a chunk, and an empty one, cut inside both chunks. -/
theorem emitted_as_chunks_arrive_sync_inside :
    let payloads : List (List UInt8) := [[0xa5, 0], []]
    let pushes : List (List UInt8) := [[0xa5], [], [2, 0xa5, 0], [0x58, 0xa5, 0], [0]]
    pushes.flatten = payloads.flatMap encode ∧
      (List.range 6).map (fun n => (Decoder.feed {} (pushes.take n)).1.length) = [0, 0, 0, 0, 1, 2] ∧
      Decoder.feed {} pushes = ([[0xa5, 0], []], {}) := by
  intro payloads pushes
  have hcut : pushes.flatten = payloads.flatMap encode := by decide +kernel
  obtain ⟨hpushes,hlast⟩ := emitted_as_chunks_arrive hcut
  refine ⟨hcut,?_,hlast⟩
  simp only [hpushes]
  decide +kernel

end Telemetry
end SensorRelay
