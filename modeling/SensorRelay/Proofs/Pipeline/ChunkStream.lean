import SensorRelay.Source
import SensorRelay.Proofs.Telemetry.Layout

/-! # The stream of a source's chunks

A source that takes a frame before every chunk sends chunks of one size, with the two counters equal.
All bytes it ever sends are one stream, in which every byte has a place.
-/
namespace SensorRelay

open Telemetry

def Source.report (s : Source) : List UInt8 := littleEndian64 (s.chunks + 1) ++ littleEndian64 s.frames

theorem Source.nextChunk_eq (s : Source) :
    s.nextChunk = (encode s.report, { s with chunks := s.chunks + 1 }) := rfl

namespace Pipeline

def chunkSize : Nat := 19

/-- The payload of the chunk that `n` others go before. -/
def counters (n : Nat) : List UInt8 := littleEndian64 (n + 1) ++ littleEndian64 (n + 1)

theorem counters_length (n : Nat) : (counters n).length = 16 := rfl

theorem counters_short (n : Nat) : (counters n).length ≤ maxPayload := by
  rw [counters_length]
  decide

theorem encode_counters_length (n : Nat) : (encode (counters n)).length = chunkSize := rfl

/-- The bytes of the first `n` chunks. -/
def chunkStream (n : Nat) : List UInt8 := ((List.range n).map counters).flatMap encode

theorem chunkStream_succ (n : Nat) : chunkStream (n + 1) = chunkStream n ++ encode (counters n) := by
  rw [chunkStream, List.range_succ, List.map_append, List.flatMap_append, List.map_singleton,
    List.flatMap_singleton, chunkStream]

theorem chunkStream_length (n : Nat) : (chunkStream n).length = chunkSize * n := by
  induction n with
  | zero => rfl
  | succ n ih => rw [chunkStream_succ, List.length_append, ih, encode_counters_length, Nat.mul_succ]

theorem chunkStream_getElem? {n k j : Nat} (hk : k < n) (hj : j < chunkSize) :
    (chunkStream n)[chunkSize * k + j]? = (encode (counters k))[j]? := by
  induction n with
  | zero => exact absurd hk (Nat.not_lt_zero k)
  | succ n ih =>
    have hlen := chunkStream_length n
    rw [chunkStream_succ]
    by_cases hlast : k = n
    · rw [hlast, ← hlen, List.getElem?_append_right (Nat.le_add_right _ _), Nat.add_sub_cancel_left]
    · have hlt : k < n := by omega
      have hend := Nat.mul_le_mul_left chunkSize (Nat.succ_le_of_lt hlt)
      rw [Nat.mul_succ] at hend
      rw [List.getElem?_append_left (by omega)]
      exact ih hlt

/-- The last bytes of a chunk, with their places. -/
theorem chunkStream_tail {n k j : Nat} (hk : k < n) (hj : j ≤ chunkSize) :
    (List.range' (chunkSize * k + j) (chunkSize - j)).map ((chunkStream n)[·]?) =
      ((encode (counters k)).drop j).map some := by
  have hlen := encode_counters_length k
  apply List.ext_getElem
  · simp [hlen]
  · intro i hi hi'
    rw [List.length_map, List.length_drop, hlen] at hi'
    simp only [List.getElem_map, List.getElem_range', List.getElem_drop, Nat.one_mul]
    rw [Nat.add_assoc, chunkStream_getElem? hk (by omega), List.getElem?_eq_getElem]

/-- Every place is a place of a chunk. -/
theorem chunkStream_getElem?_place {n i : Nat} (hi : i < (chunkStream n).length) :
    i / chunkSize < n ∧ (chunkStream n)[i]? = (encode (counters (i / chunkSize)))[i % chunkSize]? := by
  rw [chunkStream_length] at hi
  have hk : i / chunkSize < n := Nat.div_lt_of_lt_mul hi
  have hplace := chunkStream_getElem? hk (Nat.mod_lt i (show 0 < chunkSize by decide))
  rw [Nat.div_add_mod] at hplace
  exact ⟨hk,hplace⟩

/-- The place of a byte of the counters in a chunk. -/
def InCounters (i : Nat) : Prop := 1 < i % chunkSize ∧ i % chunkSize < chunkSize - 1

/-- Outside the counters only the first byte of a chunk is the sync byte. -/
theorem sync_place {n i : Nat} (h : (chunkStream n)[i]? = some sync) :
    i % chunkSize = 0 ∨ InCounters i := by
  obtain ⟨-,hplace⟩ := chunkStream_getElem?_place (List.getElem?_eq_some_iff.mp h).1
  have hmod : i % chunkSize < chunkSize := Nat.mod_lt _ (by decide)
  have hsize : chunkSize = 19 := rfl
  rw [h] at hplace
  by_contra hout
  obtain ⟨hzero,hcounters⟩ := not_or.mp hout
  obtain hone | hlast : i % chunkSize = 1 ∨ i % chunkSize = 18 := by
    rw [InCounters] at hcounters
    omega
  · rw [hone, encode_getElem?_one (counters_short _), counters_length] at hplace
    exact absurd (Option.some.inj hplace) (by decide)
  · rw [hlast] at hplace
    have hcheck := hplace.trans (encode_getElem?_last (counters_short _))
    exact crc7_ne_sync _ (Option.some.inj hcheck).symm

end Pipeline
end SensorRelay
