import SensorRelay.Proofs.Telemetry.Search

/-! # Where the payloads of a search stand

Every payload that a search gives is the payload of a chunk that is literally there, and the chunks
stand in the stream one behind the other.
-/
namespace SensorRelay
namespace Telemetry

/-- A payload, with the number of bytes in front of its chunk. -/
structure Find where
  offset : Nat
  payload : List UInt8
deriving DecidableEq

def Find.size (f : Find) : Nat := f.payload.length + 3

structure Find.In (f : Find) (stream : List UInt8) : Prop where
  short : f.payload.length ≤ maxPayload
  bytes : encode f.payload <+: stream.drop f.offset

/-- Payloads that stand in the stream in this order and apart from each other. -/
structure Located (stream : List UInt8) (payloads : List (List UInt8)) (finds : List Find) : Prop where
  payloads : finds.map Find.payload = payloads
  inside : ∀ f ∈ finds, f.In stream
  apart : finds.Pairwise fun f g => f.offset + f.size ≤ g.offset

variable {f : Find} {stream : List UInt8}

theorem Find.In.encode_length (h : f.In stream) : (encode f.payload).length = f.size :=
  encode_length_of_le h.short

theorem Find.In.length_le (h : f.In stream) : f.offset + f.size ≤ stream.length := by
  have hlen := h.bytes.length_le
  rw [h.encode_length, List.length_drop] at hlen
  have hpos : 0 < f.size := Nat.succ_pos _
  omega

theorem Find.In.getElem? (h : f.In stream) {j : Nat} (hj : j < f.size) :
    stream[f.offset + j]? = (encode f.payload)[j]? := by
  obtain ⟨after,hafter⟩ := h.bytes
  rw [← List.getElem?_drop, ← hafter, List.getElem?_append_left (by rw [h.encode_length]; exact hj)]

/-- The chunks that a search takes from the stream behind `before`. -/
theorem exists_located_behind (before stream : List UInt8) :
    ∃ finds, Located (before ++ stream) (search stream).payloads finds ∧
      ∀ f ∈ finds, before.length ≤ f.offset := by
  induction hn : stream.length using Nat.strongRecOn generalizing before stream with
  | _ n ih =>
    have hnone : Located (before ++ stream) [] [] :=
      ⟨rfl,fun _ hf => absurd hf List.not_mem_nil,List.Pairwise.nil⟩
    cases stream with
    | nil => exact ⟨[],by simpa [search] using hnone,fun _ hf => absurd hf List.not_mem_nil⟩
    | cons first rest =>
      rw [List.length_cons] at hn
      cases h : front first rest with
      | rejected =>
        obtain ⟨finds,hfinds,hbehind⟩ := ih rest.length (by omega) (before ++ [first]) rest rfl
        rw [List.append_assoc, List.singleton_append] at hfinds
        rw [search_of_rejected h]
        refine ⟨finds,hfinds,fun f hf => ?_⟩
        have := hbehind f hf
        rw [List.length_append] at this
        omega
      | partly =>
        rw [search_of_partly h]
        exact ⟨[],hnone,fun _ hf => absurd hf List.not_mem_nil⟩
      | chunk payload after =>
        obtain ⟨hshort,hbytes⟩ := front_chunk h
        have hlen := front_chunk_length h
        rw [List.length_cons] at hlen
        obtain ⟨finds,hfinds,hbehind⟩ :=
          ih after.length (by omega) (before ++ encode payload) after rfl
        rw [List.append_assoc, ← hbytes] at hfinds
        rw [List.length_append, encode_length_of_le hshort] at hbehind
        rw [search_of_chunk h]
        have hhead : Find.In ⟨before.length,payload⟩ (before ++ first :: rest) := by
          refine ⟨hshort,?_⟩
          rw [List.drop_left, hbytes]
          exact List.prefix_append _ _
        refine ⟨⟨before.length,payload⟩ :: finds,⟨?_,?_,?_⟩,?_⟩
        · rw [List.map_cons, hfinds.payloads]
        · exact List.forall_mem_cons.mpr ⟨hhead,hfinds.inside⟩
        · exact List.pairwise_cons.mpr ⟨hbehind,hfinds.apart⟩
        · refine List.forall_mem_cons.mpr ⟨Nat.le_refl _,fun f hf => ?_⟩
          have := hbehind f hf
          omega

theorem exists_located (stream : List UInt8) :
    ∃ finds, Located stream (search stream).payloads finds := by
  obtain ⟨finds,hfinds,-⟩ := exists_located_behind [] stream
  exact ⟨finds,hfinds⟩

end Telemetry
end SensorRelay
