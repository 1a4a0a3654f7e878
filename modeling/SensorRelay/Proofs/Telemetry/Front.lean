import SensorRelay.Proofs.Telemetry.Search

/-! # What a front says about chunks

The three readings of a front are the three ways in which a stream can begin: with a whole chunk, with
a part of a chunk that goes on to the end of the stream, or with neither. No stream begins in two of
these ways.
-/
namespace SensorRelay
namespace Telemetry

/-- The stream begins with a whole chunk. -/
def BeginsWhole (stream : List UInt8) : Prop := ∃ payload, encode payload <+: stream

/-- The stream is the beginning of a chunk, but not all of it. -/
def BrokenOff (stream : List UInt8) : Prop :=
  stream ≠ [] ∧ ∃ payload, stream <+: encode payload ∧ stream ≠ encode payload

variable {first : UInt8} {rest payload after stream : List UInt8}

/-! ## Payloads of any length -/

theorem encode_take (payload : List UInt8) : encode (payload.take maxPayload) = encode payload := by
  rw [encode, encode, List.take_take, Nat.min_self]

theorem encode_length (payload : List UInt8) :
    (encode payload).length = min maxPayload payload.length + 3 := by
  rw [← encode_take, encode_length_of_le (List.length_take_le _ _), List.length_take]

theorem encode_ne_nil (payload : List UInt8) : encode payload ≠ [] := List.cons_ne_nil _ _

theorem front_encode_append (h : first :: rest = encode payload ++ after) :
    front first rest = .chunk (payload.take maxPayload) after := by
  rw [← encode_take] at h
  exact front_encode (List.length_take_le _ _) h

/-! ## The three readings -/

theorem beginsWhole_iff :
    BeginsWhole (first :: rest) ↔ ∃ payload after, front first rest = .chunk payload after := by
  constructor
  · rintro ⟨payload,after,h⟩
    exact ⟨_,after,front_encode_append h.symm⟩
  · rintro ⟨payload,after,h⟩
    exact ⟨payload,after,(front_chunk h).2.symm⟩

theorem of_front_partly (h : front first rest = .partly) :
    first = sync ∧ ∀ length body, rest = length :: body → body.length ≤ length.toNat := by
  have hsync : first = sync := by
    by_contra hne
    rw [front_of_ne hne] at h
    cases h
  refine ⟨hsync,?_⟩
  rintro length body rfl
  -- A longer body would have a byte at the place of the check, which decides the front.
  by_contra hlt
  have hlength : (body.take length.toNat).length = length.toNat := by
    rw [List.length_take]
    omega
  have hbody : body =
      body.take length.toNat ++ body[length.toNat] :: body.drop (length.toNat + 1) := by
    rw [← List.drop_eq_getElem_cons (by omega), List.take_append_drop]
  have hmax : (body.take length.toNat).length ≤ maxPayload := by
    rw [hlength]
    exact Nat.le_of_lt_succ length.toNat_lt
  have hcomplete := @front_complete body[length.toNat] _ (body.drop (length.toNat + 1)) hmax
  rw [hlength, UInt8.ofNat_toNat, ← hbody, ← hsync, h] at hcomplete
  split at hcomplete <;> cases hcomplete

theorem brokenOff_of_partly (h : front first rest = .partly) : BrokenOff (first :: rest) := by
  obtain ⟨rfl,hshort⟩ := of_front_partly h
  refine ⟨List.cons_ne_nil _ _,?_⟩
  cases rest with
  | nil => exact ⟨[],⟨_,rfl⟩,by decide⟩
  | cons length body =>
    -- The payload that the length byte announces, filled up with zeros.
    have hle := hshort length body rfl
    have hfull : (body ++ List.replicate (length.toNat - body.length) 0).length = length.toNat := by
      rw [List.length_append, List.length_replicate]
      omega
    have hmax : (body ++ List.replicate (length.toNat - body.length) 0).length ≤ maxPayload := by
      rw [hfull]
      exact Nat.le_of_lt_succ length.toNat_lt
    refine ⟨body ++ List.replicate (length.toNat - body.length) 0,?_,?_⟩
    · rw [encode_of_length_le hmax, hfull, UInt8.ofNat_toNat, List.append_assoc]
      exact ⟨_,rfl⟩
    · intro heq
      have hlen := congrArg List.length heq
      rw [encode_length_of_le hmax, hfull] at hlen
      simp only [List.length_cons] at hlen
      omega

theorem brokenOff_iff : BrokenOff (first :: rest) ↔ front first rest = .partly := by
  refine ⟨?_,brokenOff_of_partly⟩
  rintro ⟨-,payload,⟨more,hmore⟩,hne⟩
  -- With the missing bytes the front is a chunk with nothing behind it.
  have hwhole : front first (rest ++ more) = .chunk (payload.take maxPayload) [] :=
    front_encode_append (by rw [List.append_nil]; exact hmore)
  cases h : front first rest with
  | rejected =>
    rw [front_append_of_rejected h] at hwhole
    cases hwhole
  | partly => rfl
  | chunk payload after =>
    rw [front_append_of_chunk h, Front.chunk.injEq] at hwhole
    rw [(List.append_eq_nil_iff.mp hwhole.2).2, List.append_nil] at hmore
    exact absurd hmore hne

theorem front_rejected_iff :
    front first rest = .rejected ↔ ¬ BeginsWhole (first :: rest) ∧ ¬ BrokenOff (first :: rest) := by
  rw [beginsWhole_iff, brokenOff_iff]
  cases front first rest with
  | rejected => simp
  | partly => simp
  | chunk payload after => simp

/-! ## Broken chunks -/

theorem BrokenOff.head (h : BrokenOff stream) : stream.head? = some sync := by
  cases stream with
  | nil => exact absurd rfl h.1
  | cons first rest => rw [(of_front_partly (brokenOff_iff.mp h)).1, List.head?_cons]

theorem BrokenOff.length_le (h : BrokenOff stream) : stream.length ≤ maxPayload + 2 := by
  obtain ⟨-,payload,hbegin,hne⟩ := h
  have hlt : stream.length < (encode payload).length :=
    Nat.lt_of_le_of_ne hbegin.length_le fun hlen => hne (hbegin.eq_of_length hlen)
  rw [encode_length] at hlt
  omega

end Telemetry
end SensorRelay
