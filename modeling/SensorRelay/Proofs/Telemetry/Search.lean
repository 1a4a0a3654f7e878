import SensorRelay.Telemetry.Decoder
import SensorRelay.Proofs.Telemetry.Layout

/-! # Searching a stream that keeps growing

What has been rejected or recognised at the front of a stream stays so when more bytes arrive; only a
chunk without its end is looked at again. Hence the search of a stream in two parts is the search of
the whole, if the second part is put behind what the first left pending.
-/
namespace SensorRelay
namespace Telemetry

variable {first check : UInt8} {rest payload after : List UInt8}

/-! ## The front -/

theorem front_of_ne (h : first ≠ sync) (rest : List UInt8) : front first rest = .rejected := by
  rw [front.eq_def, if_pos h]

/-- With as many bytes as its length byte asks for, a chunk is taken or rejected by its check. -/
theorem front_complete (h : payload.length ≤ maxPayload) :
    front sync (UInt8.ofNat payload.length :: (payload ++ check :: after)) =
      if Checksum.crc7 (UInt8.ofNat payload.length :: payload) = check then .chunk payload after
      else .rejected := by
  have hlength : (UInt8.ofNat payload.length).toNat = payload.length :=
    UInt8.toNat_ofNat_of_lt' (by change _ < 256; exact Nat.lt_succ_of_le h)
  simp only [front, hlength, List.drop_left, List.take_left, if_neg (not_not_intro rfl)]

/-- A front that is decided starts with another byte, or has as many bytes as it asks for. -/
theorem complete_of_front_ne_partly (h : front first rest ≠ .partly) (hsync : first = sync) :
    ∃ payload check after, payload.length ≤ maxPayload ∧
      rest = UInt8.ofNat payload.length :: (payload ++ check :: after) := by
  rw [front.eq_def, if_neg (not_not_intro hsync)] at h
  cases rest with
  | nil => exact absurd rfl h
  | cons length body =>
    cases hd : body.drop length.toNat with
    | nil =>
      simp only [hd] at h
      exact absurd rfl h
    | cons check after =>
      have hlt : length.toNat < body.length := by
        by_contra hle
        rw [List.drop_eq_nil_of_le (Nat.le_of_not_lt hle)] at hd
        cases hd
      have hlength : (body.take length.toNat).length = length.toNat := by
        rw [List.length_take, Nat.min_eq_left (Nat.le_of_lt hlt)]
      refine ⟨body.take length.toNat,check,after,?_,?_⟩
      · rw [hlength]
        exact Nat.le_of_lt_succ length.toNat_lt
      · rw [hlength, UInt8.ofNat_toNat, ← hd, List.take_append_drop]

theorem front_append_of_rejected (h : front first rest = .rejected) (more : List UInt8) :
    front first (rest ++ more) = .rejected := by
  by_cases hsync : first = sync
  · obtain ⟨payload,check,after,hlen,hrest⟩ :=
      complete_of_front_ne_partly (by rw [h]; exact Front.noConfusion) hsync
    rw [hsync, hrest, front_complete hlen] at h
    rw [hsync, hrest, List.cons_append, List.append_assoc, List.cons_append, front_complete hlen]
    split at h
    · cases h
    · next hcheck => rw [if_neg hcheck]
  · exact front_of_ne hsync _

/-- A chunk at the front is an encoded payload. -/
theorem front_chunk (h : front first rest = .chunk payload after) :
    payload.length ≤ maxPayload ∧ first :: rest = encode payload ++ after := by
  have hsync : first = sync := by
    by_contra hne
    rw [front_of_ne hne] at h
    cases h
  obtain ⟨p,check,tail,hlen,hrest⟩ :=
    complete_of_front_ne_partly (by rw [h]; exact Front.noConfusion) hsync
  rw [hsync, hrest, front_complete hlen] at h
  split at h
  · next hcheck =>
    cases h
    refine ⟨hlen,?_⟩
    rw [hsync, hrest, encode_of_length_le hlen, hcheck, List.cons_append, List.cons_append,
      List.append_assoc]
    rfl
  · cases h

theorem front_encode (hlen : payload.length ≤ maxPayload) (h : first :: rest = encode payload ++ after) :
    front first rest = .chunk payload after := by
  rw [encode_of_length_le hlen, List.cons_append, List.cons_append, List.append_assoc,
    List.cons.injEq] at h
  rw [h.1, h.2, List.cons_append, List.nil_append, front_complete hlen, if_pos rfl]

theorem front_append_of_chunk (h : front first rest = .chunk payload after) (more : List UInt8) :
    front first (rest ++ more) = .chunk payload (after ++ more) := by
  obtain ⟨hlen,hbytes⟩ := front_chunk h
  refine front_encode hlen ?_
  rw [← List.cons_append, hbytes, List.append_assoc]

/-! ## The search -/

theorem search_of_rejected (h : front first rest = .rejected) :
    search (first :: rest) = { search rest with rejected := (search rest).rejected + 1 } := by
  rw [search]
  split <;> simp_all

theorem search_of_partly (h : front first rest = .partly) :
    search (first :: rest) = ⟨[], 0, first :: rest⟩ := by
  rw [search]
  split <;> simp_all

theorem search_of_chunk (h : front first rest = .chunk payload after) :
    search (first :: rest) =
      { search after with payloads := payload :: (search after).payloads } := by
  rw [search]
  split <;> simp_all

/-- The search of the whole goes on where the search of the first part has stopped. -/
theorem search_append (stream more : List UInt8) :
    search (stream ++ more) =
      ⟨(search stream).payloads ++ (search ((search stream).pending ++ more)).payloads,
        (search stream).rejected + (search ((search stream).pending ++ more)).rejected,
        (search ((search stream).pending ++ more)).pending⟩ := by
  induction hn : stream.length using Nat.strongRecOn generalizing stream with
  | _ n ih =>
    cases stream with
    | nil => simp [search]
    | cons first rest =>
      rw [List.length_cons] at hn
      rw [List.cons_append]
      cases h : front first rest with
      | rejected =>
        rw [search_of_rejected h, search_of_rejected (front_append_of_rejected h more),
          ih rest.length (by omega) rest rfl, Nat.add_right_comm]
      | partly => simp [search_of_partly h]
      | chunk payload after =>
        have hlen := front_chunk_length h
        rw [List.length_cons] at hlen
        rw [search_of_chunk h, search_of_chunk (front_append_of_chunk h more),
          ih after.length (by omega) after rfl, List.cons_append]

/-! ## The decoder -/

/-- A decoder that was given `stream`, in whatever pieces. -/
structure Decoder.Received (d : Decoder) (stream : List UInt8) : Prop where
  pending : d.pending = (search stream).pending
  rejected : d.rejected = (search stream).rejected

theorem Decoder.received_nil : Received {} [] where
  pending := by rw [search]
  rejected := by rw [search]

variable {d : Decoder} {stream : List UInt8}

/-- A push gives what the search of the longer stream finds beyond that of the shorter one. -/
theorem Decoder.Received.push (h : d.Received stream) (bytes : List UInt8) :
    (d.push bytes).2.Received (stream ++ bytes) ∧
      (search (stream ++ bytes)).payloads = (search stream).payloads ++ (d.push bytes).1 := by
  have hsearch := search_append stream bytes
  rw [← h.pending] at hsearch
  rw [hsearch]
  refine ⟨⟨?_,?_⟩,rfl⟩
  · rw [hsearch]
    rfl
  · rw [hsearch, ← h.rejected]
    rfl

end Telemetry
end SensorRelay
