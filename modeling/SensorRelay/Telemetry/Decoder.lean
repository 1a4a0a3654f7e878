import SensorRelay.Telemetry.Chunk

/-! # Finding chunks in a stream with gaps

The decoder looks for the leftmost chunk. A byte at which no chunk starts is rejected and the search
goes on behind it; a chunk that has not fully arrived stays pending until more bytes come. -/
namespace SensorRelay.Telemetry

/-- What stands at the front of a stream. -/
inductive Front where
  /-- No chunk starts here. -/
  | rejected
  /-- A chunk may start here, but its end has not arrived. -/
  | partly
  | chunk (payload rest : List UInt8)
deriving DecidableEq

/-- Reads the front of the stream `first :: rest`. -/
def front (first : UInt8) (rest : List UInt8) : Front :=
  if first ≠ sync then .rejected
  else match rest with
    | [] => .partly
    | length :: body =>
      match body.drop length.toNat with
      | [] => .partly
      | check :: after =>
        let payload := body.take length.toNat
        if Checksum.crc7 (length :: payload) = check then .chunk payload after else .rejected

/-- What a search through a stream gave: the payloads, the number of bytes rejected and the bytes
that still wait for more. -/
structure Found where
  payloads : List (List UInt8)
  rejected : Nat
  pending : List UInt8
deriving DecidableEq

theorem front_chunk_length {first : UInt8} {rest payload after : List UInt8}
    (h : front first rest = .chunk payload after) : after.length < (first :: rest).length := by
  unfold front at h
  split at h
  · cases h
  · cases rest with
    | nil => cases h
    | cons length body =>
      simp only at h
      cases hd : body.drop length.toNat with
      | nil => rw [hd] at h; cases h
      | cons check tail =>
        rw [hd] at h
        simp only at h
        split at h <;> cases h
        have := congrArg List.length hd
        simp only [List.length_drop, List.length_cons] at this ⊢
        omega

/-- Searches a stream from its front. -/
def search : List UInt8 → Found
  | [] => ⟨[], 0, []⟩
  | first :: rest =>
    match h : front first rest with
    | .rejected => let found := search rest; { found with rejected := found.rejected + 1 }
    | .partly => ⟨[], 0, first :: rest⟩
    | .chunk payload after =>
      have := front_chunk_length h
      let found := search after
      { found with payloads := payload :: found.payloads }
termination_by stream => stream.length
decreasing_by all_goals simp only [List.length_cons] at *; omega

structure Decoder where
  pending : List UInt8 := []
  /-- The bytes at which no chunk started, so far. A word of 64 bits, which would take 2 ^ 64 bytes to
  pass. -/
  rejected : Nat := 0
deriving DecidableEq

/-- Adds bytes to the stream, and gives every payload that is now complete. -/
def Decoder.push (d : Decoder) (bytes : List UInt8) : List (List UInt8) × Decoder :=
  let found := search (d.pending ++ bytes)
  (found.payloads, ⟨found.pending, d.rejected + found.rejected⟩)

end SensorRelay.Telemetry
