import Mathlib.Logic.Function.Iterate
import SensorRelay.Proofs.Telemetry.Feed
import SensorRelay.Proofs.Telemetry.Front

/-! # The division of a stream

A stream divides into chunks, the gaps around them and a remainder. In the greedy division no byte of
a gap could have begun a chunk, nor a chunk that the end of the stream breaks off, so every chunk is
taken at the leftmost place. There is exactly one such division of a stream, and it is the one that a
search finds.
-/
namespace SensorRelay
namespace Telemetry

/-- A chunk, and the bytes between it and the next one. -/
structure Block where
  payload : List UInt8
  gap : List UInt8

def Block.bytes (b : Block) : List UInt8 := encode b.payload ++ b.gap

/-- The gap in front of the first chunk, the chunks with their gaps, and what is left at the end. -/
structure Division where
  lead : List UInt8
  blocks : List Block
  remainder : List UInt8

namespace Division

def laid (blocks : List Block) (remainder : List UInt8) : List UInt8 :=
  blocks.flatMap Block.bytes ++ remainder

def bytes (v : Division) : List UInt8 := v.lead ++ laid v.blocks v.remainder

def payloads (v : Division) : List (List UInt8) := v.blocks.map Block.payload

/-- The number of bytes in the gaps. -/
def skipped (v : Division) : Nat := v.lead.length + (v.blocks.flatMap Block.gap).length

/-- With `behind` following, no chunk begins at a byte of the gap, whole or broken off. -/
def Barren (gap behind : List UInt8) : Prop :=
  ∀ tail, tail ≠ [] → tail <:+ gap →
    ¬ BeginsWhole (tail ++ behind) ∧ ¬ BrokenOff (tail ++ behind)

/-- A division of the stream whose gaps hold no beginning of a chunk. Payloads are given as far as a
chunk can carry them. -/
structure Greedy (v : Division) (stream : List UInt8) : Prop where
  bytes : v.bytes = stream
  short : ∀ b ∈ v.blocks, b.payload.length ≤ maxPayload
  lead : Barren v.lead (laid v.blocks v.remainder)
  gaps : ∀ b later, b :: later <:+ v.blocks → Barren b.gap (laid later v.remainder)
  remainder : v.remainder = [] ∨ BrokenOff v.remainder

/-! ## Divisions by their first part -/

def ofRemainder (remainder : List UInt8) : Division := ⟨[], [], remainder⟩

def skip (first : UInt8) (v : Division) : Division := { v with lead := first :: v.lead }

def chunk (payload : List UInt8) (v : Division) : Division :=
  ⟨[], ⟨payload, v.lead⟩ :: v.blocks, v.remainder⟩

variable {v : Division} {first : UInt8} {rest payload after stream gap behind remainder : List UInt8}

@[simp] theorem chunk_bytes (payload : List UInt8) (v : Division) :
    (v.chunk payload).bytes = encode payload ++ v.bytes := by
  simp [chunk, bytes, laid, Block.bytes]

@[simp] theorem skip_skipped (first : UInt8) (v : Division) :
    (v.skip first).skipped = v.skipped + 1 := Nat.add_right_comm _ _ _

@[simp] theorem chunk_skipped (payload : List UInt8) (v : Division) :
    (v.chunk payload).skipped = v.skipped := by
  simp [chunk, skipped]

theorem barren_nil (behind : List UInt8) : Barren [] behind :=
  fun _ hne hsuffix => absurd (List.suffix_nil.mp hsuffix) hne

theorem barren_cons_iff :
    Barren (first :: gap) behind ↔
      front first (gap ++ behind) = .rejected ∧ Barren gap behind := by
  rw [front_rejected_iff]
  constructor
  · intro h
    exact ⟨h (first :: gap) (List.cons_ne_nil _ _) (List.suffix_refl _),
      fun tail hne hsuffix => h tail hne (hsuffix.trans (List.suffix_cons _ _))⟩
  · rintro ⟨hfirst,hgap⟩ tail hne hsuffix
    rcases List.suffix_cons_iff.mp hsuffix with rfl | hsuffix
    · exact hfirst
    · exact hgap tail hne hsuffix

theorem greedy_ofRemainder_iff :
    (ofRemainder remainder).Greedy stream ↔
      remainder = stream ∧ (remainder = [] ∨ BrokenOff remainder) := by
  constructor
  · intro h
    exact ⟨h.bytes,h.remainder⟩
  · rintro ⟨hbytes,hremainder⟩
    exact {
      bytes := hbytes
      short := fun _ hb => absurd hb List.not_mem_nil
      lead := barren_nil _
      gaps := fun _ _ hsuffix => absurd (List.suffix_nil.mp hsuffix) (List.cons_ne_nil _ _)
      remainder := hremainder }

theorem greedy_skip_iff :
    (v.skip first).Greedy (first :: rest) ↔ front first rest = .rejected ∧ v.Greedy rest := by
  constructor
  · intro h
    obtain ⟨hfront,hlead⟩ := barren_cons_iff.mp h.lead
    have hbytes : v.bytes = rest := (List.cons.inj h.bytes).2
    refine ⟨?_,hbytes,h.short,hlead,h.gaps,h.remainder⟩
    rw [← hbytes]
    exact hfront
  · rintro ⟨hfront,h⟩
    refine ⟨congrArg _ h.bytes,h.short,barren_cons_iff.mpr ⟨?_,h.lead⟩,h.gaps,h.remainder⟩
    rw [← h.bytes] at hfront
    exact hfront

theorem greedy_chunk_iff :
    (v.chunk payload).Greedy (encode payload ++ after) ↔
      payload.length ≤ maxPayload ∧ v.Greedy after := by
  constructor
  · intro h
    have hbytes := h.bytes
    rw [chunk_bytes, List.append_cancel_left_eq] at hbytes
    have hshort := List.forall_mem_cons.mp h.short
    exact ⟨hshort.1,hbytes,hshort.2,h.gaps _ _ (List.suffix_refl _),
      fun b later hsuffix => h.gaps b later (hsuffix.trans (List.suffix_cons _ _)),h.remainder⟩
  · rintro ⟨hpayload,h⟩
    refine ⟨?_,List.forall_mem_cons.mpr ⟨hpayload,h.short⟩,barren_nil _,?_,h.remainder⟩
    · rw [chunk_bytes, h.bytes]
    · intro b later hsuffix
      rcases List.suffix_cons_iff.mp hsuffix with heq | hsuffix
      · cases heq
        exact h.lead
      · exact h.gaps b later hsuffix

/-- The front decides how a greedy division begins. -/
theorem Greedy.begins (h : v.Greedy (first :: rest)) :
    (front first rest = .rejected ∧ ∃ u : Division, v = u.skip first ∧ u.Greedy rest) ∨
    (front first rest = .partly ∧ v = ofRemainder (first :: rest)) ∨
    ∃ payload after, front first rest = .chunk payload after ∧
      ∃ u : Division, v = u.chunk payload ∧ u.Greedy after := by
  obtain ⟨lead,blocks,remainder⟩ := v
  cases lead with
  | cons byte lead =>
    have hbyte : byte = first := (List.cons.inj h.bytes).1
    subst hbyte
    obtain ⟨hfront,hrest⟩ := greedy_skip_iff (v := ⟨lead, blocks, remainder⟩).mp h
    exact .inl ⟨hfront,_,rfl,hrest⟩
  | nil =>
    cases blocks with
    | nil =>
      obtain ⟨hbytes,hremainder⟩ := greedy_ofRemainder_iff.mp h
      subst hbytes
      have hbroken : BrokenOff (first :: rest) := hremainder.resolve_left (List.cons_ne_nil _ _)
      exact .inr (.inl ⟨brokenOff_iff.mp hbroken,rfl⟩)
    | cons block blocks =>
      have hbytes : encode block.payload ++ (Division.mk block.gap blocks remainder).bytes =
          first :: rest := (chunk_bytes _ _).symm.trans h.bytes
      rw [← hbytes] at h
      obtain ⟨hpayload,hafter⟩ :=
        greedy_chunk_iff (v := Division.mk block.gap blocks remainder).mp h
      exact .inr (.inr ⟨block.payload,_,front_encode hpayload hbytes.symm,_,rfl,hafter⟩)

theorem Greedy.of_nil (h : v.Greedy []) : v = ofRemainder [] := by
  obtain ⟨lead,blocks,remainder⟩ := v
  obtain ⟨rfl,hlaid⟩ := List.append_eq_nil_iff.mp h.bytes
  obtain ⟨hblocks,rfl⟩ := List.append_eq_nil_iff.mp hlaid
  cases blocks with
  | nil => rfl
  | cons block blocks =>
    obtain ⟨hblock,-⟩ := List.append_eq_nil_iff.mp hblocks
    exact absurd (List.append_eq_nil_iff.mp hblock).1 (encode_ne_nil _)

/-! ## The division that a search finds -/

theorem exists_greedy (stream : List UInt8) :
    ∃ v : Division, v.Greedy stream ∧ search stream = ⟨v.payloads, v.skipped, v.remainder⟩ ∧
      ∀ w : Division, w.Greedy stream → w = v := by
  induction hn : stream.length using Nat.strongRecOn generalizing stream with
  | _ n ih =>
    cases stream with
    | nil =>
      refine ⟨ofRemainder [],greedy_ofRemainder_iff.mpr ⟨rfl,.inl rfl⟩,?_,fun w hw => hw.of_nil⟩
      rw [search]
      rfl
    | cons first rest =>
      rw [List.length_cons] at hn
      cases hfront : front first rest with
      | rejected =>
        obtain ⟨v,hv,hsearch,hunique⟩ := ih rest.length (by omega) rest rfl
        refine ⟨v.skip first,greedy_skip_iff.mpr ⟨hfront,hv⟩,?_,?_⟩
        · rw [search_of_rejected hfront, hsearch, skip_skipped]
          rfl
        · intro w hw
          rcases hw.begins with ⟨-,u,rfl,hu⟩ | ⟨hpartly,-⟩ | ⟨_,_,hchunk,-⟩
          · rw [hunique u hu]
          · cases hfront.symm.trans hpartly
          · cases hfront.symm.trans hchunk
      | partly =>
        refine ⟨ofRemainder (first :: rest),
          greedy_ofRemainder_iff.mpr ⟨rfl,.inr (brokenOff_iff.mpr hfront)⟩,?_,?_⟩
        · rw [search_of_partly hfront]
          rfl
        · intro w hw
          rcases hw.begins with ⟨hrejected,-⟩ | ⟨-,rfl⟩ | ⟨_,_,hchunk,-⟩
          · cases hfront.symm.trans hrejected
          · rfl
          · cases hfront.symm.trans hchunk
      | chunk payload after =>
        have hlen := front_chunk_length hfront
        rw [List.length_cons] at hlen
        obtain ⟨hpayload,hbytes⟩ := front_chunk hfront
        obtain ⟨v,hv,hsearch,hunique⟩ := ih after.length (by omega) after rfl
        refine ⟨v.chunk payload,hbytes ▸ greedy_chunk_iff.mpr ⟨hpayload,hv⟩,?_,?_⟩
        · rw [search_of_chunk hfront, hsearch, chunk_skipped]
          rfl
        · intro w hw
          rcases hw.begins with ⟨hrejected,-⟩ | ⟨hpartly,-⟩ | ⟨_,_,hchunk,u,rfl,hu⟩
          · cases hfront.symm.trans hrejected
          · cases hfront.symm.trans hpartly
          · cases hfront.symm.trans hchunk
            rw [hunique u hu]

end Division

/-! ## The turns of a search -/

/-- One turn of a search: the stream that is left, and none where the search ends. -/
def turn : List UInt8 → Option (List UInt8)
  | [] => none
  | first :: rest =>
    match front first rest with
    | .rejected => some rest
    | .partly => none
    | .chunk _ after => some after

/-- A search ends after one turn a byte at most, at the bytes that it leaves pending. -/
theorem exists_turns (stream : List UInt8) :
    ∃ n ≤ stream.length, (Option.bind · turn)^[n] (some stream) = some (search stream).pending ∧
      turn (search stream).pending = none := by
  induction hn : stream.length using Nat.strongRecOn generalizing stream with
  | _ n ih =>
    cases stream with
    | nil =>
      rw [search]
      exact ⟨0,Nat.zero_le _,rfl,rfl⟩
    | cons first rest =>
      rw [List.length_cons] at hn
      cases hfront : front first rest with
      | rejected =>
        obtain ⟨k,hk,hturns,hend⟩ := ih rest.length (by omega) rest rfl
        rw [search_of_rejected hfront]
        refine ⟨k + 1,by omega,?_,hend⟩
        rw [Function.iterate_succ_apply, Option.bind_some, turn, hfront]
        exact hturns
      | partly =>
        rw [search_of_partly hfront]
        refine ⟨0,Nat.zero_le _,rfl,?_⟩
        rw [turn, hfront]
      | chunk payload after =>
        have hlen := front_chunk_length hfront
        rw [List.length_cons] at hlen
        obtain ⟨k,hk,hturns,hend⟩ := ih after.length (by omega) after rfl
        rw [search_of_chunk hfront]
        refine ⟨k + 1,by omega,?_,hend⟩
        rw [Function.iterate_succ_apply, Option.bind_some, turn, hfront]
        exact hturns

/-- Of any stream, in any pushes, a new decoder has emitted the chunks of the one greedy division,
rejected the bytes of its gaps and kept its remainder, which is shorter than the longest chunk. Every
further push ends, after one turn at most for each byte at hand. -/
theorem division_of_decoder {pushes emitted : List (List UInt8)} {d : Decoder}
    (h : Decoder.feed {} pushes = (emitted,d)) :
    (∃ v : Division, v.Greedy pushes.flatten ∧
      v.payloads = emitted ∧ v.skipped = d.rejected ∧ v.remainder = d.pending ∧
      ∀ w : Division, w.Greedy pushes.flatten → w = v) ∧
    (d.pending = [] ∨ BrokenOff d.pending ∧ d.pending.head? = some sync) ∧ d.pending.length ≤ 257 ∧
    ∀ bytes, ∃ n ≤ (d.pending ++ bytes).length,
      (Option.bind · turn)^[n] (some (d.pending ++ bytes)) = some (d.push bytes).2.pending ∧
      turn (d.push bytes).2.pending = none := by
  obtain ⟨v,hv,hsearch,hunique⟩ := Division.exists_greedy pushes.flatten
  rw [Decoder.feed_new, hsearch] at h
  cases h
  refine ⟨⟨v,hv,rfl,rfl,rfl,hunique⟩,?_,?_,fun bytes => exists_turns _⟩
  · exact hv.remainder.imp_right fun hbroken => ⟨hbroken,hbroken.head⟩
  · rcases hv.remainder with hnil | hbroken
    · rw [hnil]
      exact Nat.zero_le _
    · exact hbroken.length_le

/-- A chunk inside what looked like one, and a beginning at the end. -/
theorem division_of_decoder_false_start :
    Decoder.feed {} [[0xa5, 1, 0xa5], [0, 0, 0xa5, 2]] = ([[]],⟨[0xa5, 2],2⟩) ∧
      ∃ v : Division, v.Greedy [0xa5, 1, 0xa5, 0, 0, 0xa5, 2] ∧ v.payloads = [[]] ∧ v.skipped = 2 ∧
        v.remainder = [0xa5, 2] := by
  have h : Decoder.feed {} [[0xa5, 1, 0xa5], [0, 0, 0xa5, 2]] = ([[]],⟨[0xa5, 2],2⟩) := by
    decide +kernel
  obtain ⟨⟨v,hv,hpayloads,hskipped,hremainder,-⟩,-⟩ := division_of_decoder h
  exact ⟨h,v,hv,hpayloads,hskipped,hremainder⟩

end Telemetry
end SensorRelay
