import SensorRelay.Proofs.Telemetry.Search

/-! # Streams cut into pushes

A stream reaches a decoder in pushes of any size. What the decoder emits, counts and keeps depends on
the stream alone, and on nothing about the cuts.
-/
namespace SensorRelay
namespace Telemetry

namespace Decoder

/-- What a decoder emits over several pushes, and the decoder left. -/
def feed (d : Decoder) : List (List UInt8) → List (List UInt8) × Decoder
  | [] => ([], d)
  | bytes :: later =>
    let (payloads, next) := d.push bytes
    let (more, last) := next.feed later
    (payloads ++ more, last)

theorem feed_cons (d : Decoder) (bytes : List UInt8) (later : List (List UInt8)) :
    d.feed (bytes :: later) =
      ((d.push bytes).1 ++ ((d.push bytes).2.feed later).1, ((d.push bytes).2.feed later).2) := rfl

theorem push_append (d : Decoder) (bytes more : List UInt8) :
    d.push (bytes ++ more) =
      ((d.push bytes).1 ++ ((d.push bytes).2.push more).1, ((d.push bytes).2.push more).2) := by
  simp only [push]
  rw [← List.append_assoc, search_append, Nat.add_assoc]

end Decoder

/-- There is nothing left to find in what a search leaves pending. -/
theorem search_pending (stream : List UInt8) :
    search (search stream).pending = ⟨[], 0, (search stream).pending⟩ := by
  have hsplit := search_append stream []
  rw [List.append_nil, List.append_nil] at hsplit
  have hpayloads : (search (search stream).pending).payloads = [] :=
    List.self_eq_append_right.mp (congrArg Found.payloads hsplit)
  have hrejected : (search (search stream).pending).rejected = 0 :=
    Nat.left_eq_add.mp (congrArg Found.rejected hsplit)
  have hpending : (search (search stream).pending).pending = (search stream).pending :=
    (congrArg Found.pending hsplit).symm
  calc
    search (search stream).pending =
        ⟨(search (search stream).pending).payloads, (search (search stream).pending).rejected,
          (search (search stream).pending).pending⟩ := rfl
    _ = ⟨[], 0, (search stream).pending⟩ := by rw [hpayloads, hrejected, hpending]

namespace Decoder

variable {d : Decoder} {stream : List UInt8}

theorem Received.push_nil (h : d.Received stream) : d.push [] = ([], d) := by
  rw [Decoder.push, List.append_nil, h.pending, search_pending, ← h.pending]
  rfl

theorem Received.feed (h : d.Received stream) (pushes : List (List UInt8)) :
    d.feed pushes = d.push pushes.flatten := by
  induction pushes generalizing d stream with
  | nil => exact h.push_nil.symm
  | cons bytes later ih =>
    rw [feed_cons, ih (h.push bytes).1, List.flatten_cons, push_append]

theorem feed_new (pushes : List (List UInt8)) :
    Decoder.feed {} pushes =
      ((search pushes.flatten).payloads,
        ⟨(search pushes.flatten).pending, (search pushes.flatten).rejected⟩) := by
  rw [received_nil.feed, Decoder.push, List.nil_append, Nat.zero_add]

/-- A state that pushes to a new decoder can lead to. -/
def Reachable (d : Decoder) : Prop := ∃ pushes, (Decoder.feed {} pushes).2 = d

theorem Reachable.received (h : d.Reachable) : ∃ stream, d.Received stream := by
  obtain ⟨pushes,rfl⟩ := h
  refine ⟨pushes.flatten,?_⟩
  rw [feed_new]
  exact ⟨rfl,rfl⟩

/-- In every state that a decoder can reach, two pushes do what one push of their bytes does; and any
cut of a stream into pushes does what one push of the stream does. -/
theorem pushes_depend_on_stream {d : Decoder} (h : d.Reachable) :
    (∀ bytes more, d.push (bytes ++ more) =
      ((d.push bytes).1 ++ ((d.push bytes).2.push more).1,((d.push bytes).2.push more).2)) ∧
    ∀ pushes, d.feed pushes = d.push pushes.flatten := by
  obtain ⟨stream,hreceived⟩ := h.received
  exact ⟨d.push_append,hreceived.feed⟩

/-- Behind a lone sync byte the rest of the chunk may come in any pieces. -/
theorem pushes_depend_on_stream_sync :
    Reachable ⟨[0xa5],0⟩ ∧
      Decoder.feed ⟨[0xa5],0⟩ [[2, 0xa5], [], [0, 0x58, 7]] = ([[0xa5, 0]],⟨[],1⟩) := by
  have hreachable : Reachable ⟨[0xa5],0⟩ := ⟨[[0xa5]],by decide +kernel⟩
  obtain ⟨-,hfeed⟩ := pushes_depend_on_stream hreachable
  refine ⟨hreachable,(hfeed _).trans ?_⟩
  decide +kernel

end Decoder

end Telemetry
end SensorRelay
