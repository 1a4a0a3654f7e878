import SensorRelay.Proofs.ByteQueue.Fifo

/-! # Dequeues into a buffer

A dequeue makes a buffer of its own, cut to the capacity, and afterwards cuts it to what was taken. A
dequeue into a buffer of the caller copies in two parts. The two take the same bytes and leave the same
queue, since no more than the capacity is ever stored, and the rest of the caller's buffer stays.
-/
namespace SensorRelay
namespace ByteQueue

variable {q : ByteQueue} {l : Fifo} {bytes buffer : List UInt8} {timeout : Timeout}

/-- The first cut does not show: both buffers reach as far into what is stored. -/
theorem Holds.dequeue_eq_map (h : q.Holds bytes) (hb : buffer.length ≠ 0) (timeout : Timeout) :
    q.dequeue buffer.length timeout = (q.dequeueInto buffer timeout).map fun result =>
      result.map fun (taken, after, left) => (after.take taken, left) := by
  have hpos : 0 < buffer.length := Nat.pos_of_ne_zero hb
  have hrequest := request_length_pos hb h.capacity_pos
  have hle := h.length_le
  have hreach : min (List.replicate (min buffer.length q.capacity.toNat) (0 : UInt8)).length
      bytes.length = min buffer.length bytes.length := by
    rw [List.length_replicate]
    omega
  rw [dequeue_eq_dequeueInto hb]
  by_cases hnil : bytes = []
  · have hempty : q.Holds [] := hnil ▸ h
    rw [hempty.dequeueInto_nil hrequest, hempty.dequeueInto_nil hpos]
  · have hlength : (bytes.take (min buffer.length bytes.length)).length =
        min buffer.length bytes.length := by
      rw [List.length_take]
      omega
    rw [h.dequeueInto_some hnil hrequest, h.dequeueInto_some hnil hpos, h.takeInto_eq, h.takeInto_eq,
      hreach]
    simp only [Option.map_some, Except.map, List.take_left' hlength]

/-- What a dequeue into a buffer takes stands in its front; the rest of it is as before. -/
theorem Holds.dequeueInto_keeps_rest (h : q.Holds bytes) {timeout : Timeout} {taken : Nat}
    {after : List UInt8} {left : ByteQueue}
    (hd : q.dequeueInto buffer timeout = some (.ok (taken, after, left))) :
    0 < taken ∧ taken ≤ buffer.length ∧ after.length = buffer.length ∧
      after.drop taken = buffer.drop taken := by
  have hb : 0 < buffer.length := by
    refine Nat.pos_of_ne_zero fun hzero => ?_
    rw [dequeueInto, dequeueIntoSeeing, if_pos (List.isEmpty_iff_length_eq_zero.mpr hzero)] at hd
    cases hd
  by_cases hnil : bytes = []
  · have hempty : q.Holds [] := hnil ▸ h
    rw [hempty.dequeueInto_nil hb] at hd
    split at hd <;> cases hd
  · have hstored : 0 < bytes.length := List.length_pos_iff.mpr hnil
    have hlength : (bytes.take (min buffer.length bytes.length)).length =
        min buffer.length bytes.length := by
      rw [List.length_take]
      omega
    rw [h.dequeueInto_some hnil hb, h.takeInto_eq] at hd
    cases hd
    refine ⟨by omega,Nat.min_le_left _ _,?_,List.drop_left' hlength⟩
    rw [List.length_append, hlength, List.length_drop]
    omega

theorem dequeueInto_of_isEmpty (hb : buffer.length = 0) (timeout : Timeout) :
    q.dequeueInto buffer timeout = some (.error .invalidParameter) := by
  rw [dequeueInto, dequeueIntoSeeing, if_pos (List.isEmpty_iff_length_eq_zero.mpr hb)]

/-! ## Queues in any state -/

theorem Implements.dequeue_eq_map (h : Implements q l) (buffer : List UInt8) (timeout : Timeout) :
    q.dequeue buffer.length timeout = (q.dequeueInto buffer timeout).map fun result =>
      result.map fun (taken, after, left) => (after.take taken, left) := by
  by_cases hb : buffer.length = 0
  · rw [dequeueInto_of_isEmpty hb, ByteQueue.dequeue, dequeueSeeing, if_pos hb]
    rfl
  cases h with
  | opened holds hopen capacity => exact holds.dequeue_eq_map hb timeout
  | closed hq hl hpos =>
    rw [dequeue_of_closed hq hpos hb, dequeueInto_of_closed hq (Nat.pos_of_ne_zero hb)]
    rfl

/-- A dequeue into a buffer is refused, takes bytes into the front of the buffer, or sleeps. -/
theorem Implements.dequeueInto_cases (h : Implements q l) (buffer : List UInt8) (timeout : Timeout) :
    (∃ f, q.dequeueInto buffer timeout = some (.error f)) ∨
      (∃ taken after left, q.dequeueInto buffer timeout = some (.ok (taken, after, left)) ∧
        0 < taken ∧ taken ≤ buffer.length ∧ after.length = buffer.length ∧
        after.drop taken = buffer.drop taken) ∨
      timeout.isEndless = true ∧ q.dequeueInto buffer timeout = none := by
  by_cases hb : buffer.length = 0
  · exact .inl ⟨_,dequeueInto_of_isEmpty hb timeout⟩
  have hpos := Nat.pos_of_ne_zero hb
  cases h with
  | closed hq hl _ => exact .inl ⟨_,dequeueInto_of_closed hq hpos timeout⟩
  | opened holds hopen capacity =>
    by_cases hnil : l.bytes = []
    · have hempty : q.Holds [] := hnil ▸ holds
      rw [hempty.dequeueInto_nil hpos]
      cases timeout.isEndless with
      | true => exact .inr (.inr ⟨rfl,rfl⟩)
      | false => exact .inl ⟨_,rfl⟩
    · obtain ⟨left,htake,-⟩ := holds.takeInto buffer
      have hd := (holds.dequeueInto_some hnil hpos timeout).trans (congrArg some htake)
      exact .inr (.inl ⟨_,_,_,hd,holds.dequeueInto_keeps_rest hd⟩)

theorem exists_implements_of_run {capacity : UInt64} {q₀ : ByteQueue} (hq : create capacity = .ok q₀)
    (calls : List Call) : ∃ l, Implements (q₀.run calls).2 l := by
  obtain ⟨hpos,hlt,rfl⟩ := create_eq_ok_iff.mp hq
  exact ⟨_,((fresh_implements hpos hlt).run calls).2⟩

/-- A dequeue and a dequeue into a buffer of the requested length leave the same queue, and fail alike,
or succeed with the dequeue's bytes in the front of the buffer, or both sleep. The rest of the buffer
stays as it was, and on failure all of it does, and so does the queue. -/
theorem dequeue_agrees_with_dequeueInto {capacity : UInt64} {q₀ : ByteQueue}
    (hq : create capacity = .ok q₀) (calls : List Call) (buffer : List UInt8) (timeout : Timeout) :
    let q := (q₀.run calls).2
    let plain := q.perform (.dequeue buffer.length timeout)
    let filling := q.perform (.dequeueInto buffer timeout)
    plain.2 = filling.2 ∧
      ((∃ f, plain.1 = .taken (some (.error f)) ∧ filling = (.filled (some (.error f)) buffer, q)) ∨
        (∃ taken after, plain.1 = .taken (some (.ok (after.take taken))) ∧
          filling.1 = .filled (some (.ok taken)) after ∧ 0 < taken ∧ taken ≤ buffer.length ∧
          after.length = buffer.length ∧ after.drop taken = buffer.drop taken) ∨
        timeout.isEndless = true ∧ plain.1 = .taken none ∧ filling = (.filled none buffer, q)) := by
  obtain ⟨l,hl⟩ := exists_implements_of_run hq calls
  intro q plain filling
  have hplain : plain = q.perform (.dequeue buffer.length timeout) := rfl
  have hfilling : filling = q.perform (.dequeueInto buffer timeout) := rfl
  rw [perform, hl.dequeue_eq_map] at hplain
  rw [perform] at hfilling
  rcases hl.dequeueInto_cases buffer timeout with
    ⟨f,hd⟩ | ⟨taken,after,left,hd,hkept⟩ | ⟨hendless,hd⟩
  · rw [hd] at hplain hfilling
    rw [hplain, hfilling]
    exact ⟨rfl,.inl ⟨f,rfl,rfl⟩⟩
  · rw [hd] at hplain hfilling
    rw [hplain, hfilling]
    exact ⟨rfl,.inr (.inl ⟨taken,after,rfl,rfl,hkept⟩)⟩
  · rw [hd] at hplain hfilling
    rw [hplain, hfilling]
    exact ⟨rfl,.inr (.inr ⟨hendless,rfl,rfl⟩)⟩

/-- Four bytes that lie round the end of the storage, and room for six. -/
theorem dequeue_agrees_with_dequeueInto_round_the_end :
    create 4 = .ok (fresh 4) ∧
      let q := ((fresh 4).run [.enqueue [1, 2, 3], .dequeue 2 .poll, .enqueue [4, 5, 6]]).2
      (q.perform (.dequeue 6 .poll)).2 = (q.perform (.dequeueInto [9, 9, 9, 9, 9, 9] .poll)).2 ∧
        (q.perform (.dequeue 6 .poll)).1 = .taken (some (.ok [3, 4, 5, 6])) ∧
        (q.perform (.dequeueInto [9, 9, 9, 9, 9, 9] .poll)).1 =
          .filled (some (.ok 4)) [3, 4, 5, 6, 9, 9] := by
  have hq : create 4 = .ok (fresh 4) := create_eq_ok (by decide) (by decide)
  obtain ⟨hleft,-⟩ := dequeue_agrees_with_dequeueInto hq
    [.enqueue [1, 2, 3], .dequeue 2 .poll, .enqueue [4, 5, 6]] [9, 9, 9, 9, 9, 9] .poll
  exact ⟨hq,hleft,rfl,rfl⟩

end ByteQueue
end SensorRelay
