import SensorRelay.Proofs.Machine.Outcome
import SensorRelay.Proofs.Ring.Storage

/-! # Steps that can go wrong

Words wrap and a list has no slot out of its range, so that an operation says nothing of an index or a
sum that a machine would refuse. A traced operation computes the same value from steps that are
written down with their operands. It is safe if every one of its steps is sound.
-/
namespace SensorRelay
namespace Traced
/-! ## Bytes -/

/-- The `n` bytes from `first` on. -/
def slice (bytes : List UInt8) (first n : UInt64) : Traced (List UInt8) :=
  ⟨(bytes.drop first.toNat).take n.toNat,
    [.sum first.toNat n.toNat, .slice first.toNat (first.toNat + n.toNat) bytes.length]⟩

/-- The bytes from `first` on. -/
def sliceFrom (bytes : List UInt8) (first : Nat) : Traced (List UInt8) :=
  ⟨bytes.drop first,[.slice first bytes.length bytes.length]⟩

/-- The copy of a part to `n` of `size` places, from `first` on. -/
def copy (size : Nat) (first n : UInt64) (part : List UInt8) : Traced Unit :=
  ⟨(),[.sum first.toNat n.toNat, .slice first.toNat (first.toNat + n.toNat) size,
    .copy n.toNat part.length]⟩

/-- `storage` with a part in its `n` places from `first` on. -/
def paste (storage : List UInt8) (first n : UInt64) (part : List UInt8) : Traced (List UInt8) := do
  copy storage.length first n part
  return storage.take first.toNat ++ part ++ storage.drop (first.toNat + part.length)

theorem slice_safe {bytes : List UInt8} {first n : UInt64} (hsum : first.toNat + n.toNat < 2 ^ 64)
    (hend : first.toNat + n.toNat ≤ bytes.length) : (slice bytes first n).Safe := by
  intro step hstep
  rcases List.mem_pair.mp hstep with rfl | rfl
  · exact hsum
  · exact ⟨Nat.le_add_right _ _,hend⟩

theorem sliceFrom_safe {bytes : List UInt8} {first : Nat} (h : first ≤ bytes.length) :
    (sliceFrom bytes first).Safe :=
  .singleton ⟨h,Nat.le_refl _⟩

theorem copy_safe {size : Nat} {first n : UInt64} {part : List UInt8}
    (hsum : first.toNat + n.toNat < 2 ^ 64) (hend : first.toNat + n.toNat ≤ size)
    (hpart : part.length = n.toNat) : (copy size first n part).Safe := by
  refine List.forall_mem_cons.mpr ⟨hsum,List.forall_mem_cons.mpr ⟨⟨Nat.le_add_right _ _,hend⟩,?_⟩⟩
  exact List.forall_mem_singleton.mpr hpart.symm

end Traced

/-! ## Operations of a ring -/

namespace Ring
open Traced
variable {r : Ring}

def runTraced (r : Ring) (start n : UInt64) : Traced Run := do
  let room ← sub r.capacity start
  let head := min n room
  let tail ← sub n head
  return ⟨start,head,tail⟩

@[simp] theorem slotAtTraced_value (r : Ring) (k : UInt64) : (r.slotAtTraced k).value = r.slotAt k := rfl

@[simp] theorem oldestTraced_value (r : Ring) : r.oldestTraced.value = r.oldest := rfl

@[simp] theorem advanceTraced_value (r : Ring) (n : UInt64) :
    (r.advanceTraced n).value = r.advance n := rfl

@[simp] theorem retireTraced_value (r : Ring) (n : UInt64) : (r.retireTraced n).value = r.retire n := rfl

@[simp] theorem runTraced_value (r : Ring) (start n : UInt64) :
    (r.runTraced start n).value = r.run start n := rfl

theorem WellFormed.slotAtTraced_safe (h : r.WellFormed) {k : UInt64} (hk : k.toNat ≤ r.count.toNat)
    (hlt : k.toNat < r.capacity.toNat) : (r.slotAtTraced k).Safe := by
  exact .bind (.singleton hlt) (.bind (.singleton h.next_add_capacity_lt)
    (.bind (.singleton h.count_le_next_add_capacity)
      (.bind (.singleton (h.first_add_lt hk)) (.singleton h.capacity_pos))))

theorem WellFormed.oldestTraced_safe (h : r.WellFormed) : r.oldestTraced.Safe :=
  h.slotAtTraced_safe (Nat.zero_le _) h.capacity_pos

theorem WellFormed.advanceTraced_safe (h : r.WellFormed) {n : UInt64}
    (hn : n.toNat ≤ r.capacity.toNat) : (r.advanceTraced n).Safe := by
  obtain ⟨hpos,hmax,hnext,hcount⟩ := h
  refine .bind (.singleton ?_) (.bind (.singleton hpos) (.bind (.singleton ?_) (.pure _)))
  · change r.next.toNat + n.toNat < 2 ^ 64
    omega
  · change r.count.toNat + n.toNat < 2 ^ 64
    omega

theorem retireTraced_safe {n : UInt64} (hn : n.toNat ≤ r.count.toNat) : (r.retireTraced n).Safe := by
  have hmin : (min n r.count).toNat ≤ r.count.toNat := by
    rw [UInt64.toNat_min]
    exact Nat.min_le_right _ _
  exact .bind (.singleton hn) (.bind (.singleton hmin) (.pure _))

theorem runTraced_safe {start n : UInt64} (hs : start.toNat ≤ r.capacity.toNat) :
    (r.runTraced start n).Safe := by
  have hhead : (r.run start n).head.toNat ≤ n.toNat := by
    rw [run_head_toNat hs]
    exact Nat.min_le_left _ _
  exact .bind (.singleton hs) (.bind (.singleton hhead) (.pure _))

end Ring

/-! ## Runs of slots -/

namespace Run
open Traced

/-- The bytes of the run, with the copies that put them into `buffer`. -/
def readTraced (run : Run) (storage buffer : List UInt8) : Traced (List UInt8) := do
  let front ← slice storage run.start run.head
  copy buffer.length 0 run.head front
  let back ← slice storage 0 run.tail
  copy buffer.length run.head run.tail back
  return front ++ back

def writeTraced (run : Run) (storage bytes : List UInt8) : Traced (List UInt8) := do
  let front ← slice bytes 0 run.head
  let storage ← paste storage run.start run.head front
  let back ← sliceFrom bytes run.head.toNat
  paste storage 0 run.tail back

@[simp] theorem readTraced_value (run : Run) (storage buffer : List UInt8) :
    (run.readTraced storage buffer).value = run.read storage := rfl

@[simp] theorem writeTraced_value (run : Run) (storage bytes : List UInt8) :
    (run.writeTraced storage bytes).value = run.write storage bytes := rfl

variable {run : Run} {storage bytes buffer : List UInt8}

/-- Both parts of a run lie in the storage. -/
structure Inside (run : Run) (storage : List UInt8) : Prop where
  size : storage.length < 2 ^ 63
  head : run.start.toNat + run.head.toNat ≤ storage.length
  tail : run.tail.toNat ≤ storage.length

theorem Inside.readTraced_safe (h : run.Inside storage)
    (hbuffer : run.head.toNat + run.tail.toNat ≤ buffer.length) :
    (run.readTraced storage buffer).Safe := by
  obtain ⟨hsize,hhead,htail⟩ := h
  have hzero : (0 : UInt64).toNat = 0 := rfl
  refine .bind (slice_safe (by omega) hhead) (.bind (copy_safe (by omega) (by omega) ?_)
    (.bind (slice_safe (by omega) (by omega)) (.bind (copy_safe (by omega) hbuffer ?_) (.pure _))))
  · change ((storage.drop run.start.toNat).take run.head.toNat).length = _
    rw [List.length_take, List.length_drop]
    omega
  · change (storage.take run.tail.toNat).length = _
    rw [List.length_take]
    omega

theorem Inside.writeTraced_safe (h : run.Inside storage)
    (hbytes : run.head.toNat + run.tail.toNat = bytes.length) :
    (run.writeTraced storage bytes).Safe := by
  obtain ⟨hsize,hhead,htail⟩ := h
  have hzero : (0 : UInt64).toNat = 0 := rfl
  have hfront : (bytes.take run.head.toNat).length = run.head.toNat := by
    rw [List.length_take]
    omega
  refine .bind (slice_safe (by omega) (by omega)) (.bind (.bind (copy_safe (by omega) hhead hfront)
    (.pure _)) (.bind (sliceFrom_safe (by omega)) (.bind (copy_safe (by omega) ?_ ?_) (.pure _))))
  · change 0 + run.tail.toNat ≤ (storage.take run.start.toNat ++ bytes.take run.head.toNat ++
      storage.drop (run.start.toNat + (bytes.take run.head.toNat).length)).length
    rw [List.length_append, List.length_append, List.length_take, List.length_drop, hfront]
    omega
  · change (bytes.drop run.head.toNat).length = _
    rw [List.length_drop]
    omega

end Run

/-- A run of at most the whole storage is cut so that it lies inside. -/
theorem Ring.run_inside {r : Ring} (h : r.WellFormed) {storage : List UInt8}
    (hlen : storage.length = r.capacity.toNat) {start n : UInt64}
    (hs : start.toNat ≤ r.capacity.toNat) (hn : n.toNat ≤ r.capacity.toNat) :
    (r.run start n).Inside storage ∧
      (r.run start n).head.toNat + (r.run start n).tail.toNat = n.toNat := by
  have hmax := h.capacity_lt
  have hhead := run_head_toNat (r := r) (n := n) hs
  have htail := run_tail_toNat (r := r) (n := n) hs
  refine ⟨⟨by omega,?_,by omega⟩,by omega⟩
  rw [run_start]
  omega

end SensorRelay
