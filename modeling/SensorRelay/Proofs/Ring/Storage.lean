import Mathlib.Data.List.Rotate
import SensorRelay.Proofs.Ring.Positions

/-! # Runs of slots as rotations of the storage

Turned so that a run comes first, the storage holds the run in its first places: the cut where a run
passes the end of the storage disappears.
-/
namespace SensorRelay
namespace Ring
variable {r : Ring}

@[simp] theorem run_start (r : Ring) (start n : UInt64) : (r.run start n).start = start := rfl

theorem run_head_toNat {start n : UInt64} (hs : start.toNat ≤ r.capacity.toNat) :
    (r.run start n).head.toNat = min n.toNat (r.capacity.toNat - start.toNat) := by
  have hmin : (min n (r.capacity - start)).toNat = min n.toNat (r.capacity - start).toNat :=
    UInt64.toNat_min _ _
  rw [run, hmin, UInt64.toNat_sub_of_le _ _ (UInt64.le_iff_toNat_le.mpr hs)]

theorem run_tail_toNat {start n : UInt64} (hs : start.toNat ≤ r.capacity.toNat) :
    (r.run start n).tail.toNat = n.toNat - (r.capacity.toNat - start.toNat) := by
  have hhead := run_head_toNat (r := r) (n := n) hs
  have hle : (r.run start n).head.toNat ≤ n.toNat := hhead ▸ Nat.min_le_left _ _
  change (n - (r.run start n).head).toNat = _
  rw [UInt64.toNat_sub_of_le _ _ (UInt64.le_iff_toNat_le.mpr hle), hhead]
  omega

/-- A run of at most the whole storage is read from its two parts in order. -/
theorem run_read {storage : List UInt8} (hlen : storage.length = r.capacity.toNat)
    {start n : UInt64} (hs : start.toNat ≤ r.capacity.toNat) (hn : n.toNat ≤ r.capacity.toNat) :
    (r.run start n).read storage = (storage.rotate start.toNat).take n.toNat := by
  have hdrop : (storage.drop start.toNat).length = r.capacity.toNat - start.toNat := by
    rw [List.length_drop, hlen]
  rw [Run.read, run_head_toNat hs, run_tail_toNat hs, List.rotate_eq_drop_append_take (hlen ▸ hs),
    List.take_append, hdrop, List.take_take]
  congr 1
  · change (storage.drop start.toNat).take _ = _
    rw [← hdrop, List.take_eq_take_iff]
    omega
  · rw [Nat.min_eq_left (by omega)]

end Ring

namespace Run

theorem write_eq (run : Run) (storage bytes : List UInt8) :
    run.write storage bytes =
      let first := storage.take run.start.toNat ++ bytes.take run.head.toNat ++
        storage.drop (run.start.toNat + (bytes.take run.head.toNat).length)
      first.take 0 ++ bytes.drop run.head.toNat ++ first.drop (0 + (bytes.drop run.head.toNat).length) :=
  rfl

end Run

namespace Ring
variable {r : Ring}

theorem run_write_straight {storage bytes : List UInt8} {start n : UInt64}
    (hs : start.toNat ≤ r.capacity.toNat) (hn : n.toNat = bytes.length)
    (hfit : bytes.length ≤ r.capacity.toNat - start.toNat) :
    (r.run start n).write storage bytes =
      storage.take start.toNat ++ (bytes ++ storage.drop (start.toNat + bytes.length)) := by
  rw [Run.write_eq, run_head_toNat hs, hn, Nat.min_eq_left hfit, List.take_length, List.drop_length]
  simp

/-- A write that passes the end of the storage goes on at its front. -/
theorem run_write_wrapped {storage bytes : List UInt8} (hlen : storage.length = r.capacity.toNat)
    {start n : UInt64} (hs : start.toNat ≤ r.capacity.toNat) (hn : n.toNat = bytes.length)
    (hle : bytes.length ≤ r.capacity.toNat)
    (hover : r.capacity.toNat - start.toNat < bytes.length) :
    (r.run start n).write storage bytes =
      bytes.drop (r.capacity.toNat - start.toNat) ++
        (storage.take start.toNat).drop (bytes.length - (r.capacity.toNat - start.toNat)) ++
        bytes.take (r.capacity.toNat - start.toNat) := by
  have hhead : (bytes.take (r.capacity.toNat - start.toNat)).length = r.capacity.toNat - start.toNat := by
    rw [List.length_take]
    exact Nat.min_eq_left hover.le
  have hend : storage.drop (start.toNat + (r.capacity.toNat - start.toNat)) = [] :=
    List.drop_eq_nil_of_le (by omega)
  have hstart : (storage.take start.toNat).length = start.toNat := by
    rw [List.length_take, hlen]
    exact Nat.min_eq_left hs
  rw [Run.write_eq, run_head_toNat hs, hn, Nat.min_eq_right hover.le]
  simp only [run_start, hhead, hend, List.append_nil, List.take_zero, List.nil_append,
    List.length_drop, Nat.zero_add]
  rw [List.drop_append_of_le_length (by omega), List.append_assoc]

/-- Turned to its start, a written run holds the bytes, and what follows is as before. -/
theorem run_write_rotate {storage bytes : List UInt8} (hlen : storage.length = r.capacity.toNat)
    {start n : UInt64} (hs : start.toNat ≤ r.capacity.toNat) (hn : n.toNat = bytes.length)
    (hle : bytes.length ≤ r.capacity.toNat) :
    ((r.run start n).write storage bytes).rotate start.toNat =
      bytes ++ (storage.rotate start.toNat).drop bytes.length := by
  have hstart : (storage.take start.toNat).length = start.toNat := by
    rw [List.length_take, hlen]
    exact Nat.min_eq_left hs
  have hrest : (storage.drop start.toNat).length = r.capacity.toNat - start.toNat := by
    rw [List.length_drop, hlen]
  rw [List.rotate_eq_drop_append_take (l := storage) (hlen ▸ hs)]
  by_cases hfit : bytes.length ≤ r.capacity.toNat - start.toNat
  · have hturn := List.rotate_append_length_eq (storage.take start.toNat)
      (bytes ++ storage.drop (start.toNat + bytes.length))
    rw [hstart] at hturn
    rw [run_write_straight hs hn hfit, hturn, List.drop_append_of_le_length (by omega), List.drop_drop,
      List.append_assoc]
  · have hover := Nat.lt_of_not_le hfit
    have hfront : (bytes.drop (r.capacity.toNat - start.toNat) ++
        (storage.take start.toNat).drop (bytes.length - (r.capacity.toNat - start.toNat))).length =
        start.toNat := by
      rw [List.length_append, List.length_drop, List.length_drop, hstart]
      omega
    have hturn := List.rotate_append_length_eq (bytes.drop (r.capacity.toNat - start.toNat) ++
        (storage.take start.toNat).drop (bytes.length - (r.capacity.toNat - start.toNat)))
      (bytes.take (r.capacity.toNat - start.toNat))
    rw [hfront] at hturn
    have hpast : (storage.drop start.toNat).drop bytes.length = [] :=
      List.drop_eq_nil_of_le (by omega)
    rw [run_write_wrapped hlen hs hn hle hover, hturn, List.drop_append, hrest, hpast,
      List.nil_append, ← List.append_assoc, List.take_append_drop]

theorem run_write_length {storage bytes : List UInt8} (hlen : storage.length = r.capacity.toNat)
    {start n : UInt64} (hs : start.toNat ≤ r.capacity.toNat) (hn : n.toNat = bytes.length)
    (hle : bytes.length ≤ r.capacity.toNat) :
    ((r.run start n).write storage bytes).length = r.capacity.toNat := by
  have hturn := congrArg List.length (run_write_rotate hlen hs hn hle)
  rw [List.length_rotate, List.length_append, List.length_drop, List.length_rotate, hlen] at hturn
  omega

end Ring
end SensorRelay
