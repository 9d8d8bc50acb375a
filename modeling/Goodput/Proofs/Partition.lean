import Mathlib
import Goodput.Split.Partition
/-!
# The pieces of a transfer

`piece total k i` is the `i`-th of the `k` pieces that a transfer of `total` bytes is cut into. Each starts
where the one before ends, the last ends where the transfer ends, and so the lengths add up to the whole.
None is empty unless the transfer is, and one of them is the whole transfer only if it is the only one.
-/

namespace Goodput

/-! ## How many pieces -/

theorem partitionCount_pos (total count : Nat) : 0 < partitionCount total count := by
  unfold partitionCount; omega

theorem partitionCount_le (total count : Nat) : partitionCount total count ≤ max total 1 := by
  unfold partitionCount; omega

namespace Partition

/-- The `i`-th of `k` pieces of `total` bytes. -/
def piece (total k i : Nat) : Partition where
  parent := total
  index := i
  count := k
  start := total / k * i
  len := if i + 1 = k then total - total / k * i else total / k

end Partition

open Goodput.Partition

theorem partition_eq (total count : Nat) :
    partition total count =
      (List.range (partitionCount total count)).map (piece total (partitionCount total count)) := rfl

@[simp] theorem length_partition (total count : Nat) :
    (partition total count).length = partitionCount total count := by
  simp [partition_eq]

theorem mem_partition {total count : Nat} {p : Partition} :
    p ∈ partition total count ↔
      ∃ i < partitionCount total count, p = piece total (partitionCount total count) i := by
  simp [partition_eq, eq_comm]

/-! ## One piece -/

namespace Partition

theorem piece_start_le {total k i : Nat} (h : i ≤ k) : (piece total k i).start ≤ total :=
  calc total / k * i ≤ total / k * k := Nat.mul_le_mul_left _ h
    _ ≤ total := Nat.div_mul_le_self total k

theorem piece_len_inner {total k i : Nat} (h : i + 1 < k) : (piece total k i).len = total / k := by
  simp only [piece, if_neg (Nat.ne_of_lt h)]

/-- The last piece takes the remainder. -/
theorem piece_len_last (total j : Nat) :
    (piece total (j + 1) j).len = total / (j + 1) + total % (j + 1) := by
  have h := Nat.div_add_mod' total (j + 1)
  rw [Nat.mul_add, Nat.mul_one] at h
  simp only [piece, if_true]
  generalize total / (j + 1) = q, total % (j + 1) = r at h ⊢
  omega

/-- A piece ends where the next one starts. -/
theorem piece_end_inner {total k i : Nat} (h : i + 1 < k) :
    (piece total k i).start + (piece total k i).len = (piece total k (i + 1)).start := by
  rw [piece_len_inner h]
  simp only [piece, Nat.mul_add, Nat.mul_one]

/-- The last piece ends where the transfer ends. -/
theorem piece_end_last (total j : Nat) :
    (piece total (j + 1) j).start + (piece total (j + 1) j).len = total := by
  have h : (piece total (j + 1) j).start ≤ total := piece_start_le (Nat.le_add_right j 1)
  simp only [piece, if_true] at h ⊢
  omega

theorem piece_end_le {total k i : Nat} (h : i < k) :
    (piece total k i).start + (piece total k i).len ≤ total := by
  rcases Nat.lt_or_eq_of_le (Nat.succ_le_of_lt h) with hi | rfl
  · rw [piece_end_inner hi]
    exact piece_start_le (Nat.le_of_lt hi)
  · exact Nat.le_of_eq (piece_end_last total i)

theorem piece_len_pos {total k i : Nat} (h : i < k) (hk : k ≤ total) : 0 < (piece total k i).len := by
  have hbase : 0 < total / k := Nat.div_pos hk (by omega)
  rcases Nat.lt_or_eq_of_le (Nat.succ_le_of_lt h) with hi | rfl
  · rwa [piece_len_inner hi]
  · rw [piece_len_last]
    exact Nat.lt_of_lt_of_le hbase (Nat.le_add_right _ _)

/-- Of several pieces that are not empty none is the whole. -/
theorem piece_not_whole {total k i : Nat} (h : i < k) (hk : k ≤ total) (h2 : 2 ≤ k) :
    (piece total k i).isWhole = false := by
  have hbase : 0 < total / k := Nat.div_pos hk (by omega)
  have hlt : total / k < total := Nat.div_lt_self (by omega) h2
  rcases Nat.eq_zero_or_pos i with rfl | hi
  · have hlen : (piece total k 0).len = total / k := piece_len_inner (by omega)
    have hne : total / k ≠ total := Nat.ne_of_lt hlt
    rw [isWhole, hlen]
    simp [piece, hne]
  · have hstart : 0 < (piece total k i).start := Nat.mul_pos hbase hi
    simp [isWhole, Nat.ne_of_gt hstart]

end Partition

/-! ## All pieces -/

theorem sum_piece_lens (total j : Nat) :
    ((List.range (j + 1)).map fun i => (piece total (j + 1) i).len).sum = total := by
  have hinner : (List.range j).map (fun i => (piece total (j + 1) i).len) =
      List.replicate j (total / (j + 1)) := by
    rw [List.eq_replicate_iff]
    refine ⟨by simp, ?_⟩
    intro n hn
    obtain ⟨i, hi, rfl⟩ := List.mem_map.1 hn
    exact piece_len_inner (by rw [List.mem_range] at hi; omega)
  have hlast := piece_end_last total j
  rw [List.range_succ, List.map_append, List.sum_append, hinner, List.sum_replicate_nat]
  simp only [List.map_cons, List.map_nil, List.sum_cons, List.sum_nil, Nat.add_zero]
  rw [Nat.mul_comm]
  exact hlast

/-- The lengths of the pieces add up to the transfer. -/
theorem sum_lens (total count : Nat) : ((partition total count).map (·.len)).sum = total := by
  -- There is a last piece, and it is the one that takes the remainder.
  obtain ⟨j, hj⟩ := Nat.exists_eq_succ_of_ne_zero (Nat.ne_of_gt (partitionCount_pos total count))
  rw [partition_eq, hj, List.map_map]
  exact sum_piece_lens total j

/-- Every piece lies inside the transfer. -/
theorem end_le_of_mem {total count : Nat} {p : Partition} (h : p ∈ partition total count) :
    p.start + p.len ≤ total := by
  obtain ⟨i, hi, rfl⟩ := mem_partition.1 h
  exact piece_end_le hi

theorem parent_of_mem {total count : Nat} {p : Partition} (h : p ∈ partition total count) :
    p.parent = total := by
  obtain ⟨i, -, rfl⟩ := mem_partition.1 h
  rfl

/-- No piece of a transfer that has bytes is empty. -/
theorem len_pos_of_mem {total count : Nat} {p : Partition} (ht : 0 < total) (h : p ∈ partition total count) :
    0 < p.len := by
  obtain ⟨i, hi, rfl⟩ := mem_partition.1 h
  have hk := partitionCount_le total count
  exact piece_len_pos hi (by omega)

/-- A piece is the whole transfer exactly if it is the only one. -/
theorem isWhole_iff_of_mem {total count : Nat} {p : Partition} (h : p ∈ partition total count) :
    p.isWhole = true ↔ (partition total count).length = 1 := by
  obtain ⟨i, hi, rfl⟩ := mem_partition.1 h
  rw [length_partition]
  have hk := partitionCount_le total count
  generalize partitionCount total count = k at hi hk ⊢
  by_cases h1 : k = 1
  · subst h1
    obtain rfl : i = 0 := by omega
    simp [isWhole, piece]
  · have hw : (piece total k i).isWhole = false := piece_not_whole hi (by omega) (by omega)
    simp [hw, h1]

end Goodput
