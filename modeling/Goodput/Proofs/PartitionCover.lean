import Goodput.Proofs.Partition
/-!
# The pieces cover the transfer exactly

The pieces of a transfer stand in a row: the first starts at the first byte, each next one where the one before
ends, and the last ends with the transfer. So no byte is in two pieces, and we find the piece that holds a byte
by going through the row.
-/

namespace Goodput

namespace Partition

/-- The byte at an offset belongs to the piece. -/
def Holds (p : Partition) (b : Nat) : Prop := p.start ≤ b ∧ b < p.start + p.len

instance (p : Partition) (b : Nat) : Decidable (p.Holds b) := inferInstanceAs (Decidable (_ ∧ _))

/-! ## Which piece holds a byte -/

/-- A piece ends before any later one starts. -/
theorem piece_end_le_start (total : Nat) {k i j : Nat} (hij : i < j) (hj : j < k) :
    (piece total k i).start + (piece total k i).len ≤ (piece total k j).start := by
  rw [piece_end_inner (by omega)]
  exact Nat.mul_le_mul_left (total / k) hij

theorem piece_unique {total k i j b : Nat} (hi : i < k) (hj : j < k) (h : (piece total k i).Holds b)
    (h' : (piece total k j).Holds b) : i = j := by
  obtain ⟨hlow, hhigh⟩ := h
  obtain ⟨hlow', hhigh'⟩ := h'
  rcases Nat.lt_trichotomy i j with hij | rfl | hji
  · have hend := piece_end_le_start total hij hj
    omega
  · rfl
  · have hend := piece_end_le_start total hji hi
    omega

/-- A byte in front of a piece is in one of the pieces before. -/
theorem exists_piece_before {total k n b : Nat} (hn : n < k) (hb : b < (piece total k n).start) :
    ∃ i < n, (piece total k i).Holds b := by
  induction n with
  | zero =>
    have hstart : (piece total k 0).start = 0 := Nat.mul_zero _
    omega
  | succ n ih =>
    by_cases hbefore : b < (piece total k n).start
    · obtain ⟨i, hi, hholds⟩ := ih (by omega) hbefore
      exact ⟨i, Nat.lt_succ_of_lt hi, hholds⟩
    · have hend : (piece total k n).start + (piece total k n).len = (piece total k (n + 1)).start :=
        piece_end_inner hn
      exact ⟨n, Nat.lt_succ_self n, Nat.le_of_not_lt hbefore, by omega⟩

/-- Every byte is in a piece: the last one, or one of those before. -/
theorem exists_piece {total k b : Nat} (hk : 0 < k) (hb : b < total) : ∃ i < k, (piece total k i).Holds b := by
  obtain ⟨j, rfl⟩ := Nat.exists_eq_succ_of_ne_zero (Nat.ne_of_gt hk)
  have hend := piece_end_last total j
  by_cases hbefore : b < (piece total (j + 1) j).start
  · obtain ⟨i, hi, hholds⟩ := exists_piece_before (Nat.lt_succ_self j) hbefore
    exact ⟨i, Nat.lt_succ_of_lt hi, hholds⟩
  · exact ⟨j, Nat.lt_succ_self j, Nat.le_of_not_lt hbefore, by rw [hend]; exact hb⟩

end Partition

open Goodput.Partition

/-! ## All pieces -/

theorem getElem_partition {total count i : Nat} (h : i < (partition total count).length) :
    (partition total count)[i] = piece total (partitionCount total count) i := by
  simp [partition_eq]

/-- Every byte of a transfer is in exactly one of its pieces. -/
theorem existsUnique_holds {total : Nat} (count : Nat) {b : Nat} (hb : b < total) :
    ∃! p, p ∈ partition total count ∧ p.Holds b := by
  obtain ⟨i, hi, hholds⟩ := exists_piece (partitionCount_pos total count) hb
  refine ⟨piece total (partitionCount total count) i, ⟨mem_partition.2 ⟨i, hi, rfl⟩, hholds⟩, ?_⟩
  rintro p ⟨hp, hholds'⟩
  obtain ⟨j, hj, rfl⟩ := mem_partition.1 hp
  rw [piece_unique hi hj hholds hholds']

/-- A row of `k` pieces that covers a transfer of `total` bytes without a gap or an overlap. -/
structure ExactCover (total k : Nat) (parts : List Partition) : Prop where
  length : parts.length = k
  labels : ∀ i (h : i < parts.length), parts[i].index = i ∧ parts[i].count = k ∧ parts[i].parent = total
  first : ∀ h : 0 < parts.length, parts[0].start = 0
  seam : ∀ i (h : i + 1 < parts.length), parts[i].start + parts[i].len = parts[i + 1].start
  last : ∀ i (h : i + 1 = parts.length), parts[i].start + parts[i].len = total
  sum : (parts.map (·.len)).sum = total
  once : ∀ b < total, ∃! p, p ∈ parts ∧ p.Holds b
  nonempty : 0 < total → ∀ p ∈ parts, 0 < p.len
  base : ∀ i (h : i + 1 < parts.length), parts[i].len = total / k
  /-- The last piece takes the remainder. -/
  remainder : ∀ i (h : i + 1 = parts.length), parts[i].len = total / k + total % k
  whole : ∀ p ∈ parts, p.isWhole = true ↔ k = 1

/-- A transfer is cut into as many pieces as were asked for, but into at least one and no more than it has
bytes, and they cover it exactly. With sizes of 64 bits and counts of 32 bits nothing overflows: neither the
end of a piece nor the number of pieces. -/
theorem partition_covers (total : UInt64) (count : UInt32) :
    let parts := partition total.toNat count.toNat
    ExactCover total.toNat (min (max count.toNat 1) (max total.toNat 1)) parts ∧
      (∀ p ∈ parts, p.start + p.len < UInt64.size) ∧ parts.length < UInt32.size := by
  intro parts
  have hlength : parts.length = partitionCount total.toNat count.toNat := length_partition _ _
  rw [show min (max count.toNat 1) (max total.toNat 1) = partitionCount total.toNat count.toNat from rfl]
  refine ⟨?_, fun p hp => ?_, ?_⟩
  · exact {
      length := hlength
      labels := fun i h => by rw [getElem_partition h]; exact ⟨rfl, rfl, rfl⟩
      first := fun h => by rw [getElem_partition h]; exact Nat.mul_zero _
      seam := fun i h => by
        rw [getElem_partition, getElem_partition h]
        exact piece_end_inner (hlength ▸ h)
      last := fun i h => by
        rw [getElem_partition, ← hlength, ← h]
        exact piece_end_last _ i
      sum := sum_lens _ _
      once := fun b hb => existsUnique_holds _ hb
      nonempty := fun ht p hp => len_pos_of_mem ht hp
      base := fun i h => by
        rw [getElem_partition]
        exact piece_len_inner (hlength ▸ h)
      remainder := fun i h => by
        rw [getElem_partition, ← hlength, ← h]
        exact piece_len_last _ i
      whole := fun p hp => by rw [isWhole_iff_of_mem hp, hlength] }
  · exact Nat.lt_of_le_of_lt (end_le_of_mem hp) total.toNat_lt_size
  · have hcount : count.toNat < UInt32.size := count.toNat_lt_size
    rw [hlength]
    unfold partitionCount
    unfold UInt32.size at hcount ⊢
    omega

/-- Ten bytes in three pieces: the last byte is in the last piece, and in no other. -/
theorem ten_bytes_in_three :
    let parts := partition (10 : UInt64).toNat (3 : UInt32).toNat
    parts.map (·.len) = [3, 3, 4] ∧ ((parts.filter (·.Holds 9)).map (·.index) = [2]) ∧
      ∃! p, p ∈ parts ∧ p.Holds 9 :=
  ⟨by decide, by decide, (partition_covers 10 3).1.once 9 (by decide)⟩

end Goodput
