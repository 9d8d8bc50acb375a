import Goodput.Split.Policy
import Goodput.Proofs.Partition
/-!
# Plans of the automatic stream count

The automatic count doubles until `total / count`, rounded up, is at or below the target. The pieces are cut
at `total / count`, rounded down, and the last one takes what is left over. So where the count stays below
the cap, all pieces but the last keep to the target, and the last one does so exactly if the remainder fits
too (`auto_plan_within_target_iff`); it does not always (`auto_plan_exceeds_target`).
-/

namespace Goodput.SplitPolicy

/-! ## The doubling -/

theorem ceilDiv_le_iff {total k t : Nat} (hk : 0 < k) : ceilDiv total k ≤ t ↔ total ≤ k * t := by
  rw [ceilDiv, Nat.div_le_iff_le_mul_add_pred hk]
  omega

theorem doubled_pos (cap target total steps : Nat) {count : Nat} (hc : 0 < count) :
    0 < doubled cap target total steps count := by
  induction steps generalizing count with
  | zero => exact hc
  | succ steps ih =>
    rw [doubled]
    split
    · exact ih (by omega)
    · exact hc

/-- Doubling stops only at the cap or where the quotient is at or below the target. -/
theorem doubled_stops (cap target total steps : Nat) {count : Nat} (hc : 0 < count)
    (hsteps : cap ≤ steps + count) :
    cap ≤ doubled cap target total steps count ∨
      ceilDiv total (doubled cap target total steps count) ≤ target := by
  induction steps generalizing count with
  | zero =>
    left
    rw [doubled]
    omega
  | succ steps ih =>
    rw [doubled]
    split
    · exact ih (by omega) (by omega)
    · rename_i hstop
      omega

theorem streamCount_auto {p : SplitPolicy} {total : Nat} (h : p.threshold < total) :
    p.streamCount total .auto = min (doubled p.cap p.target total p.cap 1) p.cap := by
  rw [streamCount, if_neg (Nat.not_le.2 h)]

theorem target_pos (p : SplitPolicy) : 0 < p.target := by
  unfold target; omega

/-- A count below the cap was chosen because the target fits so many times. -/
theorem total_le_of_below_cap {p : SplitPolicy} {total : Nat} (h : p.threshold < total)
    (hcap : p.streamCount total .auto < p.cap) :
    0 < p.streamCount total .auto ∧ total ≤ p.streamCount total .auto * p.target := by
  rw [streamCount_auto h] at hcap ⊢
  have hpos := doubled_pos p.cap p.target total p.cap Nat.one_pos
  have hstop := doubled_stops p.cap p.target total p.cap Nat.one_pos (Nat.le_add_right _ _)
  rw [ceilDiv_le_iff hpos] at hstop
  generalize doubled p.cap p.target total p.cap 1 = k at hcap hpos hstop ⊢
  have hmin : min k p.cap = k := by omega
  rw [hmin] at hcap ⊢
  rcases hstop with hle | hle
  · omega
  · exact ⟨hpos, hle⟩

/-! ## The plan -/

theorem plan_eq (p : SplitPolicy) (total : Nat) (mode : StreamCount) :
    p.plan total mode = partition total (p.streamCount total mode) := rfl

/-- The quotient of an automatic plan below the cap is at or below the target. -/
theorem quotient_le_target {p : SplitPolicy} {total : Nat} (h : p.threshold < total)
    (hcap : p.streamCount total .auto < p.cap) :
    total / partitionCount total (p.streamCount total .auto) ≤ p.target := by
  obtain ⟨hpos, hle⟩ := total_le_of_below_cap h hcap
  have htarget := p.target_pos
  generalize p.streamCount total .auto = k at hpos hle ⊢
  rcases Nat.le_total k total with hk | hk
  · have hn : partitionCount total k = k := by unfold partitionCount; omega
    rw [hn]
    exact Nat.div_le_of_le_mul hle
  · -- More streams than bytes: each byte is a piece of its own.
    have hn : partitionCount total k = total := by unfold partitionCount; omega
    rw [hn, Nat.div_self (by omega)]
    exact htarget

/-- An automatic plan below the cap keeps to the target exactly if the quotient and the remainder together
do. All pieces but the last keep to it in any case, and none goes beyond it by as many bytes as there are
pieces. -/
theorem auto_plan_within_target_iff (p : SplitPolicy) (total : Nat) (habove : p.threshold < total)
    (hcap : p.streamCount total .auto < p.cap) :
    let plan := p.plan total .auto
    ((∀ q ∈ plan, q.len ≤ p.target) ↔ total / plan.length + total % plan.length ≤ p.target) ∧
      (∀ q ∈ plan, q.index + 1 < plan.length → q.len ≤ p.target) ∧
      ∀ q ∈ plan, q.len < p.target + plan.length := by
  have hquot := quotient_le_target habove hcap
  obtain ⟨j, hj⟩ := Nat.exists_eq_succ_of_ne_zero
    (Nat.ne_of_gt (partitionCount_pos total (p.streamCount total .auto)))
  have hmem : ∀ q, q ∈ p.plan total .auto ↔ ∃ i < j + 1, q = Partition.piece total (j + 1) i := by
    intro q
    rw [plan_eq, mem_partition, hj]
  have hmod : total % (j + 1) < j + 1 := Nat.mod_lt _ (Nat.succ_pos j)
  have hlast := Partition.piece_len_last total j
  simp only [plan_eq, length_partition, hj, Nat.succ_eq_add_one] at hquot hmem ⊢
  -- A piece is an inner one, as long as the quotient, or the last one.
  have hcases : ∀ i < j + 1, i + 1 < j + 1 ∨ i = j := by omega
  refine ⟨⟨fun hall => ?_, fun hfit => ?_⟩, ?_, ?_⟩
  · rw [← hlast]
    exact hall _ ((hmem _).2 ⟨j, Nat.lt_succ_self j, rfl⟩)
  · intro q hq
    obtain ⟨i, hi, rfl⟩ := (hmem q).1 hq
    rcases hcases i hi with hinner | rfl
    · rw [Partition.piece_len_inner hinner]
      exact hquot
    · rw [hlast]
      exact hfit
  · intro q hq hinner
    obtain ⟨i, -, rfl⟩ := (hmem q).1 hq
    rw [Partition.piece_len_inner (show i + 1 < j + 1 from hinner)]
    exact hquot
  · intro q hq
    obtain ⟨i, hi, rfl⟩ := (hmem q).1 hq
    rcases hcases i hi with hinner | rfl
    · rw [Partition.piece_len_inner hinner]
      exact Nat.lt_of_le_of_lt hquot (Nat.lt_add_of_pos_right (Nat.succ_pos j))
    · rw [hlast]
      exact Nat.add_lt_add_of_le_of_lt hquot hmod

/-- 1003 bytes under a target of 251 become four pieces, 250 + 250 + 250 + 253. -/
theorem auto_plan_1003 :
    let p : SplitPolicy := ⟨500, 251, 16⟩
    p.threshold < 1003 ∧ p.streamCount 1003 .auto < p.cap ∧
      ((∀ q ∈ p.plan 1003 .auto, q.len ≤ p.target) ↔
        1003 / (p.plan 1003 .auto).length + 1003 % (p.plan 1003 .auto).length ≤ p.target) ∧
      (∀ q ∈ p.plan 1003 .auto, q.index + 1 < (p.plan 1003 .auto).length → q.len ≤ p.target) ∧
      ∀ q ∈ p.plan 1003 .auto, q.len < p.target + (p.plan 1003 .auto).length :=
  ⟨by decide, by decide, auto_plan_within_target_iff ⟨500, 251, 16⟩ 1003 (by decide) (by decide)⟩

/-- So an automatic plan below the cap can have a last piece beyond the target. -/
theorem auto_plan_exceeds_target :
    ¬ ∀ (p : SplitPolicy) (total : Nat), p.threshold < total → p.streamCount total .auto < p.cap →
      ∀ q ∈ p.plan total .auto, q.len ≤ p.target := by
  intro h
  have hlast := h ⟨500, 251, 16⟩ 1003 (by decide) (by decide) (Partition.piece 1003 4 3) (by decide)
  exact absurd hlast (by decide)

end Goodput.SplitPolicy
