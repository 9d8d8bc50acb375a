import Goodput.Proofs.Policy
/-!
# The automatic count is the fewest streams

Doubling from one until the partitions fit, we pass no power of two that would have been enough. So the automatic
count is the least power of two that keeps `total / k`, rounded up, at or below the target, unless the cap comes
first (`streamCount_auto_eq`). In closed form that power is `fewest`, which makes the count monotone: more bytes
never take fewer streams, and a larger target never takes more.
-/

namespace Goodput.SplitPolicy

/-! ## The least power of two that is enough -/

/-- So many streams keep the partitions at or below the target. -/
def Suffices (p : SplitPolicy) (total k : Nat) : Prop := ceilDiv total k ≤ p.target

/-- The fewest streams, in powers of two, that keep the partitions at or below the target. -/
def fewest (p : SplitPolicy) (total : Nat) : Nat := 2 ^ Nat.clog 2 (ceilDiv total p.target)

theorem ceilDiv_le_comm {total k t : Nat} (hk : 0 < k) (ht : 0 < t) :
    ceilDiv total k ≤ t ↔ ceilDiv total t ≤ k := by
  rw [ceilDiv_le_iff hk, ceilDiv_le_iff ht, Nat.mul_comm]

theorem suffices_pow_iff (p : SplitPolicy) (total e : Nat) :
    p.Suffices total (2 ^ e) ↔ Nat.clog 2 (ceilDiv total p.target) ≤ e := by
  rw [Suffices, ceilDiv_le_comm (Nat.two_pow_pos e) p.target_pos, Nat.clog_le_iff_le_pow Nat.one_lt_two]

theorem fewest_isLeast (p : SplitPolicy) (total : Nat) :
    IsLeast {k | (∃ e, k = 2 ^ e) ∧ p.Suffices total k} (p.fewest total) := by
  refine ⟨⟨⟨_, rfl⟩, (p.suffices_pow_iff total _).2 le_rfl⟩, ?_⟩
  rintro k ⟨⟨e, rfl⟩, hk⟩
  exact Nat.pow_le_pow_right Nat.two_pos ((p.suffices_pow_iff total e).1 hk)

theorem fewest_mono (p : SplitPolicy) {total more : Nat} (h : total ≤ more) :
    p.fewest total ≤ p.fewest more := by
  have hquot : ceilDiv total p.target ≤ ceilDiv more p.target := Nat.div_le_div_right (by omega)
  exact Nat.pow_le_pow_right Nat.two_pos (Nat.clog_mono_right 2 hquot)

/-- What is enough for a target is enough for a larger one. -/
theorem fewest_anti {p q : SplitPolicy} (total : Nat) (h : p.target ≤ q.target) :
    q.fewest total ≤ p.fewest total := by
  have hsuffices : q.Suffices total (p.fewest total) := Nat.le_trans (p.fewest_isLeast total).1.2 h
  exact (q.fewest_isLeast total).2 ⟨⟨_, rfl⟩, hsuffices⟩

/-! ## The doubling passes nothing that is enough -/

/-- From a power of two the doubling ends at a power of two, and every one on the way was below the cap and not
enough. -/
theorem doubled_pow (cap target total steps e : Nat) :
    ∃ e', doubled cap target total steps (2 ^ e) = 2 ^ e' ∧
      ∀ i, e ≤ i → i < e' → 2 ^ i < cap ∧ target < ceilDiv total (2 ^ i) := by
  -- Each step moves the exponent on, so the claim is for every start.
  induction steps generalizing e with
  | zero => exact ⟨e, rfl, fun i hlow hhigh => by omega⟩
  | succ steps ih =>
    rw [doubled]
    split
    · rename_i hgo
      obtain ⟨e', heq, hpassed⟩ := ih (e + 1)
      refine ⟨e', heq, fun i hlow hhigh => ?_⟩
      rcases Nat.eq_or_lt_of_le hlow with rfl | hlt
      · exact hgo
      · exact hpassed i hlt hhigh
    · exact ⟨e, rfl, fun i hlow hhigh => by omega⟩

/-- Up to the cap the doubling finds the fewest streams that are enough. -/
theorem min_doubled (p : SplitPolicy) (total : Nat) :
    min (doubled p.cap p.target total p.cap 1) p.cap = min p.cap (p.fewest total) := by
  obtain ⟨e, heq, hpassed⟩ := doubled_pow p.cap p.target total p.cap 0
  have hstop := doubled_stops p.cap p.target total p.cap Nat.one_pos (Nat.le_add_right _ _)
  rw [Nat.pow_zero] at heq
  rw [heq] at hstop ⊢
  -- The fewest streams are not among those that were passed.
  have hreached : 2 ^ e ≤ p.fewest total := by
    refine Nat.pow_le_pow_right Nat.two_pos (Nat.le_of_not_lt fun hlt => ?_)
    have hmore := (hpassed _ (Nat.zero_le _) hlt).2
    exact absurd (p.fewest_isLeast total).1.2 (Nat.not_le.2 hmore)
  rcases hstop with hcap | hfits
  · omega
  · have hleast : p.fewest total ≤ 2 ^ e := (p.fewest_isLeast total).2 ⟨⟨e, rfl⟩, hfits⟩
    omega

/-! ## The count -/

theorem cap_pos (p : SplitPolicy) : 0 < p.cap := by
  unfold cap Goodput.maxStreams; omega

theorem fewest_pos (p : SplitPolicy) (total : Nat) : 0 < p.fewest total := Nat.two_pow_pos _

/-- Up to the threshold there is one stream in every mode. -/
theorem streamCount_below {p : SplitPolicy} {total : Nat} (h : total ≤ p.threshold) (mode : StreamCount) :
    p.streamCount total mode = 1 := by
  unfold streamCount
  exact if_pos h

theorem streamCount_fixed {p : SplitPolicy} {total : Nat} (h : p.threshold < total) (n : Nat) :
    p.streamCount total (.fixed n) = max n 1 := by
  unfold streamCount
  exact if_neg (Nat.not_le.2 h)

theorem streamCount_auto_eq {p : SplitPolicy} {total : Nat} (h : p.threshold < total) :
    p.streamCount total .auto = min p.cap (p.fewest total) := by
  rw [streamCount_auto h, min_doubled]

/-- The count in three cases: one stream, or what the mode gives above the threshold. -/
theorem streamCount_cases (p : SplitPolicy) (total : Nat) (mode : StreamCount) :
    p.streamCount total mode = 1 ∨ (mode = .auto ∧ p.streamCount total mode = min p.cap (p.fewest total)) ∨
      ∃ n, mode = .fixed n ∧ p.streamCount total mode = max n 1 := by
  rcases Nat.lt_or_ge p.threshold total with habove | hbelow
  · cases mode with
    | auto => exact .inr (.inl ⟨rfl, streamCount_auto_eq habove⟩)
    | fixed n => exact .inr (.inr ⟨n, rfl, streamCount_fixed habove n⟩)
  · exact .inl (streamCount_below hbelow mode)

theorem streamCount_pos (p : SplitPolicy) (total : Nat) (mode : StreamCount) : 0 < p.streamCount total mode := by
  rcases p.streamCount_cases total mode with h | ⟨-, h⟩ | ⟨n, -, h⟩
  · rw [h]
    exact Nat.one_pos
  · rw [h]
    exact Nat.lt_min.2 ⟨p.cap_pos, p.fewest_pos total⟩
  · rw [h]
    exact Nat.le_max_right n 1

theorem streamCount_auto_le_cap (p : SplitPolicy) (total : Nat) : p.streamCount total .auto ≤ p.cap := by
  rcases p.streamCount_cases total .auto with h | ⟨-, h⟩ | ⟨n, hmode, -⟩
  · rw [h]
    exact p.cap_pos
  · rw [h]
    exact Nat.min_le_left _ _
  · cases hmode

theorem streamCount_auto_mono (p : SplitPolicy) {total more : Nat} (h : total ≤ more) :
    p.streamCount total .auto ≤ p.streamCount more .auto := by
  rcases Nat.lt_or_ge p.threshold total with habove | hbelow
  · rw [streamCount_auto_eq habove, streamCount_auto_eq (Nat.lt_of_lt_of_le habove h)]
    exact min_le_min_left _ (p.fewest_mono h)
  · -- Crossing the threshold only adds streams to the single one.
    rw [streamCount_below hbelow]
    exact p.streamCount_pos more .auto

theorem streamCount_auto_anti (p : SplitPolicy) (total : Nat) {larger : Nat} (h : p.targetPartition ≤ larger) :
    ({ p with targetPartition := larger } : SplitPolicy).streamCount total .auto ≤ p.streamCount total .auto := by
  rcases Nat.lt_or_ge p.threshold total with habove | hbelow
  · have htarget : p.target ≤ ({ p with targetPartition := larger } : SplitPolicy).target :=
      max_le_max_right 1 h
    rw [streamCount_auto_eq habove, streamCount_auto_eq (p := { p with targetPartition := larger }) habove]
    exact min_le_min_left _ (fewest_anti total htarget)
  · rw [streamCount_below hbelow, streamCount_below (p := { p with targetPartition := larger }) hbelow]

/-- There are as many partitions as streams, but no more than bytes. -/
theorem length_plan (p : SplitPolicy) (total : Nat) (mode : StreamCount) :
    (p.plan total mode).length = min (p.streamCount total mode) (max total 1) := by
  rw [plan_eq, length_partition, partitionCount, max_eq_left (p.streamCount_pos total mode)]

/-- The count of every policy, for every transfer: one up to the threshold, and above it what was fixed or, in
automatic mode, the least power of two that is enough, up to the cap. So the automatic count lies between one and
the cap, grows with the transfer and shrinks with the target; and a plan has as many partitions as streams, unless
there are fewer bytes. -/
theorem streamCount_optimal (p : SplitPolicy) (total : Nat) :
    (total ≤ p.threshold → ∀ mode, p.streamCount total mode = 1) ∧
      (p.threshold < total → (∀ n, p.streamCount total (.fixed n) = max n 1) ∧
        ∃ k, IsLeast {k | (∃ e, k = 2 ^ e) ∧ p.Suffices total k} k ∧
          p.streamCount total .auto = min p.cap k) ∧
      (1 ≤ p.streamCount total .auto ∧ p.streamCount total .auto ≤ p.cap) ∧
      (∀ more, total ≤ more → p.streamCount total .auto ≤ p.streamCount more .auto) ∧
      (∀ larger, p.targetPartition ≤ larger →
        ({ p with targetPartition := larger } : SplitPolicy).streamCount total .auto ≤ p.streamCount total .auto) ∧
      ∀ mode, (p.plan total mode).length = min (p.streamCount total mode) (max total 1) := by
  refine ⟨fun h mode => streamCount_below h mode, fun h => ⟨streamCount_fixed h, ?_⟩,
    ⟨p.streamCount_pos total .auto, p.streamCount_auto_le_cap total⟩, fun more h => p.streamCount_auto_mono h,
    fun larger h => p.streamCount_auto_anti total h, p.length_plan total⟩
  exact ⟨p.fewest total, p.fewest_isLeast total, streamCount_auto_eq h⟩

/-- Eight streams would be enough, but the cap allows six; twice the target halves the streams. -/
theorem six_streams_of_eight :
    let p : SplitPolicy := ⟨500, 251, 6⟩
    p.threshold < 2000 ∧ p.streamCount 2000 .auto = 6 ∧
      (∃ k, IsLeast {k | (∃ e, k = 2 ^ e) ∧ p.Suffices 2000 k} k ∧ 6 = min p.cap k) ∧
      ({ p with targetPartition := 502 } : SplitPolicy).streamCount 2000 .auto ≤ 6 := by
  intro p
  have hsix : p.streamCount 2000 .auto = 6 := by decide
  obtain ⟨-, habove, -, -, hanti, -⟩ := streamCount_optimal p 2000
  obtain ⟨-, k, hleast, hk⟩ := habove (by decide)
  refine ⟨by decide, hsix, ⟨k, hleast, hsix ▸ hk⟩, ?_⟩
  exact hsix ▸ hanti 502 (by decide)

end Goodput.SplitPolicy
