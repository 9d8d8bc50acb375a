import Goodput.Client.SplitRun
import Goodput.Proofs.PartitionCover
/-!
# Reports do not depend on the order of finishing

The tasks of a split transfer finish in any order. If all succeed, sorting by index brings their reports into the
order of the plan, since the indices of a plan are those of its places; so nothing of the order is left, and no
partition is missing or there twice. If some fail, the run ends with the failure that came first, and there is no
report.
-/

namespace Goodput

open Goodput.Partition

theorem index_partition (total count : Nat) :
    (partition total count).map (·.index) = List.range (partition total count).length := by
  rw [length_partition, partition_eq, List.map_map]
  exact List.map_id'' (fun _ => rfl) _

/-- The partitions of a plan stand in the order of their indices, no two of which are equal. -/
theorem pairwise_index (total count : Nat) : (partition total count).Pairwise fun p q => p.index < q.index := by
  rw [← List.pairwise_map, index_partition]
  exact List.pairwise_lt_range

namespace Client

/-- The report of a partition that moved these numbers. -/
def PartitionReport.of (p : Partition) (stats : TransferStats) : PartitionReport := ⟨p, stats.bytes, stats.elapsed⟩

/-- The result of a partition's task, where `outcome` says how each partition comes out. -/
def taskResult (outcome : Partition → Except SplitError TransferStats) (p : Partition) : PartitionResult :=
  (outcome p).map (PartitionReport.of p)

variable {outcome : Partition → Except SplitError TransferStats}

theorem taskResult_ok {p : Partition} {stats : TransferStats} (h : outcome p = .ok stats) :
    taskResult outcome p = .ok (.of p stats) := by
  rw [taskResult, h]
  rfl

theorem taskResult_error {p : Partition} {e : SplitError} (h : outcome p = .error e) :
    taskResult outcome p = .error e := by
  rw [taskResult, h]
  rfl

/-! ## Gathering -/

/-- Results that are all good are gathered in the order in which they come. -/
theorem gather_ok {moved : Partition → TransferStats} {order : List Partition}
    (h : ∀ p ∈ order, outcome p = .ok (moved p)) :
    gather (order.map (taskResult outcome)) = .ok (order.map fun p => .of p (moved p)) := by
  induction order with
  | nil => rfl
  | cons p order ih =>
    rw [List.map_cons, taskResult_ok (h p List.mem_cons_self), gather,
      ih fun q hq => h q (List.mem_cons_of_mem p hq)]
    rfl

/-- The first failure that comes ends the gathering, whatever comes behind it. -/
theorem gather_error {before after : List Partition} {q : Partition} {e : SplitError}
    (hbefore : ∀ p ∈ before, ∃ stats, outcome p = .ok stats) (hq : outcome q = .error e) :
    gather ((before ++ q :: after).map (taskResult outcome)) = .error e := by
  induction before with
  | nil => rw [List.nil_append, List.map_cons, taskResult_error hq, gather]
  | cons p before ih =>
    obtain ⟨stats, hp⟩ := hbefore p List.mem_cons_self
    rw [List.cons_append, List.map_cons, taskResult_ok hp, gather,
      ih fun r hr => hbefore r (List.mem_cons_of_mem p hr)]

/-- If some task fails, one of those that fail finishes first. -/
theorem exists_first_error {order : List Partition} (h : ∃ p ∈ order, ∃ e, outcome p = .error e) :
    ∃ before q after e, order = before ++ q :: after ∧ (∀ p ∈ before, ∃ stats, outcome p = .ok stats) ∧
      outcome q = .error e := by
  induction order with
  | nil =>
    obtain ⟨p, hp, -⟩ := h
    cases hp
  | cons p order ih =>
    cases hp : outcome p with
    | error e => exact ⟨[], p, order, e, rfl, fun r hr => (by cases hr), hp⟩
    | ok stats =>
      have hrest : ∃ q ∈ order, ∃ e, outcome q = .error e := by
        obtain ⟨q, hq, e, he⟩ := h
        rcases List.mem_cons.1 hq with rfl | hq
        · rw [hp] at he
          cases he
        · exact ⟨q, hq, e, he⟩
      obtain ⟨before, q, after, e, rfl, hbefore, hq⟩ := ih hrest
      refine ⟨p :: before, q, after, e, rfl, ?_, hq⟩
      intro r hr
      rcases List.mem_cons.1 hr with rfl | hr
      · exact ⟨stats, hp⟩
      · exact hbefore r hr

/-! ## Sorting -/

theorem notBehind_iff {a b : PartitionReport} : notBehind a b = true ↔ a.partition.index ≤ b.partition.index :=
  decide_eq_true_iff

/-- Sorting the reports by index undoes the order of finishing. -/
theorem mergeSort_reports {total count : Nat} {order : List Partition} (h : order.Perm (partition total count))
    (moved : Partition → TransferStats) :
    (order.map fun p => PartitionReport.of p (moved p)).mergeSort notBehind =
      (partition total count).map fun p => .of p (moved p) := by
  have hperm := (List.mergeSort_perm (order.map fun p => PartitionReport.of p (moved p)) notBehind).trans (h.map _)
  have hsorted : ((order.map fun p => PartitionReport.of p (moved p)).mergeSort notBehind).Pairwise
      fun a b => notBehind a b = true := by
    refine List.pairwise_mergeSort ?_ ?_ _
    · intro a b c hab hbc
      exact notBehind_iff.2 (Nat.le_trans (notBehind_iff.1 hab) (notBehind_iff.1 hbc))
    · intro a b
      simp only [notBehind, Bool.or_eq_true, decide_eq_true_eq]
      omega
  have hplan : ((partition total count).map fun p => PartitionReport.of p (moved p)).Pairwise
      fun a b => notBehind a b = true :=
    List.pairwise_map.2 ((pairwise_index total count).imp fun hlt => notBehind_iff.2 (Nat.le_of_lt hlt))
  -- Reports of a plan with the same index are of the same partition.
  have hinj : ((partition total count).map (·.index)).Nodup := by
    rw [index_partition]
    exact List.nodup_range
  refine List.Perm.eq_of_pairwise ?_ hsorted hplan hperm
  intro a b ha hb hab hba
  obtain ⟨p, hp, rfl⟩ := List.mem_map.1 (hperm.mem_iff.1 ha)
  obtain ⟨q, hq, rfl⟩ := List.mem_map.1 hb
  have hindex : p.index = q.index := Nat.le_antisymm (notBehind_iff.1 hab) (notBehind_iff.1 hba)
  rw [List.inj_on_of_nodup_map hinj hp hq hindex]

/-! ## Reports -/

/-- A report of a plan is complete exactly if each partition moved its length: then the sum is right of itself. -/
theorem isComplete_iff (direction : Direction) (total count : Nat) (elapsed : Span)
    (moved : Partition → TransferStats) :
    let report : SplitReport :=
      ⟨direction, total, elapsed, (partition total count).map fun p => .of p (moved p)⟩
    report.isComplete = true ↔ ∀ p ∈ partition total count, (moved p).bytes = p.len := by
  intro report
  have hbytes : report.bytes = ((partition total count).map fun p => (moved p).bytes).sum := by
    simp only [report, SplitReport.bytes, List.map_map]
    rfl
  have hall : (report.partitions.all fun r => r.bytes == r.partition.len) = true ↔
      ∀ p ∈ partition total count, (moved p).bytes = p.len := by
    simp [report, PartitionReport.of]
  rw [SplitReport.isComplete, Bool.and_eq_true, beq_iff_eq, hall, hbytes]
  constructor
  · exact fun h => h.2
  · intro h
    refine ⟨?_, h⟩
    rw [List.map_congr_left h]
    exact sum_lens total count

/-- In whatever order the tasks of a plan finish: if all succeed, the report lists the plan in the order of its
indices, each partition once with what it moved, and it is complete exactly if each moved its length, which then
make up the transfer. If one fails, the run ends with the error of the failing task that finished first. -/
theorem report_ignores_finishing_order (policy : SplitPolicy) (total : Nat) (mode : StreamCount)
    (direction : Direction) (elapsed : Span) (outcome : Partition → Except SplitError TransferStats)
    (order : List Partition) (horder : order.Perm (policy.plan total mode)) :
    let plan := policy.plan total mode
    let run := SplitReport.ofResults direction total elapsed (order.map (taskResult outcome))
    (∀ moved : Partition → TransferStats, (∀ p ∈ plan, outcome p = .ok (moved p)) →
      let report : SplitReport := ⟨direction, total, elapsed, plan.map fun p => .of p (moved p)⟩
      run = .ok report ∧
      report.partitions.map (·.partition.index) = List.range plan.length ∧
      (report.isComplete = true ↔ ∀ p ∈ plan, (moved p).bytes = p.len) ∧
      (report.isComplete = true → report.bytes = total)) ∧
    ((∃ p ∈ plan, ∃ e, outcome p = .error e) →
      ∃ before q after e, order = before ++ q :: after ∧ (∀ p ∈ before, ∃ stats, outcome p = .ok stats) ∧
        outcome q = .error e ∧ run = .error e) := by
  intro plan run
  constructor
  · intro moved hmoved report
    have hrun : run = .ok report := by
      have hgather := gather_ok fun p hp => hmoved p (horder.mem_iff.1 hp)
      simp only [run, SplitReport.ofResults, hgather, report]
      rw [mergeSort_reports horder moved]
      rfl
    have hindex : report.partitions.map (·.partition.index) = List.range plan.length := by
      simp only [report, List.map_map]
      exact index_partition total _
    refine ⟨hrun, hindex, isComplete_iff direction total _ elapsed moved, ?_⟩
    intro hcomplete
    rw [SplitReport.isComplete, Bool.and_eq_true, beq_iff_eq] at hcomplete
    exact hcomplete.1
  · rintro ⟨p, hp, e, he⟩
    obtain ⟨before, q, after, e', hsplit, hbefore, hq⟩ := exists_first_error ⟨p, horder.mem_iff.2 hp, e, he⟩
    refine ⟨before, q, after, e', hsplit, hbefore, hq, ?_⟩
    simp only [run, SplitReport.ofResults]
    rw [hsplit, gather_error hbefore hq]

/-- Ten bytes in three partitions that finish from the last to the first: if all move, the report has the order of
the plan; if all fail, the last partition's failure is the one that is returned. -/
theorem last_partition_first :
    let plan := (SplitPolicy.mk 4 4 4).plan 10 (.fixed 3)
    let full : Partition → Except SplitError TransferStats := fun p => .ok ⟨p.len, .zero⟩
    let failing : Partition → Except SplitError TransferStats := fun p => .error (.status p.index 500)
    plan.reverse.Perm plan ∧
      SplitReport.ofResults .download 10 .zero (plan.reverse.map (taskResult full)) =
        .ok ⟨.download, 10, .zero,
          [⟨⟨10, 0, 3, 0, 3⟩, 3, .zero⟩, ⟨⟨10, 1, 3, 3, 3⟩, 3, .zero⟩, ⟨⟨10, 2, 3, 6, 4⟩, 4, .zero⟩]⟩ ∧
      SplitReport.ofResults .download 10 .zero (plan.reverse.map (taskResult failing)) = .error (.status 2 500) := by
  intro plan full failing
  have hreverse : plan.reverse.Perm plan := List.reverse_perm plan
  have hfull := report_ignores_finishing_order ⟨4, 4, 4⟩ 10 (.fixed 3) .download .zero full plan.reverse hreverse
  have hfailing :=
    report_ignores_finishing_order ⟨4, 4, 4⟩ 10 (.fixed 3) .download .zero failing plan.reverse hreverse
  refine ⟨hreverse, (hfull.1 (fun p => ⟨p.len, .zero⟩) fun _ _ => rfl).1, ?_⟩
  obtain ⟨before, q, after, e, hsplit, hbefore, hq, hrun⟩ := hfailing.2 ⟨_, List.mem_cons_self, _, rfl⟩
  cases before with
  | nil =>
    obtain rfl : ⟨10, 2, 3, 6, 4⟩ = q := (List.cons.inj hsplit).1
    rw [hrun, ← Except.error.inj hq]
  | cons p before =>
    obtain ⟨stats, hp⟩ := hbefore p List.mem_cons_self
    cases hp

end Client

end Goodput
