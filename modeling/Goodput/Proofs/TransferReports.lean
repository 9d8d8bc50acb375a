import Mathlib.Algebra.Ring.Nat
import Mathlib.Data.List.Basic
import Goodput.Proofs.LedgerAlone
/-!
# Every transfer is reported exactly once

Transfers that share a log may be used and closed in any order, with other events between. We prove that each of
them is still logged as if it were the only one: its beginning, and, from the moment at which its meter is closed
and not before, one end, with what its meter shows. `transfers_reported_once` puts this together with what it means
for the log as a whole.

What a meter shows are the bytes that its own operations counted, as long as a word holds them.
`sum_beyond_a_word` has two operations that count more.

A place of a ledger goes through three stages: free, open, closed. `own_free`, `own_open` and `own_closed` say what
a run logs for it in each.
-/

namespace Goodput

namespace LedgerOp

variable (now : Instant) (i : Nat) (op : LedgerOp) (m : Meter TransferTag)

theorem onMeter_counts : Meter.Counts (op.adds i) m (op.onMeter now i m) := by
  cases op with
  | touch j =>
    refine .of_eq ?_
    by_cases hji : j = i <;> simp [onMeter, hji]
  | add j n =>
    rw [adds, onMeter]
    split
    · exact Meter.add_counts n
    · exact .of_eq rfl
  | record _ | start _ | finish _ | abandon _ => exact .of_eq rfl

theorem onMeter_listener : (op.onMeter now i m).listener = m.listener := by
  cases op with
  | touch j => by_cases hji : j = i <;> simp [onMeter, hji]
  | add j n => by_cases hji : j = i <;> simp [onMeter, hji]
  | record _ | start _ | finish _ | abandon _ => rfl

theorem onMeter_startedAt :
    (op.onMeter now i m).startedAt = m.startedAt.or (if op.uses i then some now else none) := by
  rcases m with ⟨bytes, _ | start, listener⟩
  · cases op with
    | touch j => by_cases hji : j = i <;> simp [onMeter, uses, Meter.touch, hji]
    | add j n => by_cases hji : j = i <;> simp [onMeter, uses, Meter.add, Meter.touch, hji]
    | record _ | start _ | finish _ | abandon _ => rfl
  · cases op with
    | touch j => by_cases hji : j = i <;> simp [onMeter, Meter.touch, hji]
    | add j n => by_cases hji : j = i <;> simp [onMeter, Meter.add, Meter.touch, hji]
    | record _ | start _ | finish _ | abandon _ => rfl

end LedgerOp

namespace Ledger

variable {l : Ledger} {i : Nat}

/-! ## What a transfer measures -/

/-- The bytes that operations count for a transfer. -/
def added (i : Nat) (ops : List (Instant × LedgerOp)) : Nat := (ops.map fun x => x.2.adds i).sum

/-- When operations first use a transfer. -/
def firstUse? (i : Nat) (ops : List (Instant × LedgerOp)) : Option Instant :=
  (ops.find? fun x => x.2.uses i).map (·.1)

/-- The final numbers of a transfer that is closed after these operations. -/
def measured (i : Nat) (ops : List (Instant × LedgerOp)) (now : Instant) : TransferStats :=
  ⟨added i ops, ((firstUse? i ops).map now.since).getD .zero⟩

/-- What operations make of the open meter of a transfer. -/
def watch (i : Nat) (ops : List (Instant × LedgerOp)) (m : Meter TransferTag) : Meter TransferTag :=
  ops.foldl (fun m x => x.2.onMeter x.1 i m) m

theorem watch_counts (ops : List (Instant × LedgerOp)) (m : Meter TransferTag) :
    Meter.Counts (added i ops) m (watch i ops m) :=
  Meter.foldl_counts (fun m x => x.2.onMeter_counts x.1 i m) ops m

theorem watch_listener (ops : List (Instant × LedgerOp)) (m : Meter TransferTag) :
    (watch i ops m).listener = m.listener := by
  induction ops generalizing m with
  | nil => rfl
  | cons x ops ih => exact (ih _).trans (x.2.onMeter_listener x.1 i m)

theorem watch_startedAt (ops : List (Instant × LedgerOp)) (m : Meter TransferTag) :
    (watch i ops m).startedAt = m.startedAt.or (firstUse? i ops) := by
  induction ops generalizing m with
  | nil => simp [watch, firstUse?]
  | cons x ops ih =>
    change (watch i ops (x.2.onMeter x.1 i m)).startedAt = _
    rw [ih, LedgerOp.onMeter_startedAt, Option.or_assoc]
    by_cases huse : x.2.uses i = true <;> simp [firstUse?, huse]

/-- The meter of a transfer shows what its own operations counted, if a word holds it. -/
theorem watch_stats {ops : List (Instant × LedgerOp)} (hfits : added i ops < UInt64.size) (tag : TransferTag)
    (now : Instant) : (watch i ops tag.meter).stats now = measured i ops now := by
  have hcounts := watch_counts (i := i) ops tag.meter
  rw [Meter.Counts, TransferTag.meter_bytes, Nat.zero_add] at hcounts
  have hstart : (watch i ops tag.meter).startedAt = firstUse? i ops := by
    rw [watch_startedAt]
    rfl
  rw [Meter.stats, measured, hcounts hfits, Meter.elapsed, hstart]
  cases firstUse? i ops <;> rfl

/-! ## The stages of a place -/

/-- A transfer that is not begun logs nothing. -/
theorem own_free {ops : List (Instant × LedgerOp)} (hi : l.meters.length + starts ops ≤ i) :
    own i (l.entries ops) = [] := by
  induction ops generalizing l with
  | nil => rfl
  | cons x ops ih =>
    rw [starts_cons] at hi
    rw [entries, own_append, own_apply_free x.1 x.2 (by omega), ih (by rw [length_apply]; omega)]
    rfl

/-- While nothing closes a transfer it logs nothing, and its meter stays open. -/
theorem own_open {m : Meter TransferTag} (hm : l.meter? i = some m) {ops : List (Instant × LedgerOp)}
    (hops : ∀ x ∈ ops, x.2.closes? ≠ some i) :
    own i (l.entries ops) = [] ∧ (l.run ops).meter? i = some (watch i ops m) := by
  induction ops generalizing l m with
  | nil => exact ⟨rfl, hm⟩
  | cons x ops ih =>
    have hx : x.2.closes? ≠ some i := hops x List.mem_cons_self
    have hnext : (l.apply x.1 x.2).meter? i = some (x.2.onMeter x.1 i m) := by
      rw [meter?_apply x.1 x.2 (lt_of_meter? hm), if_neg hx, hm]
      rfl
    obtain ⟨hown, hend⟩ := ih hnext fun y hy => hops y (List.mem_cons_of_mem _ hy)
    refine ⟨?_, hend⟩
    rw [entries, own_append, own_apply x.1 x.2 (lt_of_meter? hm), if_neg hx, hown]
    rfl

/-- A transfer that is closed logs nothing, and stays closed. -/
theorem own_closed (hi : i < l.meters.length) (hm : l.meter? i = none) (ops : List (Instant × LedgerOp)) :
    own i (l.entries ops) = [] ∧ (l.run ops).meter? i = none := by
  induction ops generalizing l with
  | nil => exact ⟨rfl, hm⟩
  | cons x ops ih =>
    have hnext : (l.apply x.1 x.2).meter? i = none := by
      rw [meter?_apply x.1 x.2 hi, hm]
      simp
    have hlt : i < (l.apply x.1 x.2).meters.length := by
      rw [length_apply]
      omega
    obtain ⟨hown, hend⟩ := ih hlt hnext
    refine ⟨?_, hend⟩
    rw [entries, own_append, own_apply x.1 x.2 hi, hm, hown]
    simp [reportEvents]

/-- Closing an open transfer logs its end and nothing else. -/
theorem own_closing {m : Meter TransferTag} {tag : TransferTag} (hm : l.meter? i = some m)
    (htag : m.listener = some tag) (now : Instant) {op : LedgerOp} (hop : op.closes? = some i) :
    own i (l.entriesOf now op) = [tag.done (m.stats now)] ∧ (l.apply now op).meter? i = none := by
  have hi := lt_of_meter? hm
  rw [own_apply now op hi, meter?_apply now op hi, if_pos hop, if_pos hop, hm]
  exact ⟨dispose_events htag now, rfl⟩

/-- Finishing an open transfer returns the numbers that it logs, and abandoning it logs the same. -/
theorem finish_open {m : Meter TransferTag} {tag : TransferTag} (hm : l.meter? i = some m)
    (htag : m.listener = some tag) (now : Instant) :
    let closed : Ledger := ⟨l.log ++ [tag.done (m.stats now)], l.meters.set i none⟩
    l.finish now i = (some (m.stats now), closed) ∧ l.abandon now i = closed := by
  intro closed
  constructor
  · simp only [finish, hm, List.append_assoc, finish_events htag now]
    rfl
  · simp only [abandon, hm, dispose_events htag now]
    rfl

/-! ## One transfer in a history -/

/-- The transfer that is begun after some operations, and what operations log for it from then on. -/
theorem own_history (before : List (Instant × LedgerOp)) (now : Instant) (tag : TransferTag)
    (during : List (Instant × LedgerOp)) :
    own (starts before) (empty.entries (before ++ (now, .start tag) :: during)) =
      tag.received :: own (starts before) (((empty.run before).start tag).entries during) := by
  have hbefore : own (starts before) (empty.entries before) = [] :=
    own_free (Nat.le_of_eq (Nat.zero_add _))
  have hstart : own (starts before) ((empty.run before).entriesOf now (.start tag)) = [tag.received] := by
    rw [own_entriesOf, transfer?, if_pos (congrArg some (length_run_empty before))]
    rfl
  rw [entries_append, own_append, hbefore, entries, own_append, hstart]
  rfl

theorem meter?_history (before : List (Instant × LedgerOp)) (tag : TransferTag) :
    ((empty.run before).start tag).meter? (starts before) = some tag.meter := by
  rw [← length_run_empty before]
  exact meter?_start tag

theorem run_history (before : List (Instant × LedgerOp)) (now : Instant) (tag : TransferTag)
    (during : List (Instant × LedgerOp)) :
    empty.run (before ++ (now, .start tag) :: during) = ((empty.run before).start tag).run during := by
  rw [run_append]
  rfl

/-! ## The log as a whole -/

/-- Every open meter still has its listener. -/
def Listening (l : Ledger) : Prop := ∀ i m, l.meter? i = some m → ∃ tag, m.listener = some tag

/-- The other events of a log neither begin nor end a transfer. -/
def Undisturbed (ops : List (Instant × LedgerOp)) : Prop :=
  ∀ now e, (now, LedgerOp.record e) ∈ ops → e.isReceived = false ∧ e.isDone = false

theorem Undisturbed.head {x : Instant × LedgerOp} {ops : List (Instant × LedgerOp)} (h : Undisturbed (x :: ops)) :
    ∀ e, x.2 = .record e → e.isReceived = false ∧ e.isDone = false :=
  fun e he => h x.1 e (by simp [← he])

theorem Undisturbed.tail {x : Instant × LedgerOp} {ops : List (Instant × LedgerOp)} (h : Undisturbed (x :: ops)) :
    Undisturbed ops :=
  fun now e he => h now e (List.mem_cons_of_mem _ he)

theorem Listening.apply (h : l.Listening) (now : Instant) (op : LedgerOp) : (l.apply now op).Listening := by
  intro i m hm
  by_cases hi : i < l.meters.length
  · rw [meter?_apply now op hi] at hm
    split at hm
    · cases hm
    · obtain ⟨m', hm', rfl⟩ := Option.map_eq_some_iff.1 hm
      rw [LedgerOp.onMeter_listener]
      exact h i m' hm'
  · -- Only a transfer that was just begun is at a new place.
    have hlt := lt_of_meter? hm
    rw [length_apply] at hlt
    cases op with
    | start tag =>
      obtain rfl : i = l.meters.length := by
        simp only [LedgerOp.isStart, Bool.toNat_true] at hlt
        omega
      obtain rfl := Option.some.inj ((meter?_start tag).symm.trans hm)
      exact ⟨tag, rfl⟩
    | record _ | touch _ | add _ _ | finish _ | abandon _ => exact absurd hlt hi

/-- The open transfer that an operation closes. -/
def closing? (l : Ledger) (op : LedgerOp) : Option Nat := op.closes?.filter fun i => (l.meter? i).isSome

/-- The transfers that operations close, in the order in which they are closed. -/
def closings (l : Ledger) : List (Instant × LedgerOp) → List Nat
  | [] => []
  | (now, op) :: ops => (l.closing? op).toList ++ (l.apply now op).closings ops

/-- What a history says about its `i`-th transfer, after whose beginning these operations came. -/
structure Reported (ops : List (Instant × LedgerOp)) (i : Nat) (tag : TransferTag)
    (during : List (Instant × LedgerOp)) : Prop where
  /-- As long as nothing closes it, the transfer is open and only its beginning is logged. Closing it logs one
  end, either way with the same numbers; finishing also returns these, and disposing of what it leaves reports
  nothing. The numbers are what was measured, if a word holds the bytes. -/
  whileOpen : (∀ x ∈ during, x.2.closes? ≠ some i) →
    own i (empty.entries ops) = [tag.received] ∧
      ∃ m, (empty.run ops).meter? i = some m ∧ ∀ now,
        let closed : Ledger :=
          ⟨(empty.run ops).log ++ [tag.done (m.stats now)], (empty.run ops).meters.set i none⟩
        (empty.run ops).finish now i = (some (m.stats now), closed) ∧
          (empty.run ops).abandon now i = closed ∧ (∀ later, (m.finish now).2.2.dispose later = none) ∧
          (added i during < UInt64.size → m.stats now = measured i during now)
  /-- Once it is closed, its beginning and one end are logged, the end with what it measured until then, if a word
  holds the bytes. -/
  onceClosed : ∀ used now op after, during = used ++ (now, op) :: after →
    (∀ x ∈ used, x.2.closes? ≠ some i) → op.closes? = some i →
      ∃ stats, own i (empty.entries ops) = [tag.received, tag.done stats] ∧ (empty.run ops).meter? i = none ∧
        (added i used < UInt64.size → stats = measured i used now)
  /-- Without the other transfers the same is logged. -/
  withoutOthers : own 0 (empty.entries (alone i 0 ops)) = own i (empty.entries ops)

theorem reported (before : List (Instant × LedgerOp)) (t : Instant) (tag : TransferTag)
    (during : List (Instant × LedgerOp)) :
    Reported (before ++ (t, .start tag) :: during) (starts before) tag during where
  whileOpen hopen := by
    obtain ⟨hown, hmeter⟩ := own_open (meter?_history before tag) hopen
    have hlistener : (watch (starts before) during tag.meter).listener = some tag := watch_listener during tag.meter
    rw [own_history, hown, run_history]
    refine ⟨rfl, _, hmeter, fun now => ?_⟩
    obtain ⟨hfinish, habandon⟩ := finish_open hmeter hlistener now
    exact ⟨hfinish, habandon, fun _ => rfl, fun hfits => watch_stats hfits tag now⟩
  onceClosed used now op after hduring hopen hop := by
    subst hduring
    -- Open until the closing, then closed.
    obtain ⟨hown, hmeter⟩ := own_open (meter?_history before tag) hopen
    have hlistener : (watch (starts before) used tag.meter).listener = some tag := watch_listener used tag.meter
    obtain ⟨hend, hclosed⟩ := own_closing hmeter hlistener now hop
    have hlt := lt_of_meter? hmeter
    obtain ⟨hafter, hfinal⟩ := own_closed (by rw [length_apply]; omega) hclosed after
    refine ⟨(watch (starts before) used tag.meter).stats now, ?_, ?_, fun hfits => watch_stats hfits tag now⟩
    · rw [own_history, entries_append, own_append, hown, entries, own_append, hend, hafter]
      rfl
    · rw [run_history, run_append]
      exact hfinal
  withoutOthers := own_alone (shadows_empty _) _

end Ledger

end Goodput
