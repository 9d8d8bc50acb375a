import Mathlib.Algebra.Ring.Nat
import Goodput.Endpoint
import Goodput.Proofs.Word
/-!
# Meters, field by field

What each operation on a meter does to its count, its clock and its listener, and what the listener of a
transfer's meter is told in the end.

A meter counts in words. `Meter.Counts` is what one count says as long as a word holds the sum, `Meter.add_counts`
says it of one addition, and `Meter.foldl_counts` of a whole run of them.
-/

namespace Goodput

namespace Meter

variable {ρ : Type} (now : Instant) (m : Meter ρ)

@[simp] theorem touch_bytes : (m.touch now).bytes = m.bytes := by
  unfold touch; split <;> rfl

@[simp] theorem touch_listener : (m.touch now).listener = m.listener := by
  unfold touch; split <;> rfl

/-- A clock that runs is not started again. -/
@[simp] theorem touch_touch (later : Instant) : (m.touch now).touch later = m.touch now := by
  rcases m with ⟨bytes, _ | start, listener⟩ <;> rfl

/-! ## Counting without a limit -/

@[simp] theorem tally_bytes (n : Nat) : (m.tally now n).bytes = m.bytes + n := by
  simp [tally]

@[simp] theorem tally_listener (n : Nat) : (m.tally now n).listener = m.listener := by
  simp [tally]

@[simp] theorem touch_tally (n : Nat) : (m.touch now).tally now n = m.tally now n := by
  simp [tally]

@[simp] theorem tally_touch (n : Nat) : (m.tally now n).touch now = m.tally now n := by
  rcases m with ⟨bytes, _ | start, listener⟩ <;> rfl

@[simp] theorem tally_zero : m.tally now 0 = m.touch now := by
  rcases m with ⟨bytes, _ | start, listener⟩ <;> rfl

/-- Counting twice is counting the sum. -/
theorem tally_tally (a b : Nat) : (m.tally now a).tally now b = m.tally now (a + b) := by
  rcases m with ⟨bytes, _ | start, listener⟩ <;> simp [tally, touch, Nat.add_assoc]

/-! ## Counting in words -/

@[simp] theorem add_bytes (n : Nat) : (m.add now n).bytes = (m.bytes + n) % UInt64.size := by
  simp only [add, touch_bytes, Word.toNat_ofNat_add]

@[simp] theorem add_listener (n : Nat) : (m.add now n).listener = m.listener := by
  simp [add]

theorem add_bytes_lt (n : Nat) : (m.add now n).bytes < UInt64.size := by
  rw [add_bytes]
  exact Nat.mod_lt _ (by decide)

@[simp] theorem touch_add (n : Nat) : (m.touch now).add now n = m.add now n := by
  simp [add]

/-- A sum that a word holds is the sum. -/
theorem add_eq_tally {n : Nat} (h : m.bytes + n < UInt64.size) : m.add now n = m.tally now n := by
  simp only [add, tally, touch_bytes, Word.toNat_ofNat_add, Nat.mod_eq_of_lt h]

theorem add_zero (h : m.bytes < UInt64.size) : m.add now 0 = m.touch now := by
  rw [add_eq_tally now m h, tally_zero]

/-- Counting twice is counting the sum, also where it wraps around. -/
theorem add_add (a b : Nat) : (m.add now a).add now b = m.add now (a + b) := by
  have hwords : UInt64.ofNat (UInt64.ofNat m.bytes + UInt64.ofNat a).toNat + UInt64.ofNat b =
      UInt64.ofNat m.bytes + UInt64.ofNat (a + b) := by
    rw [UInt64.ofNat_toNat, UInt64.ofNat_add, UInt64.add_assoc]
  rcases m with ⟨bytes, _ | start, listener⟩ <;> simp only [add, touch, hwords]

/-- A run of sums is one tally of them all, if a word holds the whole. -/
theorem foldl_add_eq_tally {ns : List Nat} (h : m.bytes + ns.sum < UInt64.size) :
    ns.foldl (fun m n => m.add now n) (m.touch now) = m.tally now ns.sum := by
  induction ns generalizing m with
  | nil => exact (m.tally_zero now).symm
  | cons n ns ih =>
    rw [List.sum_cons] at h
    have hnext := ih (m.tally now n) (by rw [tally_bytes]; omega)
    rw [tally_touch] at hnext
    rw [List.foldl_cons, touch_add, add_eq_tally now m (by omega), hnext, tally_tally, List.sum_cons]

variable {now m}

/-- The second meter shows `n` bytes more than the first, if a word holds so many. -/
def Counts (n : Nat) (m m' : Meter ρ) : Prop := m.bytes + n < UInt64.size → m'.bytes = m.bytes + n

theorem Counts.of_eq {m' : Meter ρ} (h : m'.bytes = m.bytes) : Counts 0 m m' := fun _ => h

theorem add_counts (n : Nat) : Counts n m (m.add now n) := fun h => by
  rw [add_eq_tally now m h, tally_bytes]

/-- The whole fits a word only if its parts do. -/
theorem Counts.trans {a b : Nat} {m' m'' : Meter ρ} (h : Counts a m m') (h' : Counts b m' m'') :
    Counts (a + b) m m'' := by
  intro hfits
  have hfirst := h (by omega)
  rw [h' (by omega), hfirst, Nat.add_assoc]

/-- A run of steps counts the sum of what its steps count. -/
theorem foldl_counts {α : Type} {f : Meter ρ → α → Meter ρ} {n : α → Nat} (hstep : ∀ m x, Counts (n x) m (f m x))
    (xs : List α) (m : Meter ρ) : Counts (xs.map n).sum m (xs.foldl f m) := by
  induction xs generalizing m with
  | nil => exact .of_eq rfl
  | cons x xs ih =>
    rw [List.map_cons, List.sum_cons, List.foldl_cons]
    exact (hstep m x).trans (ih (f m x))

end Meter

namespace TransferTag

@[simp] theorem meter_bytes (t : TransferTag) : t.meter.bytes = 0 := rfl

@[simp] theorem meter_listener (t : TransferTag) : t.meter.listener = some t := rfl

/-- A transfer that begins and ends at one reading of the clock has taken no time. -/
theorem meter_add_stats (t : TransferTag) (now : Instant) {n : Nat} (h : n < UInt64.size) :
    (t.meter.add now n).stats now = ⟨n, .zero⟩ := by
  rw [Meter.add_eq_tally now t.meter (by rwa [meter_bytes, Nat.zero_add])]
  simp [Meter.stats, meter, Meter.withListener, Meter.tally, Meter.touch, Meter.elapsed, Instant.since, Span.zero]

end TransferTag

/-! ## Reports -/

/-- A transfer with a size has to reach the length of its range, or the size where it has none. -/
theorem TransferOutcome.expected_of_size {o : TransferOutcome} {size : Nat}
    (h : o.request.extent = .bytes size) : o.expected = some ((o.range.map (·.len)).getD size) := by
  unfold expected
  rw [h]
  cases o.range <;> rfl

theorem TransferOutcome.isComplete_iff {o : TransferOutcome} {n : Nat} (h : o.expected = some n) :
    o.isComplete = true ↔ o.stats.bytes = n := by
  rw [isComplete, h]
  exact beq_iff_eq

/-- A transfer that was begun and reported has one outcome. -/
theorem TransferTag.mem_completions {t : TransferTag} {stats : TransferStats} {o : TransferOutcome} :
    o ∈ Event.completions [t.received, t.done stats] ↔ o = ⟨t.request, t.range, t.conn, stats⟩ :=
  List.mem_singleton

/-- Disposing of a meter that somebody listens to reports its numbers. -/
theorem dispose_events {m : Meter TransferTag} {t : TransferTag} (h : m.listener = some t) (now : Instant) :
    reportEvents (m.dispose now) = [t.done (m.stats now)] := by
  simp [Meter.dispose, Meter.report?, h, reportEvents]

/-- Finishing a meter reports its numbers, and disposing of what is left reports nothing more. -/
theorem finish_events {m : Meter TransferTag} {t : TransferTag} (h : m.listener = some t) (now : Instant) :
    reportEvents (m.finish now).2.1 ++ reportEvents ((m.finish now).2.2.dispose now) = [t.done (m.stats now)] := by
  simp [Meter.finish, Meter.dispose, Meter.report?, h, reportEvents]

end Goodput
