import Goodput.Proofs.Meter
/-!
# The log of a ledger, entry by entry

Transfers that ask for the same thing log equal events, so the log alone does not say which transfer an event
belongs to. We keep the number of the transfer beside each event: `entries` is the log of a run in this form
(`log_run`), and `own i` picks the events of the `i`-th transfer.

What carries the rest is that the places of a ledger are independent. `meter?_apply` says what any operation
leaves at a place that is taken, and `own_apply` what it logs for the transfer there; everything later goes
through these two and does not look at the operations again.
-/

namespace Goodput

namespace Event

/-- The event opens a transfer. -/
def isReceived : Event → Bool
  | .requestReceived _ _ _ => true
  | _ => false

/-- The event ends a transfer. -/
def isDone (e : Event) : Bool := e.outcome?.isSome

end Event

namespace LedgerOp

/-- The operation begins a transfer. -/
def isStart : LedgerOp → Bool
  | .start _ => true
  | _ => false

/-- The transfer that the operation closes if it is open. -/
def closes? : LedgerOp → Option Nat
  | .finish i | .abandon i => some i
  | .record _ | .start _ | .touch _ | .add _ _ => none

/-- The operation starts the clock of a transfer if it does not run. -/
def uses (i : Nat) : LedgerOp → Bool
  | .touch j | .add j _ => j == i
  | .record _ | .start _ | .finish _ | .abandon _ => false

/-- The bytes that the operation counts for a transfer. -/
def adds (i : Nat) : LedgerOp → Nat
  | .add j n => if j = i then n else 0
  | .record _ | .start _ | .touch _ | .finish _ | .abandon _ => 0

/-- What the operation makes of the open meter of a transfer. -/
def onMeter (now : Instant) (i : Nat) (op : LedgerOp) (m : Meter TransferTag) : Meter TransferTag :=
  match op with
  | .touch j => if j = i then m.touch now else m
  | .add j n => if j = i then m.add now n else m
  | .record _ | .start _ | .finish _ | .abandon _ => m

end LedgerOp

/-- An event with the number of the transfer whose operation logged it, if it was one. -/
structure Entry where
  transfer? : Option Nat
  event : Event
deriving Repr, DecidableEq, Inhabited

/-- The events of one transfer. -/
def own (i : Nat) (entries : List Entry) : List Event :=
  (entries.filter fun e => e.transfer? == some i).map (·.event)

@[simp] theorem own_append (i : Nat) (es fs : List Entry) : own i (es ++ fs) = own i es ++ own i fs := by
  simp [own]

/-- The entries of one operation are all of one transfer, or of none. -/
theorem own_map (i : Nat) (t : Option Nat) (events : List Event) :
    own i (events.map (Entry.mk t)) = if t = some i then events else [] := by
  by_cases ht : t = some i
  · simp [own, List.filter_map, Function.comp_def, ht]
  · simp [own, List.filter_map, Function.comp_def, ht]

namespace Ledger

variable (l : Ledger) (now : Instant) (op : LedgerOp)

/-- The transfer that an operation is on. -/
def transfer? : LedgerOp → Option Nat
  | .record _ => none
  | .start _ => some l.meters.length
  | .touch i | .add i _ | .finish i | .abandon i => some i

/-- The events that an operation logs. -/
def logged : LedgerOp → List Event
  | .record e => [e]
  | .start tag => [tag.received]
  | .touch _ | .add _ _ => []
  | .finish i | .abandon i => reportEvents ((l.meter? i).bind (·.report? now))

/-- The entries of one operation. -/
def entriesOf : List Entry := (l.logged now op).map (Entry.mk (l.transfer? op))

/-- The entries of operations in order. -/
def entries (l : Ledger) : List (Instant × LedgerOp) → List Entry
  | [] => []
  | (now, op) :: ops => l.entriesOf now op ++ (l.apply now op).entries ops

@[simp] theorem log_modify (j : Nat) (f : Meter TransferTag → Meter TransferTag) :
    (l.modify j f).log = l.log := by
  unfold modify
  split <;> rfl

@[simp] theorem length_modify (j : Nat) (f : Meter TransferTag → Meter TransferTag) :
    (l.modify j f).meters.length = l.meters.length := by
  unfold modify
  split <;> simp

theorem length_apply : (l.apply now op).meters.length = l.meters.length + op.isStart.toNat := by
  cases op with
  | record e => rfl
  | start tag => simp [apply, start, LedgerOp.isStart]
  | touch i => exact l.length_modify i _
  | add i n => exact l.length_modify i _
  | finish i =>
    simp only [apply, finish, LedgerOp.isStart]
    cases l.meter? i <;> simp
  | abandon i =>
    simp only [apply, abandon, LedgerOp.isStart]
    cases l.meter? i <;> simp

variable {l} {i : Nat}

theorem meter?_free (hi : l.meters.length ≤ i) : l.meter? i = none := by
  rw [meter?, List.getElem?_eq_none hi]
  rfl

/-- Only a place that is taken can hold an open meter. -/
theorem lt_of_meter? {m : Meter TransferTag} (h : l.meter? i = some m) : i < l.meters.length := by
  rcases Nat.lt_or_ge i l.meters.length with hi | hi
  · exact hi
  · cases (meter?_free hi).symm.trans h

theorem meter?_modify (j : Nat) (f : Meter TransferTag → Meter TransferTag) :
    (l.modify j f).meter? i = if j = i then (l.meter? i).map f else l.meter? i := by
  unfold modify
  by_cases hji : j = i
  · subst hji
    cases hm : l.meter? j with
    | none => simp [hm]
    | some m => simp [meter?, lt_of_meter? hm]
  · cases hm : l.meter? j with
    | none => simp [hji]
    | some m => simp [meter?, hji]

/-- What a closing leaves at the places, whatever it logs. -/
theorem meter?_close (log : List Event) (j : Nat) :
    (Ledger.mk log (l.meters.set j none)).meter? i = if j = i then none else l.meter? i := by
  by_cases hji : j = i
  · subst hji
    by_cases hj : j < l.meters.length <;> simp [meter?, hj]
  · simp [meter?, hji]

/-- Closing what is closed already would leave the places as they are. -/
theorem meter?_of_closed {j : Nat} (hm : l.meter? j = none) (i : Nat) :
    l.meter? i = if j = i then none else l.meter? i := by
  by_cases hji : j = i
  · rw [if_pos hji, ← hji, hm]
  · rw [if_neg hji]

theorem meter?_finish (j : Nat) : (l.finish now j).2.meter? i = if j = i then none else l.meter? i := by
  unfold finish
  cases hm : l.meter? j with
  | none => exact meter?_of_closed hm i
  | some m => exact meter?_close _ j

theorem meter?_abandon (j : Nat) : (l.abandon now j).meter? i = if j = i then none else l.meter? i := by
  unfold abandon
  cases hm : l.meter? j with
  | none => exact meter?_of_closed hm i
  | some m => exact meter?_close _ j

/-- What an operation leaves at a place that is taken. -/
theorem meter?_apply (hi : i < l.meters.length) :
    (l.apply now op).meter? i = if op.closes? = some i then none else (l.meter? i).map (op.onMeter now i) := by
  have hsame : ∀ m : Option (Meter TransferTag), m.map (fun m => m) = m := by simp
  cases op with
  | record e => exact (hsame _).symm
  | start tag =>
    refine Eq.trans ?_ (hsame _).symm
    simp [apply, start, meter?, List.getElem?_append_left hi]
  | touch j =>
    refine (meter?_modify j _).trans ?_
    cases l.meter? i <;> by_cases hji : j = i <;> simp [LedgerOp.closes?, LedgerOp.onMeter, hji]
  | add j n =>
    refine (meter?_modify j _).trans ?_
    cases l.meter? i <;> by_cases hji : j = i <;> simp [LedgerOp.closes?, LedgerOp.onMeter, hji]
  | finish j =>
    rw [show (l.meter? i).map (LedgerOp.onMeter now i (.finish j)) = l.meter? i from hsame _]
    simpa [LedgerOp.closes?, apply] using meter?_finish now j
  | abandon j =>
    rw [show (l.meter? i).map (LedgerOp.onMeter now i (.abandon j)) = l.meter? i from hsame _]
    simpa [LedgerOp.closes?, apply] using meter?_abandon now j

@[simp] theorem meter?_start (tag : TransferTag) : (l.start tag).meter? l.meters.length = some tag.meter := by
  simp [start, meter?]

theorem own_entriesOf : own i (l.entriesOf now op) = if l.transfer? op = some i then l.logged now op else [] :=
  own_map i _ _

/-- What an operation logs for the transfer at a place that is taken: the end, if it closes an open meter. -/
theorem own_apply (hi : i < l.meters.length) :
    own i (l.entriesOf now op) =
      if op.closes? = some i then reportEvents ((l.meter? i).bind (·.report? now)) else [] := by
  rw [own_entriesOf]
  cases op with
  | record e => simp [transfer?, LedgerOp.closes?]
  | start tag => simp [transfer?, LedgerOp.closes?, Nat.ne_of_gt hi]
  | touch j => simp [logged, LedgerOp.closes?]
  | add j n => simp [logged, LedgerOp.closes?]
  | finish j | abandon j =>
    simp only [transfer?, LedgerOp.closes?, Option.some.injEq, logged]
    split
    · rename_i h; rw [h]
    · rfl

/-- A place that is not taken logs nothing unless the next transfer gets it. -/
theorem own_apply_free (hi : l.meters.length + op.isStart.toNat ≤ i) : own i (l.entriesOf now op) = [] := by
  rw [own_entriesOf]
  have hfree : l.meter? i = none := meter?_free (by omega)
  cases op with
  | record e => simp [transfer?]
  | start tag =>
    have hne : l.meters.length ≠ i := by
      simp only [LedgerOp.isStart, Bool.toNat_true] at hi
      omega
    simp [transfer?, hne]
  | touch j => simp [logged]
  | add j n => simp [logged]
  | finish j | abandon j =>
    simp only [transfer?, Option.some.injEq, logged]
    split
    · rename_i h
      rw [h, hfree]
      rfl
    · rfl

/-! ## Many operations -/

variable (l) (ops more : List (Instant × LedgerOp))

@[simp] theorem run_nil : l.run [] = l := rfl

@[simp] theorem run_cons : l.run ((now, op) :: ops) = (l.apply now op).run ops := rfl

theorem run_append : l.run (ops ++ more) = (l.run ops).run more := List.foldl_append

theorem entries_append : l.entries (ops ++ more) = l.entries ops ++ (l.run ops).entries more := by
  induction ops generalizing l with
  | nil => rfl
  | cons x ops ih =>
    change l.entriesOf x.1 x.2 ++ (l.apply x.1 x.2).entries (ops ++ more) = _
    rw [ih, ← List.append_assoc]
    rfl

/-- How many transfers operations begin. -/
def starts (ops : List (Instant × LedgerOp)) : Nat := ops.countP fun x => x.2.isStart

theorem starts_cons : starts ((now, op) :: ops) = op.isStart.toNat + starts ops := by
  cases h : op.isStart <;> simp [starts, h, Nat.add_comm]

theorem length_run : (l.run ops).meters.length = l.meters.length + starts ops := by
  induction ops generalizing l with
  | nil => rfl
  | cons x ops ih => rw [run_cons, ih, length_apply, starts_cons, Nat.add_assoc]

/-- Each transfer gets the next place, so as many are taken as were begun. -/
theorem length_run_empty : (empty.run ops).meters.length = starts ops :=
  (length_run empty ops).trans (Nat.zero_add _)

end Ledger

end Goodput
