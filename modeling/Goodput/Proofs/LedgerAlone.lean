import Goodput.Proofs.LedgerEntries
/-!
# A transfer without the others

We remove the operations on all transfers but one and let that one be the first of the ledger. The ledger that is
left has one place, and this place goes through the same meters as the place of the transfer among the others
(`Shadows`). So what is logged for the transfer is the same (`own_alone`).
-/

namespace Goodput

/-- What is left of an operation when there is only the `i`-th transfer, which is then the first. `k` is how many
transfers were begun. -/
def LedgerOp.alone? (i k : Nat) : LedgerOp → Option LedgerOp
  | .record e => some (.record e)
  | .start tag => if k = i then some (.start tag) else none
  | .touch j => if j = i then some (.touch 0) else none
  | .add j n => if j = i then some (.add 0 n) else none
  | .finish j => if j = i then some (.finish 0) else none
  | .abandon j => if j = i then some (.abandon 0) else none

namespace LedgerOp

variable {i k : Nat} {op op' : LedgerOp}

/-- An operation that stays does to the only transfer what it did to the `i`-th. -/
theorem alone?_eq_some (h : op.alone? i k = some op') :
    op'.isStart = op.isStart ∧ (op.isStart = true → k = i ∧ op' = op) ∧ (op'.closes? = some 0 ↔ op.closes? = some i) ∧
      ∀ now, op'.onMeter now 0 = op.onMeter now i := by
  cases op with
  | record e =>
    obtain rfl := Option.some.inj h
    exact ⟨rfl, fun h => (by cases h), ⟨fun h => (by cases h), fun h => (by cases h)⟩, fun _ => rfl⟩
  | start tag =>
    obtain ⟨hk, rfl⟩ := Option.ite_some_none_eq_some.1 h
    exact ⟨rfl, fun _ => ⟨hk, rfl⟩, ⟨fun h => (by cases h), fun h => (by cases h)⟩, fun _ => rfl⟩
  | touch j =>
    obtain ⟨rfl, rfl⟩ := Option.ite_some_none_eq_some.1 h
    refine ⟨rfl, fun h => (by cases h), ⟨fun h => (by cases h), fun h => (by cases h)⟩, fun now => ?_⟩
    funext m
    simp [onMeter]
  | add j n =>
    obtain ⟨rfl, rfl⟩ := Option.ite_some_none_eq_some.1 h
    refine ⟨rfl, fun h => (by cases h), ⟨fun h => (by cases h), fun h => (by cases h)⟩, fun now => ?_⟩
    funext m
    simp [onMeter]
  | finish j | abandon j =>
    obtain ⟨rfl, rfl⟩ := Option.ite_some_none_eq_some.1 h
    exact ⟨rfl, fun h => (by cases h), ⟨fun _ => rfl, fun _ => rfl⟩, fun _ => rfl⟩

/-- An operation that is removed does nothing to the `i`-th transfer. -/
theorem alone?_eq_none (h : op.alone? i k = none) :
    (op.isStart = true → k ≠ i) ∧ op.closes? ≠ some i ∧ ∀ now m, op.onMeter now i m = m := by
  cases op with
  | record e => cases h
  | start tag =>
    refine ⟨fun _ hk => ?_, fun h => (by cases h), fun _ _ => rfl⟩
    rw [alone?, if_pos hk] at h
    cases h
  | touch j | add j _ | finish j | abandon j =>
    have hji : j ≠ i := by
      rintro rfl
      rw [alone?, if_pos rfl] at h
      cases h
    refine ⟨fun h => (by cases h), by simp [closes?, hji], fun now m => ?_⟩
    simp [onMeter, hji]

end LedgerOp

namespace Ledger

variable {l l' : Ledger} {i : Nat}

/-- The operations that are left when all other transfers are removed, and with `k` transfers begun before. -/
def alone (i : Nat) : Nat → List (Instant × LedgerOp) → List (Instant × LedgerOp)
  | _, [] => []
  | k, (now, op) :: ops => ((op.alone? i k).map fun op' => (now, op')).toList ++ alone i (k + op.isStart.toNat) ops

/-- The only place of one ledger is the `i`-th place of another. -/
structure Shadows (i : Nat) (l l' : Ledger) : Prop where
  place : l'.meter? 0 = l.meter? i
  length : l'.meters.length = if i < l.meters.length then 1 else 0

theorem shadows_empty (i : Nat) : Shadows i empty empty where
  place := (meter?_free (Nat.zero_le 0)).trans (meter?_free (Nat.zero_le i)).symm
  length := rfl

/-- An operation on another transfer does not show. -/
theorem Shadows.skip (h : Shadows i l l') (now : Instant) {op : LedgerOp}
    (hop : op.alone? i l.meters.length = none) :
    own i (l.entriesOf now op) = [] ∧ Shadows i (l.apply now op) l' := by
  obtain ⟨hstart, hcloses, hmeter⟩ := LedgerOp.alone?_eq_none hop
  by_cases hi : i < l.meters.length
  · refine ⟨?_, ?_, ?_⟩
    · rw [own_apply now op hi, if_neg hcloses]
    · rw [meter?_apply now op hi, if_neg hcloses, h.place]
      cases l.meter? i with
      | none => rfl
      | some m => exact congrArg some (hmeter now m).symm
    · rw [h.length, length_apply, if_pos hi, if_pos (by omega)]
  · have hle : l.meters.length + op.isStart.toNat ≤ i := by
      cases hs : op.isStart with
      | false => simp; omega
      | true => have := hstart hs; simp; omega
    refine ⟨own_apply_free now op hle, ?_, ?_⟩
    · rw [h.place, meter?_free (by omega), meter?_free (by rw [length_apply]; omega)]
    · rw [h.length, length_apply, if_neg hi, if_neg (by omega)]

/-- An operation on the transfer does to the only place what it does to its own. -/
theorem Shadows.follow (h : Shadows i l l') (now : Instant) {op op' : LedgerOp}
    (hop : op.alone? i l.meters.length = some op') :
    own 0 (l'.entriesOf now op') = own i (l.entriesOf now op) ∧ Shadows i (l.apply now op) (l'.apply now op') := by
  obtain ⟨hsame, hstart, hcloses, hmeter⟩ := LedgerOp.alone?_eq_some hop
  by_cases hi : i < l.meters.length
  · have h0 : 0 < l'.meters.length := by rw [h.length, if_pos hi]; exact Nat.one_pos
    have hno : op.isStart = false := by
      rw [Bool.eq_false_iff]
      exact fun hs => absurd (hstart hs).1 (by omega)
    refine ⟨?_, ?_, ?_⟩
    · rw [own_apply now op' h0, own_apply now op hi, h.place]
      simp only [hcloses]
    · rw [meter?_apply now op' h0, meter?_apply now op hi, h.place, hmeter]
      simp only [hcloses]
    · rw [length_apply, length_apply, hsame, hno, h.length, if_pos hi, if_pos (by simpa using hi)]
      rfl
  · have h0 : l'.meters.length = 0 := by rw [h.length, if_neg hi]
    cases hs : op.isStart with
    | false =>
      have hs' : op'.isStart = false := hsame.trans hs
      refine ⟨?_, ?_, ?_⟩
      · rw [own_apply_free now op' (by simp [h0, hs']), own_apply_free now op (by simp [hs]; omega)]
      · rw [meter?_free (by simp [length_apply, h0, hs']), meter?_free (by simp [length_apply, hs]; omega)]
      · rw [length_apply, length_apply, hs, hs', h0]
        simp [hi]
    | true =>
      -- The transfer begins here, in both ledgers at the next place.
      obtain ⟨hk, rfl⟩ := hstart hs
      cases op' with
      | start tag =>
        have hnew : ∀ k : Ledger, k.meters.length = 0 → (k.apply now (.start tag)).meter? 0 = some tag.meter := by
          intro k hk0
          rw [← hk0]
          exact meter?_start tag
        refine ⟨?_, ?_, ?_⟩
        · rw [own_entriesOf, own_entriesOf, transfer?, transfer?, h0, hk, if_pos rfl, if_pos rfl]
          rfl
        · rw [hnew l' h0, ← hk]
          exact (meter?_start tag).symm
        · rw [length_apply, length_apply, h0, ← hk]
          simp [LedgerOp.isStart]
      | record _ | touch _ | add _ _ | finish _ | abandon _ => cases hs

theorem own_alone (h : Shadows i l l') (ops : List (Instant × LedgerOp)) :
    own 0 (l'.entries (alone i l.meters.length ops)) = own i (l.entries ops) := by
  induction ops generalizing l l' with
  | nil => rfl
  | cons x ops ih =>
    rw [alone, entries, own_append, ← length_apply]
    cases hop : x.2.alone? i l.meters.length with
    | none =>
      obtain ⟨hown, hnext⟩ := h.skip x.1 hop
      rw [hown]
      exact ih hnext
    | some op' =>
      obtain ⟨hown, hnext⟩ := h.follow x.1 hop
      rw [← hown, ← ih hnext, ← own_append]
      rfl

end Ledger

end Goodput
