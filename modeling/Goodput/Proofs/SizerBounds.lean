import Goodput.Proofs.FloodSchedule
/-!
# Bounds on message sizes

Whatever totals a sizer is told, in whatever order, its size follows from the number of changes alone: `Grown` is the
invariant, which one observation keeps (`Grown.observe`) and so does any row of them (`Grown.observed`). The bounds on
sizes come from it, and from the cases of one observation (`observe_cases`). `size_follows_changes` states them, with
the same observations in 64-bit words.
-/

namespace Goodput.Ndt7

namespace MessageSizer

/-- The sizer after totals in order. -/
def observed (z : MessageSizer) (totals : List Nat) : MessageSizer := totals.foldl (fun z sent => (z.observe sent).2) z

/-- How many of the totals changed the size. -/
def changes (z : MessageSizer) (totals : List Nat) : Nat := (z.observeAll totals).countP (·.1)

/-- The sizer started at size `s` under the cap `c` and has changed `k` times since. -/
structure Grown (s c k : Nat) (z : MessageSizer) : Prop where
  size : z.size = min (s * 2 ^ k) c
  cap : z.cap = c

variable {s c k : Nat} {z : MessageSizer}

/-! ## One observation -/

/-- An observation doubles the size up to the cap, or leaves the sizer alone. -/
theorem observe_cases (z : MessageSizer) (sent : Nat) :
    (z.observe sent = (true, ⟨min (z.size * 2) z.cap, z.cap⟩) ∧ z.size < z.cap ∧ 16 * z.size ≤ sent) ∨
    (z.observe sent = (false, z) ∧ ¬ (z.size < z.cap ∧ 16 * z.size ≤ sent)) := by
  have hgrows : z.grows sent = true ↔ z.size < z.cap ∧ 16 * z.size ≤ sent := by
    rw [grows, Bool.and_eq_true, decide_eq_true_eq, decide_eq_true_eq, Nat.mul_comm, scalingFraction]
  unfold observe
  split
  · rename_i h
    exact .inl ⟨rfl, hgrows.1 h⟩
  · rename_i h
    exact .inr ⟨rfl, mt hgrows.2 h⟩

theorem Grown.observe (h : Grown s c k z) (sent : Nat) :
    Grown s c (k + (z.observe sent).1.toNat) (z.observe sent).2 := by
  rcases z.observe_cases sent with ⟨hobserve, hbelow, -⟩ | ⟨hobserve, -⟩
  · rw [hobserve]
    refine ⟨?_, h.cap⟩
    have hsize := h.size
    have hcap := h.cap
    change min (z.size * 2) z.cap = min (s * 2 ^ (k + 1)) c
    rw [Nat.pow_succ, ← Nat.mul_assoc]
    omega
  · rw [hobserve]
    exact h

/-! ## Observations in order -/

theorem observeAll_cons (z : MessageSizer) (sent : Nat) (totals : List Nat) :
    z.observeAll (sent :: totals) = z.observe sent :: (z.observe sent).2.observeAll totals := rfl

theorem changes_cons (z : MessageSizer) (sent : Nat) (totals : List Nat) :
    z.changes (sent :: totals) = (z.observe sent).1.toNat + (z.observe sent).2.changes totals := by
  rw [changes, observeAll_cons, List.countP_cons, Nat.add_comm, changes]
  cases (z.observe sent).1 <;> rfl

/-- The answer to one more total is that of the sizer after the totals before it. -/
theorem observeAll_concat (z : MessageSizer) (totals : List Nat) (sent : Nat) :
    z.observeAll (totals ++ [sent]) = z.observeAll totals ++ [(z.observed totals).observe sent] := by
  induction totals generalizing z with
  | nil => rfl
  | cons total totals ih => rw [List.cons_append, observeAll_cons, observeAll_cons, ih, List.cons_append]; rfl

theorem Grown.observed (h : Grown s c k z) (totals : List Nat) :
    Grown s c (k + z.changes totals) (z.observed totals) := by
  induction totals generalizing z k with
  | nil => exact h
  | cons sent totals ih =>
    rw [changes_cons, ← Nat.add_assoc]
    exact ih (h.observe sent)

/-- A sizer at its cap answers every total alike. -/
theorem observeAll_full (hfull : z.size = z.cap) (totals : List Nat) : ∀ r ∈ z.observeAll totals, r = (false, z) := by
  induction totals with
  | nil => exact fun r hr => nomatch hr
  | cons sent totals ih =>
    have hstays : z.observe sent = (false, z) := by
      rcases z.observe_cases sent with ⟨-, hbelow, -⟩ | ⟨hobserve, -⟩
      · omega
      · exact hobserve
    rw [observeAll_cons, hstays]
    exact List.forall_mem_cons.2 ⟨rfl, ih⟩

end MessageSizer

/-! ## The same observations in words -/

namespace WordSizer

/-- Take note of totals in order, as `MessageSizer.observeAll` does. -/
def noteAll? : List UInt64 → WordSizer → Option (List (Bool × WordSizer))
  | [], _ => some []
  | sent :: totals, z => do
    let (changed, z) ← z.note? sent
    let later ← noteAll? totals z
    return (changed, z) :: later

/-- Where sixteen times the cap fits a word, no observation leaves the words. -/
theorem noteAll?_eq (totals : List UInt64) {z : WordSizer} (hcap : 16 * z.cap.toNat < UInt64.size) :
    (noteAll? totals z).map (List.map fun (changed, z) => (changed, z.toSizer)) =
      some (z.toSizer.observeAll (totals.map UInt64.toNat)) := by
  induction totals generalizing z with
  | nil => rfl
  | cons sent totals ih =>
    obtain ⟨next, hnext, hsizer⟩ := note?_eq hcap sent
    have hnextCap : next.cap.toNat = z.cap.toNat := by
      change next.toSizer.cap = z.toSizer.cap
      rw [hsizer, observe_cap]
    obtain ⟨later, hlater, hrest⟩ := Option.map_eq_some_iff.1 (ih (by rwa [hnextCap]))
    rw [noteAll?, hnext]
    simp only [Option.bind_eq_bind, Option.bind_some, hlater]
    rw [List.map_cons, MessageSizer.observeAll_cons, ← hsizer, ← hrest]
    simp [hsizer]

end WordSizer

namespace MessageSizer

/-- One observation of a sizer that has not passed its cap. -/
structure Bounded (c sent : Nat) (z : MessageSizer) (changed : Bool) (next : MessageSizer) : Prop where
  /-- It says so exactly if it changed the size. -/
  told : changed = true ↔ next.size ≠ z.size
  due : changed = true ↔ z.size < c ∧ 16 * z.size ≤ sent
  grows : z.size ≤ next.size
  within : next.size ≤ c
  doubles : next.size ≤ 2 * z.size

theorem observe_bounded (hpos : 0 < z.size) (hcap : z.cap = c) (hwithin : z.size ≤ c) (sent : Nat) :
    Bounded c sent z (z.observe sent).1 (z.observe sent).2 := by
  rcases z.observe_cases sent with ⟨hobserve, hdue⟩ | ⟨hobserve, hearly⟩
  · rw [hobserve]
    have hnext : min (z.size * 2) z.cap ≠ z.size := by omega
    exact ⟨iff_of_true rfl hnext, iff_of_true rfl (hcap ▸ hdue), Nat.le_min.2 ⟨by omega, by omega⟩,
      hcap ▸ Nat.min_le_right _ _, Nat.mul_comm z.size 2 ▸ Nat.min_le_left _ _⟩
  · rw [hobserve]
    exact ⟨iff_of_false Bool.false_ne_true (fun h => h rfl), iff_of_false Bool.false_ne_true (hcap ▸ hearly),
      Nat.le_refl _, hwithin, Nat.le_mul_of_pos_left _ (by decide)⟩

/-- Take any initial size, any cap and any totals, rising or not, and let `k` of the observations have changed the size
so far. Then the size is the initial size, brought between one and the cap, doubled `k` times and cut at the cap. The
next observation changes the size exactly if it is below the cap and the total is at least sixteen times it, says so
exactly then, and at most doubles it, never beyond the cap and never down; at the cap no observation changes it again.
Where sixteen times the cap fits a word, the observations in words are these, and none of them leaves the words. -/
theorem size_follows_changes (initial cap : UInt64) (totals : List UInt64) :
    let c := max cap.toNat 1
    let s := min (max initial.toNat 1) c
    let start := new initial.toNat cap.toNat
    let seen := totals.map UInt64.toNat
    let z := start.observed seen
    let k := (start.observeAll seen).countP (·.1)
    (z.size = min (s * 2 ^ k) c ∧ z.cap = c) ∧
    (∀ sent, start.observeAll (seen ++ [sent]) = start.observeAll seen ++ [z.observe sent] ∧
      Bounded c sent z (z.observe sent).1 (z.observe sent).2) ∧
    (z.size = c → ∀ later, ∀ r ∈ z.observeAll later, r = (false, z)) ∧
    (16 * cap.toNat < UInt64.size →
      (WordSizer.noteAll? totals (.new initial cap)).map (List.map fun (changed, z) => (changed, z.toSizer)) =
        some (start.observeAll seen)) := by
  intro c s start seen z k
  have hfirst : Grown s c 0 start := ⟨by simp [start, new, s, c], rfl⟩
  have hgrown : Grown s c k z := by
    have h := hfirst.observed seen
    rwa [Nat.zero_add] at h
  have hpos : 0 < z.size := by
    have hs : 0 < s := by
      simp only [s, c]
      omega
    have hproduct := Nat.mul_pos hs (Nat.two_pow_pos k)
    rw [hgrown.size]
    simp only [c]
    omega
  have hwithin : z.size ≤ c := hgrown.size ▸ Nat.min_le_right _ _
  refine ⟨⟨hgrown.size, hgrown.cap⟩, fun sent => ⟨start.observeAll_concat seen sent, ?_⟩, fun hfull later => ?_,
    fun hcap => ?_⟩
  · exact observe_bounded hpos hgrown.cap hwithin sent
  · exact observeAll_full (hfull.trans hgrown.cap.symm) later
  · have hwords := WordSizer.noteAll?_eq totals (z := .new initial cap)
    rw [WordSizer.toSizer_new] at hwords
    refine hwords ?_
    simp only [WordSizer.new, Word.toNat_max]
    change 16 * max cap.toNat 1 < _
    have hone : 16 * 1 < UInt64.size := by decide
    omega

/-- Totals that rise and fall: four of six observations change the size, the last of them up to the cap only, and from
then on even the largest total changes nothing. -/
theorem four_changes_of_six :
    let start := new (UInt64.toNat 3) (UInt64.toNat 40)
    let seen := [48, 5, 100, 200, 384, 0]
    let z := start.observed seen
    16 * UInt64.toNat 40 < UInt64.size ∧
      (start.observeAll seen).map (fun r => (r.1, r.2.size)) =
        [(true, 6), (false, 6), (true, 12), (true, 24), (true, 40), (false, 40)] ∧
      z.size = min (3 * 2 ^ 4) 40 ∧ (∀ r ∈ z.observeAll [18446744073709551615], r = (false, z)) ∧
      (WordSizer.noteAll? [48, 5, 100, 200, 384, 0] (.new 3 40)).map
        (List.map fun (changed, z) => (changed, z.toSizer)) = some (start.observeAll seen) := by
  intro start seen z
  obtain ⟨⟨hsize, -⟩, -, hfull, hwords⟩ := size_follows_changes 3 40 [48, 5, 100, 200, 384, 0]
  have hcap : 16 * UInt64.toNat 40 < UInt64.size := by decide
  have hend : z.size = min (3 * 2 ^ 4) 40 := hsize
  exact ⟨hcap, by decide, hend, hfull hend _, hwords hcap⟩

end MessageSizer

end Goodput.Ndt7
