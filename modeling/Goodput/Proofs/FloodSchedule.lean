import Mathlib.Order.Bounds.Basic
import Mathlib.Tactic.Ring
import Goodput.Ndt7.Sizer
import Goodput.Proofs.Word
/-!
# The schedule of message sizes

Under a flood the size doubles each time the bytes sent reach sixteen times the size, a bar that rises with every
change. We prove that the bar is always met exactly: it takes sixteen messages to reach it first and eight messages
each time after that, so the sizes depend on the number of messages alone. `flood_follows_schedule` is the whole
schedule, with the same flood in 64-bit words.
-/

namespace Goodput.Ndt7

namespace MessageSizer

/-! ## The schedule -/

/-- The doublings that are due after `k` messages: the first after sixteen, then one after every eight. -/
def doublings (k : Nat) : Nat := (k - 8) / 8

/-- The `j`-th change of a flood that starts at size `s` under the cap `c`. -/
def scheduled (s c j : Nat) : Change := ⟨16 + 8 * (j - 1), 16 * (s * 2 ^ (j - 1)), min (s * 2 ^ j) c⟩

def schedule (s c m : Nat) : List Change := (List.range' 1 m).map (scheduled s c)

/-- A flood after `k` messages. While the cap is not reached, the bytes sent are a whole number of messages of the
current size: those sent since the last change, and eight for all before it. -/
structure OnSchedule (s c k sent : Nat) (z : MessageSizer) : Prop where
  size : z.size = min (s * 2 ^ doublings k) c
  cap : z.cap = c
  sent : z.size < c → sent = (k - 8 * doublings k) * z.size

variable {s c k sent : Nat} {z : MessageSizer}

/-- What one more message does. The size changes only where the next doubling is due, and then the bytes sent are
exactly sixteen times the size. -/
theorem OnSchedule.observe (hs : 0 < s) (h : OnSchedule s c k sent z) :
    ((doublings (k + 1) = doublings k ∨ c ≤ s * 2 ^ doublings k) ∧ z.observe (sent + z.size) = (false, z)) ∨
    ((k + 1 = 16 + 8 * doublings k ∧ s * 2 ^ doublings k < c) ∧ sent + z.size = 16 * (s * 2 ^ doublings k) ∧
      z.observe (sent + z.size) = (true, ⟨min (s * 2 ^ (doublings k + 1)) c, c⟩)) := by
  obtain ⟨hsize, hcap, hsent⟩ := h
  by_cases hbelow : s * 2 ^ doublings k < c
  · -- The bytes sent are a whole number of messages of this size, so sixteen of them are met and never passed.
    have hz : z.size = s * 2 ^ doublings k := by omega
    have hpos : 0 < z.size := hz ▸ Nat.mul_pos hs (Nat.two_pow_pos _)
    have htotal : sent + z.size = (k + 1 - 8 * doublings k) * z.size := by
      rw [hsent (by omega), ← Nat.succ_mul]
      congr 1
      unfold doublings
      omega
    by_cases hdue : k + 1 = 16 + 8 * doublings k
    · have hbar : sent + z.size = 16 * (s * 2 ^ doublings k) := by
        rw [htotal, hdue, Nat.add_sub_cancel, hz]
      refine .inr ⟨⟨hdue, hbelow⟩, hbar, ?_⟩
      have hgrows : z.grows (sent + z.size) = true := by
        simp only [grows, scalingFraction, hcap, hz, Bool.and_eq_true, decide_eq_true_eq]
        exact ⟨hbelow, by omega⟩
      rw [MessageSizer.observe, if_pos hgrows, hcap, hz, Nat.pow_succ, ← Nat.mul_assoc]
    · have hearly : k + 1 - 8 * doublings k < 16 := by
        unfold doublings at *
        omega
      have hstays : ¬ z.grows (sent + z.size) = true := by
        simp only [grows, scalingFraction, Bool.and_eq_true, decide_eq_true_eq, not_and, Nat.not_le, htotal]
        intro _
        rw [Nat.mul_comm z.size]
        exact Nat.mul_lt_mul_of_pos_right hearly hpos
      refine .inl ⟨.inl ?_, by rw [MessageSizer.observe, if_neg hstays]⟩
      unfold doublings at *
      omega
  · have hstays : ¬ z.grows (sent + z.size) = true := by
      simp only [grows, Bool.and_eq_true, decide_eq_true_eq, not_and]
      omega
    exact .inl ⟨.inr (by omega), by rw [MessageSizer.observe, if_neg hstays]⟩

theorem OnSchedule.next (hs : 0 < s) (h : OnSchedule s c k sent z) :
    OnSchedule s c (k + 1) (sent + z.size) (z.observe (sent + z.size)).2 := by
  have hle : doublings k ≤ doublings (k + 1) := by
    unfold doublings
    omega
  have hpow : s * 2 ^ doublings k ≤ s * 2 ^ doublings (k + 1) :=
    Nat.mul_le_mul_left s (Nat.pow_le_pow_right (by decide) hle)
  rcases h.observe hs with ⟨hkeeps, hobserve⟩ | ⟨⟨hdue, hbelow⟩, hbar, hobserve⟩
  · rw [hobserve]
    have hsize := h.size
    refine ⟨?_, h.cap, fun hz => ?_⟩ <;> dsimp only at *
    · rcases hkeeps with hsame | hfull
      · rw [hsame, hsize]
      · omega
    · have hsame : doublings (k + 1) = doublings k := hkeeps.resolve_right (by omega)
      rw [h.sent hz, ← Nat.succ_mul, hsame]
      congr 1
      unfold doublings
      omega
  · have hnext : doublings (k + 1) = doublings k + 1 := by
      unfold doublings at *
      omega
    rw [hobserve]
    refine ⟨by rw [hnext], rfl, fun hz => ?_⟩
    change min (s * 2 ^ (doublings k + 1)) c < c at hz
    change sent + z.size = (k + 1 - 8 * doublings (k + 1)) * min (s * 2 ^ (doublings k + 1)) c
    rw [Nat.min_eq_left (by omega), hbar, hnext, Nat.pow_succ, show k + 1 - 8 * (doublings k + 1) = 8 by omega]
    ring

/-! ## A flood, message by message -/

theorem flood_cons (n i sent : Nat) (z : MessageSizer) :
    flood (n + 1) i sent z =
      let (changed, next) := z.observe (sent + z.size)
      let (total, last, changes) := flood n (i + 1) (sent + z.size) next
      (total, last, (if changed then [⟨i, sent + z.size, next.size⟩] else []) ++ changes) := by
  rw [flood]
  dsimp only
  split <;> rfl

/-- A flood of one more message is the flood before it and then the message. -/
theorem flood_concat (n i sent : Nat) (z : MessageSizer) :
    flood (n + 1) i sent z =
      let (total, last, changes) := flood n i sent z
      let (changed, next) := last.observe (total + last.size)
      (total + last.size, next, changes ++ if changed then [⟨i + n, total + last.size, next.size⟩] else []) := by
  induction n generalizing i sent z with
  | zero => rw [flood_cons]; simp [flood]
  | succ n ih =>
    rw [flood_cons (n + 1) i, flood_cons n i]
    simp only [ih, List.append_assoc, Nat.add_assoc, Nat.add_comm 1 n]

variable (hs : 0 < s)
include hs

theorem flood_onSchedule (hsc : s ≤ c) (n : Nat) :
    OnSchedule s c n (flood n 1 0 ⟨s, c⟩).1 (flood n 1 0 ⟨s, c⟩).2.1 := by
  induction n with
  | zero => exact ⟨by simp [flood, doublings, hsc], rfl, fun _ => by simp [flood]⟩
  | succ n ih =>
    rw [flood_concat]
    exact ih.next hs

/-- The changes are those that are due, up to the `m`-th, which reaches the cap. -/
theorem flood_changes (hsc : s ≤ c) {m : Nat} (hm : ∀ j, s * 2 ^ j < c ↔ j < m) (n : Nat) :
    (flood n 1 0 ⟨s, c⟩).2.2 = schedule s c (min m (doublings n)) := by
  induction n with
  | zero => simp [flood, schedule, doublings]
  | succ n ih =>
    have hon := flood_onSchedule hs hsc n
    rw [flood_concat]
    dsimp only
    rcases hon.observe hs with ⟨hkeeps, hobserve⟩ | ⟨⟨hdue, hbelow⟩, hbar, hobserve⟩
    · have hkeeps' : doublings (n + 1) = doublings n ∨ m ≤ doublings n := by
        rw [← Nat.not_lt, ← hm, Nat.not_lt]
        exact hkeeps
      rw [hobserve, ih]
      have hle : doublings n ≤ doublings (n + 1) := by
        unfold doublings
        omega
      simp only [Bool.false_eq_true, if_false, List.append_nil]
      congr 1
      omega
    · have hnext : doublings (n + 1) = doublings n + 1 := by
        unfold doublings at *
        omega
      have hlt := (hm (doublings n)).1 hbelow
      rw [hobserve, ih, hbar, hnext, Nat.min_eq_right hlt.le, Nat.min_eq_right hlt, schedule, schedule,
        List.range'_concat, List.map_append, List.map_singleton]
      have hindex : 1 + n = 16 + 8 * (1 + doublings n - 1) := by omega
      simp [scheduled, hindex, Nat.add_comm 1]

end MessageSizer

/-! ## The same flood in words -/

structure WordSizer where
  size : UInt64
  cap : UInt64

namespace WordSizer

open MessageSizer (Change)

def toSizer (z : WordSizer) : MessageSizer := ⟨z.size.toNat, z.cap.toNat⟩

/-- Start at `initial`, kept between one and the cap; the cap is at least one. -/
def new (initial cap : UInt64) : WordSizer :=
  let cap := max cap 1
  ⟨min (max initial 1) cap, cap⟩

/-- Take note of the bytes sent so far. The products are computed only below the cap. -/
def note? (z : WordSizer) (sent : UInt64) : Option (Bool × WordSizer) :=
  if z.cap ≤ z.size then some (false, z)
  else do
    let bar ← Word.mul? z.size 16
    if sent < bar then return (false, z)
    let doubled ← Word.mul? z.size 2
    return (true, { z with size := min doubled z.cap })

/-- Send `n` messages, the first of them numbered `i`, as `MessageSizer.flood` does. -/
def flood? : Nat → Nat → UInt64 → WordSizer → Option (UInt64 × WordSizer × List Change)
  | 0, _, sent, z => some (sent, z, [])
  | n + 1, i, sent, z => do
    let sent ← Word.add? sent z.size
    let (changed, z) ← z.note? sent
    let (total, last, changes) ← flood? n (i + 1) sent z
    return (total, last, (if changed then [⟨i, sent.toNat, z.size.toNat⟩] else []) ++ changes)

theorem toSizer_new (initial cap : UInt64) : (new initial cap).toSizer = .new initial.toNat cap.toNat := by
  simp [new, toSizer, MessageSizer.new]

/-- Where sixteen times the cap fits a word, so does every product that is computed. -/
theorem note?_eq {z : WordSizer} (hcap : 16 * z.cap.toNat < UInt64.size) (sent : UInt64) :
    ∃ next, z.note? sent = some ((z.toSizer.observe sent.toNat).1, next) ∧
      next.toSizer = (z.toSizer.observe sent.toNat).2 := by
  unfold note?
  by_cases hfull : z.cap ≤ z.size
  · have hstays : z.toSizer.grows sent.toNat = false := by
      rw [UInt64.le_iff_toNat_le] at hfull
      simp [MessageSizer.grows, toSizer, Nat.not_lt.2 hfull]
    rw [if_pos hfull, MessageSizer.observe, hstays]
    exact ⟨z, rfl, rfl⟩
  · have hbelow : z.size.toNat < z.cap.toNat := by
      rwa [UInt64.le_iff_toNat_le, Nat.not_le] at hfull
    -- Below the cap neither product is more than sixteen times the cap.
    obtain ⟨bar, hbar, hbarValue⟩ := Word.mul?_of_lt (a := z.size) (b := 16) (by change _ * 16 < _; omega)
    obtain ⟨doubled, hdoubled, hdoubledValue⟩ := Word.mul?_of_lt (a := z.size) (b := 2) (by change _ * 2 < _; omega)
    change bar.toNat = z.size.toNat * 16 at hbarValue
    change doubled.toNat = z.size.toNat * 2 at hdoubledValue
    rw [if_neg hfull, hbar, hdoubled, MessageSizer.observe]
    simp only [Option.bind_eq_bind, Option.bind_some]
    have hgrows : z.toSizer.grows sent.toNat = true ↔ ¬ sent < bar := by
      rw [MessageSizer.grows, Bool.and_eq_true, decide_eq_true_iff, decide_eq_true_iff, UInt64.lt_iff_toNat_lt,
        hbarValue, Nat.not_lt]
      exact and_iff_right hbelow
    by_cases hsent : sent < bar
    · rw [if_pos hsent, if_neg (fun h => hgrows.1 h hsent)]
      exact ⟨z, rfl, rfl⟩
    · rw [if_neg hsent, if_pos (hgrows.2 hsent)]
      refine ⟨_, rfl, ?_⟩
      simp [toSizer, hdoubledValue]

theorem observe_cap (z : MessageSizer) (sent : Nat) : (z.observe sent).2.cap = z.cap := by
  unfold MessageSizer.observe
  split <;> rfl

theorem le_flood (n i sent : Nat) (z : MessageSizer) : sent ≤ (MessageSizer.flood n i sent z).1 := by
  induction n generalizing i sent z with
  | zero => exact Nat.le_refl sent
  | succ n ih =>
    rw [MessageSizer.flood_cons]
    exact Nat.le_trans (Nat.le_add_right _ _) (ih _ _ _)

/-- As long as the bytes sent fit a word, the flood in words is the flood. -/
theorem flood?_eq (n i : Nat) (sent : UInt64) (z : WordSizer) (hcap : 16 * z.cap.toNat < UInt64.size)
    (hsent : (MessageSizer.flood n i sent.toNat z.toSizer).1 < UInt64.size) :
    (flood? n i sent z).map (fun (total, last, changes) => (total.toNat, last.toSizer, changes)) =
      some (MessageSizer.flood n i sent.toNat z.toSizer) := by
  induction n generalizing i sent z with
  | zero => rfl
  | succ n ih =>
    rw [MessageSizer.flood_cons] at hsent ⊢
    dsimp only at hsent ⊢
    obtain ⟨total, htotal, hvalue⟩ :=
      Word.add?_of_lt (a := sent) (b := z.size) (Nat.lt_of_le_of_lt (le_flood _ _ _ _) hsent)
    change total.toNat = sent.toNat + z.toSizer.size at hvalue
    rw [← hvalue] at hsent ⊢
    obtain ⟨next, hnext, hsizer⟩ := note?_eq hcap total
    have hnextCap : next.cap.toNat = z.cap.toNat := by
      change next.toSizer.cap = z.toSizer.cap
      rw [hsizer, observe_cap]
    rw [← hsizer] at hsent ⊢
    obtain ⟨⟨last, final, changes⟩, hrest, hfinal⟩ :=
      Option.map_eq_some_iff.1 (ih (i + 1) total next (by rwa [hnextCap]) hsent)
    rw [flood?, htotal]
    simp only [Option.bind_eq_bind, Option.bind_some, hnext, hrest, ← hfinal]
    rfl

end WordSizer

namespace MessageSizer

/-! ## The whole schedule -/

/-- The changes that a run of `n` messages reaches are those that are due. -/
theorem filter_schedule (s c m n : Nat) :
    (schedule s c m).filter (fun change => change.message ≤ n) = schedule s c (min m (doublings n)) := by
  have hsplit : schedule s c m =
      schedule s c (min m (doublings n)) ++
        (List.range' (1 + min m (doublings n)) (m - min m (doublings n))).map (scheduled s c) := by
    rw [schedule, schedule, ← List.map_append, List.range'_append_1, Nat.add_sub_cancel' (Nat.min_le_left _ _)]
  have hreached : ∀ change ∈ schedule s c (min m (doublings n)), change.message ≤ n := by
    intro change hchange
    obtain ⟨j, hj, rfl⟩ := List.mem_map.1 hchange
    rw [List.mem_range'_1] at hj
    simp only [scheduled, doublings] at *
    omega
  have hahead : ∀ change ∈ (List.range' (1 + min m (doublings n)) (m - min m (doublings n))).map (scheduled s c),
      ¬ change.message ≤ n := by
    intro change hchange
    obtain ⟨j, hj, rfl⟩ := List.mem_map.1 hchange
    rw [List.mem_range'_1] at hj
    simp only [scheduled, doublings] at *
    omega
  rw [hsplit, List.filter_append, List.filter_eq_self.2 (by simpa using hreached),
    List.filter_eq_nil_iff.2 (by simpa using hahead), List.append_nil]

/-- Some number of doublings reaches the cap, and then so does every larger one. -/
theorem exists_least_doublings {s : Nat} (hs : 0 < s) (c : Nat) :
    ∃ m, IsLeast {m | c ≤ s * 2 ^ m} m ∧ ∀ j, s * 2 ^ j < c ↔ j < m := by
  have hreaches : ∃ m, c ≤ s * 2 ^ m :=
    ⟨c, Nat.le_trans Nat.lt_two_pow_self.le (Nat.le_mul_of_pos_left _ hs)⟩
  refine ⟨Nat.find hreaches, ⟨Nat.find_spec hreaches, fun _ => Nat.find_min' hreaches⟩, fun j => ?_⟩
  constructor
  · intro hbelow
    rw [← Nat.not_le]
    intro hle
    have hpow : s * 2 ^ Nat.find hreaches ≤ s * 2 ^ j := Nat.mul_le_mul_left s (Nat.pow_le_pow_right (by decide) hle)
    have := Nat.find_spec hreaches
    omega
  · exact fun hlt => Nat.lt_of_not_le (Nat.find_min hreaches hlt)

/-- The flood in words is the flood in naturals, for every cap of which sixteen fit a word and every number of
messages whose bytes do. Of the flood in naturals: let `m` be the least number of doublings that reaches the cap.
The `j`-th change comes after message `16 + 8 * (j - 1)`, when sixteen messages' worth of the size before it have
been sent. A run shows those of the `m` changes whose message it reached, it shows all of them exactly if it reached
the cap, and between the changes the size stays what the last of them made it. -/
theorem flood_follows_schedule (initial cap : UInt64) (n : Nat) :
    let c := max cap.toNat 1
    let s := min (max initial.toNat 1) c
    let run := flood n 1 0 (.new initial.toNat cap.toNat)
    (16 * c < UInt64.size → run.1 < UInt64.size →
      (WordSizer.flood? n 1 0 (.new initial cap)).map
        (fun (total, last, changes) => (total.toNat, last.toSizer, changes)) = some run) ∧
    ∃ m, IsLeast {m | c ≤ s * 2 ^ m} m ∧
      run.2.2 = ((List.range' 1 m).map fun j => ⟨16 + 8 * (j - 1), 16 * (s * 2 ^ (j - 1)), min (s * 2 ^ j) c⟩).filter
        (fun change => change.message ≤ n) ∧
      (run.2.1.size = c ↔ run.2.2.length = m) ∧
      ∀ k, (flood k 1 0 (.new initial.toNat cap.toNat)).2.1 = ⟨min (s * 2 ^ ((k - 8) / 8)) c, c⟩ := by
  intro c s run
  have hs : 0 < s := by
    simp only [s, c]
    omega
  have hsc : s ≤ c := Nat.min_le_right _ _
  have hsizes : ∀ k, (flood k 1 0 ⟨s, c⟩).2.1 = ⟨min (s * 2 ^ doublings k) c, c⟩ := fun k => by
    have hon := flood_onSchedule hs hsc k
    rw [← hon.size]
    exact congrArg (MessageSizer.mk _) hon.cap
  obtain ⟨m, hleast, hm⟩ := exists_least_doublings hs c
  have hchanges : run.2.2 = schedule s c (min m (doublings n)) := flood_changes hs hsc hm n
  refine ⟨fun hcap hsent => ?_, m, hleast, ?_, ?_, hsizes⟩
  · have hwords := WordSizer.flood?_eq n 1 0 (.new initial cap)
    rw [WordSizer.toSizer_new] at hwords
    refine hwords ?_ hsent
    simpa [WordSizer.new] using hcap
  · rw [hchanges]
    exact (filter_schedule s c m n).symm
  · have hsize : run.2.1.size = min (s * 2 ^ doublings n) c := by
      rw [show run.2.1 = _ from hsizes n]
    have hreached := hm (doublings n)
    rw [hsize, hchanges, schedule, List.length_map, List.length_range']
    omega

/-- From three bytes up to forty: three doublings and a last change that the cap cuts short. -/
theorem flood_from_three_to_forty :
    let run := flood 40 1 0 (.new (UInt64.toNat 3) (UInt64.toNat 40))
    16 * max (UInt64.toNat 40) 1 < UInt64.size ∧ run.1 < UInt64.size ∧
      run.2.2 = [⟨16, 48, 6⟩, ⟨24, 96, 12⟩, ⟨32, 192, 24⟩, ⟨40, 384, 40⟩] ∧
      (WordSizer.flood? 40 1 0 (.new 3 40)).map
        (fun (total, last, changes) => (total.toNat, last.toSizer, changes)) = some run := by
  intro run
  obtain ⟨hwords, m, hleast, hchanges, -⟩ := flood_follows_schedule 3 40 40
  have hfour : IsLeast {m | 40 ≤ 3 * 2 ^ m} 4 := by
    refine ⟨by decide, fun j hj => Nat.le_of_not_lt fun hlt => ?_⟩
    have hpow : 2 ^ j ≤ 2 ^ 3 := Nat.pow_le_pow_right (by decide) (Nat.le_of_lt_succ hlt)
    change 40 ≤ 3 * 2 ^ j at hj
    omega
  have hm : m = 4 := hleast.unique hfour
  have hcap : 16 * max (UInt64.toNat 40) 1 < UInt64.size := by decide
  have hsent : run.1 < UInt64.size := by decide
  subst hm
  exact ⟨hcap, hsent, hchanges.trans (by decide), hwords hcap hsent⟩

end MessageSizer

end Goodput.Ndt7
