/-!
# Words of 64 bits

The numbers of this library are naturals. Where a machine computes in words, a sum, a product or a difference that
leaves them is a fault, which is `none` here, or wraps around. These are the steps, and when each of them gives what
naturals give.
-/

namespace Goodput

namespace Word

/-- The sum of two words, unless it does not fit. -/
def add? (a b : UInt64) : Option UInt64 := if a.toNat + b.toNat < UInt64.size then some (a + b) else none

/-- The product of two words, unless it does not fit. -/
def mul? (a b : UInt64) : Option UInt64 := if a.toNat * b.toNat < UInt64.size then some (a * b) else none

/-- The difference of two words, unless it is below zero. -/
def sub? (a b : UInt64) : Option UInt64 := if b ≤ a then some (a - b) else none

/-- The difference of two words, or zero where it is below zero. -/
def monus (a b : UInt64) : UInt64 := if b ≤ a then a - b else 0

theorem add?_of_lt {a b : UInt64} (h : a.toNat + b.toNat < UInt64.size) :
    ∃ c, add? a b = some c ∧ c.toNat = a.toNat + b.toNat := by
  refine ⟨a + b, if_pos h, ?_⟩
  rw [UInt64.toNat_add]
  exact Nat.mod_eq_of_lt h

theorem add?_of_le {a b : UInt64} (h : UInt64.size ≤ a.toNat + b.toNat) : add? a b = none := if_neg (Nat.not_lt.2 h)

theorem mul?_of_lt {a b : UInt64} (h : a.toNat * b.toNat < UInt64.size) :
    ∃ c, mul? a b = some c ∧ c.toNat = a.toNat * b.toNat := by
  refine ⟨a * b, if_pos h, ?_⟩
  rw [UInt64.toNat_mul]
  exact Nat.mod_eq_of_lt h

theorem mul?_of_le {a b : UInt64} (h : UInt64.size ≤ a.toNat * b.toNat) : mul? a b = none := if_neg (Nat.not_lt.2 h)

theorem sub?_of_le {a b : UInt64} (h : b ≤ a) : ∃ c, sub? a b = some c ∧ c.toNat = a.toNat - b.toNat :=
  ⟨a - b, if_pos h, UInt64.toNat_sub_of_le a b h⟩

/-- Sums that wrap around are sums up to multiples of the number of words. -/
theorem toNat_ofNat_add (a b : Nat) : (UInt64.ofNat a + UInt64.ofNat b).toNat = (a + b) % UInt64.size := by
  rw [← UInt64.ofNat_add, UInt64.toNat_ofNat']

@[simp] theorem toNat_monus (a b : UInt64) : (monus a b).toNat = a.toNat - b.toNat := by
  unfold monus
  split
  · rename_i h
    exact UInt64.toNat_sub_of_le a b h
  · rename_i h
    rw [UInt64.le_iff_toNat_le] at h
    rw [UInt64.toNat_zero]
    omega

@[simp] theorem toNat_min (a b : UInt64) : (min a b).toNat = min a.toNat b.toNat := by
  rw [show min a b = if a ≤ b then a else b from rfl]
  split
  · rename_i h
    rw [UInt64.le_iff_toNat_le] at h
    omega
  · rename_i h
    rw [UInt64.le_iff_toNat_le] at h
    omega

@[simp] theorem toNat_max (a b : UInt64) : (max a b).toNat = max a.toNat b.toNat := by
  rw [show max a b = if a ≤ b then b else a from rfl]
  split
  · rename_i h
    rw [UInt64.le_iff_toNat_le] at h
    omega
  · rename_i h
    rw [UInt64.le_iff_toNat_le] at h
    omega

end Word

end Goodput
