import Goodput.Size
/-!
# Numerals read back

`digits` writes a row of ASCII digits, and every reader under a bound that the number keeps to gets the
number back. A character that is no digit does not occur in it.
-/

namespace Goodput.Decimal

/-! ## Digits -/

theorem isDigit_iff {c : Char} : isDigit c = true ↔ 48 ≤ c.toNat ∧ c.toNat ≤ 57 := by
  simp only [isDigit, Bool.and_eq_true, decide_eq_true_eq, Char.le_def, UInt32.le_iff_toNat_le]
  exact Iff.rfl

theorem isDigit_of_mem_digits {n : Nat} {c : Char} (h : c ∈ digits n) : isDigit c = true := by
  have hc := Nat.isDigit_of_mem_toDigits (by decide) (by decide) h
  simp only [Char.isDigit, Bool.and_eq_true, decide_eq_true_eq, UInt32.le_iff_toNat_le, ge_iff_le] at hc
  exact isDigit_iff.2 hc

theorem not_mem_digits {n : Nat} {c : Char} (h : isDigit c = false) : c ∉ digits n := by
  intro hc
  rw [isDigit_of_mem_digits hc] at h
  cases h

@[simp] theorem digits_ne_nil (n : Nat) : digits n ≠ [] := Nat.toDigits_ne_nil

/-! ## Reading -/

@[simp] theorem value_digits (n : Nat) : value (digits n) = n := by
  have h := Nat.ofDigitChars_ten_toDigits (n := n)
  rw [Nat.ofDigitChars_eq_foldl] at h
  simp only [Nat.mul_comm 10] at h
  exact h

theorem isNumeral_digits (n : Nat) : isNumeral (digits n) = true := by
  simp only [isNumeral, Bool.and_eq_true, List.all_eq_true]
  exact ⟨by simp, fun _ => isDigit_of_mem_digits⟩

theorem parse_digits {bound n : Nat} (h : n < bound) : parse? bound (digits n) = some n := by
  simp [parse?, isNumeral_digits, h]

/-- The text is a numeral of this number: ASCII digits, at least one of them, perhaps with zeros in front. -/
structure Spells (cs : List Char) (n : Nat) : Prop where
  nonempty : cs ≠ []
  digits : ∀ c ∈ cs, isDigit c = true
  value : value cs = n

theorem isNumeral_iff {cs : List Char} : isNumeral cs = true ↔ cs ≠ [] ∧ ∀ c ∈ cs, isDigit c = true := by
  simp only [isNumeral, Bool.and_eq_true, Bool.not_eq_true', List.isEmpty_eq_false_iff, List.all_eq_true]

/-- Exactly the numerals below the bound are read. -/
theorem parse?_eq_some_iff {bound n : Nat} {cs : List Char} :
    parse? bound cs = some n ↔ Spells cs n ∧ n < bound := by
  unfold parse?
  constructor
  · intro h
    split at h
    · rename_i hread
      rw [Bool.and_eq_true, decide_eq_true_eq, isNumeral_iff] at hread
      obtain ⟨⟨hne, hdigits⟩, hbound⟩ := hread
      cases h
      exact ⟨⟨hne, hdigits, rfl⟩, hbound⟩
    · cases h
  · rintro ⟨⟨hne, hdigits, rfl⟩, hbound⟩
    simp [isNumeral_iff.2 ⟨hne, hdigits⟩, hbound]

end Goodput.Decimal

namespace Goodput.Size

/-- The numeral of a 64-bit number is a transfer size. -/
theorem parse_digits {n : Nat} (h : n < UInt64.size) : parse (String.ofList (Decimal.digits n)) = .ok n := by
  simp [parse, Decimal.parse_digits h]

/-- A transfer size is a number of 64 bits. -/
theorem lt_of_parse {text : String} {size : Nat} (h : parse text = .ok size) : size < UInt64.size := by
  unfold parse at h
  split at h
  · cases h
  · split at h
    · cases h
    · rename_i n hread
      cases h
      exact (Decimal.parse?_eq_some_iff.1 hread).2

theorem validate_error {text : String} {e : SizeError} (limit : Option Nat) (h : parse text = .error e) :
    validate limit text = .error e := by
  rw [validate, h]

/-- A size is held against the limit and nothing else. -/
theorem validate_ok {text : String} {size : Nat} (limit : Option Nat) (h : parse text = .ok size) :
    validate limit text =
      if limit.any (· < size) then .error (.tooLarge size (limit.getD size)) else .ok size := by
  rw [validate, h]
  cases limit <;> simp

/-- The numeral of a 64-bit number within the limit is accepted. -/
theorem validate_digits {limit : Option Nat} {size : Nat} (hbound : size < UInt64.size)
    (hlimit : ∀ l ∈ limit, size ≤ l) : validate limit (String.ofList (Decimal.digits size)) = .ok size := by
  have hwithin : limit.any (· < size) = false := by
    cases limit with
    | none => rfl
    | some l => simpa using hlimit l rfl
  rw [validate_ok limit (parse_digits hbound), hwithin]
  rfl

end Goodput.Size
