import Mathlib.Data.List.TakeWhile
import Mathlib.Data.Nat.Digits.Lemmas
import Goodput.Proofs.Decimal
import Goodput.Json.Read
import Goodput.Json.Render
/-!
# JSON strings and numbers

A string is read back character by character: whatever way the writer escapes a character, the reader gets
its code point, and no code point of a text is half of a surrogate pair (`string?_renderString`). A number
is written as its literal, so what matters there is where the reader takes it to end and begin
(`all_isNumberChar_of_isNumber`, `isNumber_head`). The numerals of integers are such literals
(`int_eq_number`).
-/

namespace Goodput.Json

/-! ## Blanks -/

theorem skipBlanks_cons {c : Char} (h : isBlank c = false) (cs : List Char) :
    skipBlanks (c :: cs) = c :: cs := by
  simp [skipBlanks, h]

/-! ## Strings -/

theorem hexValue?_digitChar : ∀ d < 16, Decimal.hexValue? (Nat.digitChar d) = some d := by decide

theorem hex4?_byte {n : Nat} (h : n < 256) :
    hex4? '0' '0' (Nat.digitChar (n / 16)) (Nat.digitChar (n % 16)) = some n := by
  have hhigh := hexValue?_digitChar (n / 16) (by omega)
  have hlow := hexValue?_digitChar (n % 16) (by omega)
  have hzero : Decimal.hexValue? '0' = some 0 := rfl
  simp only [hex4?, hzero, hhigh, hlow, Option.bind_eq_bind, Option.bind_some, Option.pure_def]
  congr 1
  omega

theorem stringPoints?_plain {c : Char} (hquote : c ≠ '"') (hslash : c ≠ '\\') (hcontrol : 32 ≤ c.toNat)
    (cs : List Char) :
    stringPoints? (c :: cs) = (stringPoints? cs).map fun p => (c.toNat :: p.1, p.2) := by
  rw [stringPoints?.eq_def]
  -- Of the cases of the reader only the last one is left.
  split <;> simp_all [Option.map_eq_bind]

/-- No one-letter escape is `u`, which four digits would have to follow. -/
theorem stringPoints?_short {e c : Char} (h : shortEscape? e = some c) (cs : List Char) :
    stringPoints? ('\\' :: e :: cs) = (stringPoints? cs).map fun p => (c.toNat :: p.1, p.2) := by
  have hu : e ≠ 'u' := by
    rintro rfl
    cases h
  rw [stringPoints?, h]
  · cases stringPoints? cs <;> rfl
  · intro _ _ _ _ _ he
    exact absurd he hu

theorem stringPoints?_byte {n : Nat} (h : n < 256) (cs : List Char) :
    stringPoints? ('\\' :: 'u' :: '0' :: '0' :: Nat.digitChar (n / 16) :: Nat.digitChar (n % 16) :: cs)
      = (stringPoints? cs).map fun p => (n :: p.1, p.2) := by
  rw [stringPoints?, hex4?_byte h]
  cases stringPoints? cs <;> rfl

/-- Whatever way a character is escaped, its code point is read. -/
theorem stringPoints?_escapeChar (c : Char) (cs : List Char) :
    stringPoints? (escapeChar c ++ cs) = (stringPoints? cs).map fun p => (c.toNat :: p.1, p.2) := by
  have named {d : Char} (h : c.toNat = d.toNat) : c = d := Char.toNat_inj.1 h
  unfold escapeChar
  split_ifs with hquote hslash hback hfeed hline hreturn htab hcontrol
  · subst hquote
    exact stringPoints?_short rfl cs
  · subst hslash
    exact stringPoints?_short rfl cs
  · obtain rfl : c = '\x08' := named hback
    exact stringPoints?_short rfl cs
  · obtain rfl : c = '\x0c' := named hfeed
    exact stringPoints?_short rfl cs
  · subst hline
    exact stringPoints?_short rfl cs
  · subst hreturn
    exact stringPoints?_short rfl cs
  · subst htab
    exact stringPoints?_short rfl cs
  · exact stringPoints?_byte (by omega) cs
  · exact stringPoints?_plain hquote hslash (by omega) cs

theorem stringPoints?_escaped (cs rest : List Char) :
    stringPoints? (cs.flatMap escapeChar ++ '"' :: rest) = some (cs.map Char.toNat, rest) := by
  induction cs with
  | nil => rfl
  | cons c cs ih =>
    rw [List.flatMap_cons, List.append_assoc, stringPoints?_escapeChar, ih]
    rfl

/-- No character is a surrogate, so characters are joined with nothing. -/
theorem joinSurrogates?_toNat (cs : List Char) : joinSurrogates? (cs.map Char.toNat) = some cs := by
  induction cs with
  | nil => rfl
  | cons c cs ih =>
    have hvalid : c.toNat < 0xd800 ∨ 0xdfff < c.toNat ∧ c.toNat < 0x110000 := c.valid
    have hhigh : isHighSurrogate c.toNat = false := by
      simp only [isHighSurrogate, Bool.and_eq_false_iff, decide_eq_false_iff_not]
      omega
    have hlow : isLowSurrogate c.toNat = false := by
      simp only [isLowSurrogate, Bool.and_eq_false_iff, decide_eq_false_iff_not]
      omega
    rw [List.map_cons, joinSurrogates?.eq_def]
    simp [hhigh, hlow, ih]

theorem string?_escaped (s : String) (rest : List Char) :
    string? (s.toList.flatMap escapeChar ++ '"' :: rest) = some (some s, rest) := by
  simp [string?, stringPoints?_escaped, joinSurrogates?_toNat]

theorem string?_halfPair (rest : List Char) :
    string? ('\\' :: 'u' :: 'd' :: '8' :: '0' :: '0' :: '"' :: rest) = some (none, rest) := by
  have hhex : hex4? 'd' '8' '0' '0' = some 0xd800 := by decide
  have hpoints : stringPoints? ('\\' :: 'u' :: 'd' :: '8' :: '0' :: '0' :: '"' :: rest)
      = some ([0xd800], rest) := by
    rw [stringPoints?, hhex, stringPoints?]
    rfl
  rw [string?, hpoints]
  rfl

theorem renderString_some (s : String) :
    renderString (some s) = '"' :: (s.toList.flatMap escapeChar ++ ['"']) :=
  rfl

/-- A string is read back, and so is one without a text. -/
theorem string?_renderString (s : Option String) (rest : List Char) :
    ∃ body, renderString s ++ rest = '"' :: body ∧ string? body = some (s, rest) := by
  cases s with
  | none => exact ⟨_, rfl, string?_halfPair rest⟩
  | some s =>
    refine ⟨s.toList.flatMap escapeChar ++ '"' :: rest, ?_, string?_escaped s rest⟩
    rw [renderString_some, List.cons_append, List.append_assoc, List.singleton_append]

/-! ## Numbers -/

theorem all_isNumberChar_of_isNumeral {cs : List Char} (h : Decimal.isNumeral cs = true) :
    cs.all isNumberChar = true := by
  simp only [Decimal.isNumeral, Bool.and_eq_true, List.all_eq_true] at h ⊢
  intro c hc
  simp [isNumberChar, h.2 c hc]

/-- Digits in front never end a number. -/
theorem all_isNumberChar_of_dropWhile {cs : List Char}
    (h : (cs.dropWhile Decimal.isDigit).all isNumberChar = true) : cs.all isNumberChar = true := by
  have hdigits : (cs.takeWhile Decimal.isDigit).all isNumberChar = true := by
    rw [List.all_eq_true]
    intro c hc
    simp [isNumberChar, List.mem_takeWhile_imp hc]
  rw [← List.takeWhile_append_dropWhile (p := Decimal.isDigit) (l := cs), List.all_append, hdigits, h]
  rfl

theorem all_isNumberChar_of_isExponentPart {cs : List Char} (h : isExponentPart cs = true) :
    cs.all isNumberChar = true := by
  cases cs with
  | nil => rfl
  | cons c cs =>
    simp only [isExponentPart, Bool.and_eq_true, Bool.or_eq_true, beq_iff_eq] at h
    have hletter : isNumberChar c = true := by
      obtain rfl | rfl := h.1 <;> rfl
    have hrest : cs.all isNumberChar = true := by
      have hexp := h.2
      unfold isExponent at hexp
      split at hexp
      · rw [List.all_cons, all_isNumberChar_of_isNumeral hexp]
        rfl
      · rw [List.all_cons, all_isNumberChar_of_isNumeral hexp]
        rfl
      · exact all_isNumberChar_of_isNumeral hexp
    simp [hletter, hrest]

theorem all_isNumberChar_of_isFractionPart {cs : List Char} (h : isFractionPart cs = true) :
    cs.all isNumberChar = true := by
  unfold isFractionPart at h
  split at h
  · rw [Bool.and_eq_true] at h
    rw [List.all_cons, all_isNumberChar_of_dropWhile (all_isNumberChar_of_isExponentPart h.2)]
    rfl
  · exact all_isNumberChar_of_isExponentPart h

theorem all_isNumberChar_of_isMagnitude {cs : List Char} (h : isMagnitude cs = true) :
    cs.all isNumberChar = true := by
  unfold isMagnitude at h
  split at h
  · cases h
  · cases h
  · exact all_isNumberChar_of_dropWhile (all_isNumberChar_of_isFractionPart h)

theorem all_isNumberChar_of_isNumber {literal : List Char} (h : isNumber literal = true) :
    literal.all isNumberChar = true := by
  unfold isNumber at h
  split at h
  · rw [List.all_cons, all_isNumberChar_of_isMagnitude h]
    rfl
  · exact all_isNumberChar_of_isMagnitude h

theorem isMagnitude_head {cs : List Char} (h : isMagnitude cs = true) :
    ∃ c rest, cs = c :: rest ∧ Decimal.isDigit c = true := by
  cases cs with
  | nil => cases h
  | cons c rest =>
    by_cases hc : Decimal.isDigit c = true
    · exact ⟨c, rest, rfl, hc⟩
    · simp [isMagnitude, hc] at h

/-- A number begins with a digit or its sign. -/
theorem isNumber_head {literal : List Char} (h : isNumber literal = true) :
    ∃ c rest, literal = c :: rest ∧ (c = '-' ∨ Decimal.isDigit c = true) := by
  unfold isNumber at h
  split at h
  · exact ⟨_, _, rfl, .inl rfl⟩
  · obtain ⟨c, rest, hcs, hc⟩ := isMagnitude_head h
    exact ⟨c, rest, hcs, .inr hc⟩

theorem not_isBlank_of_isDigit {c : Char} (h : Decimal.isDigit c = true) : isBlank c = false := by
  rw [Decimal.isDigit_iff] at h
  simp only [isBlank, Bool.or_eq_false_iff, beq_eq_false_iff_ne]
  refine ⟨⟨⟨?_, ?_⟩, ?_⟩, ?_⟩ <;> (rintro rfl; revert h; decide)

/-! ### Where a number ends -/

/-- A text that cannot go on with a number. -/
def EndsNumber (rest : List Char) : Prop := ∀ c ∈ rest.head?, isNumberChar c = false

theorem endsNumber_nil : EndsNumber [] := fun _ h => nomatch h

theorem endsNumber_cons {c : Char} (h : isNumberChar c = false) (cs : List Char) : EndsNumber (c :: cs) := by
  rintro d ⟨⟩
  exact h

theorem takeWhile_number {literal rest : List Char} (h : literal.all isNumberChar = true)
    (hrest : EndsNumber rest) : (literal ++ rest).takeWhile isNumberChar = literal := by
  rw [List.takeWhile_append_of_pos (List.all_eq_true.1 h)]
  cases rest with
  | nil => simp
  | cons c cs => simp [hrest c rfl]

theorem dropWhile_number {literal rest : List Char} (h : literal.all isNumberChar = true)
    (hrest : EndsNumber rest) : (literal ++ rest).dropWhile isNumberChar = rest := by
  rw [List.dropWhile_append_of_pos (List.all_eq_true.1 h)]
  cases rest with
  | nil => simp
  | cons c cs => simp [hrest c rfl]

/-! ### The numbers of integers -/

theorem eq_zero_of_digits_eq {n : Nat} {cs : List Char} (h : Decimal.digits n = '0' :: cs) : n = 0 := by
  induction n using Nat.strong_induction_on generalizing cs with
  | _ n ih =>
    unfold Decimal.digits at h ih
    by_cases hn : n < 10
    · rw [Nat.toDigits_of_lt_base hn] at h
      have hchar : ∀ d < 10, Nat.digitChar d = '0' → d = 0 := by decide
      exact hchar n hn (List.cons.inj h).1
    · rw [Nat.toDigits_of_base_le (by decide) (by omega)] at h
      obtain ⟨d, ds, hds⟩ := List.exists_cons_of_ne_nil (Decimal.digits_ne_nil (n / 10))
      rw [Decimal.digits] at hds
      rw [hds, List.cons_append] at h
      obtain rfl : d = '0' := (List.cons.inj h).1
      have hzero := ih (n / 10) (by omega) hds
      omega

theorem isMagnitude_digits (n : Nat) : isMagnitude (Decimal.digits n) = true := by
  have hall : ∀ c ∈ Decimal.digits n, Decimal.isDigit c = true := fun _ => Decimal.isDigit_of_mem_digits
  have htake : (Decimal.digits n).takeWhile Decimal.isDigit = Decimal.digits n :=
    List.takeWhile_eq_self_iff.2 hall
  have hdrop : (Decimal.digits n).dropWhile Decimal.isDigit = [] := List.dropWhile_eq_nil_iff.2 hall
  unfold isMagnitude
  rw [htake, hdrop]
  split
  · exact absurd ‹_› (Decimal.digits_ne_nil n)
  · -- A zero in front is the numeral of zero, and nothing follows it there.
    rename_i hdigits
    obtain rfl := eq_zero_of_digits_eq hdigits
    cases hdigits
  · rfl

theorem digits_ne_minus (n : Nat) (cs : List Char) : Decimal.digits n ≠ '-' :: cs := by
  intro h
  have hmem : '-' ∈ Decimal.digits n := by simp [h]
  exact Decimal.not_mem_digits (by decide) hmem

theorem isNumber_digits (n : Nat) : isNumber (Decimal.digits n) = true := by
  unfold isNumber
  split
  · exact absurd ‹_› (digits_ne_minus n _)
  · exact isMagnitude_digits n

theorem integer?_digits (n : Nat) : integer? (Decimal.digits n) = some (n : Int) := by
  unfold integer?
  split
  · exact absurd ‹_› (digits_ne_minus n _)
  · simp [Decimal.isNumeral_digits]

/-- An integer is written as a number that spells it. -/
theorem int_eq_number (i : Int) :
    ∃ literal, Json.int i = .number literal ∧ isNumber literal = true ∧ integer? literal = some i := by
  cases i with
  | ofNat n => exact ⟨Decimal.digits n, rfl, isNumber_digits n, integer?_digits n⟩
  | negSucc n =>
    refine ⟨'-' :: Decimal.digits (n + 1), rfl, isMagnitude_digits (n + 1), ?_⟩
    simp [integer?, Decimal.isNumeral_digits, Int.negSucc_eq]

end Goodput.Json
