import Mathlib.Data.Nat.Digits.Defs
import Goodput.Proofs.Decimal
import Goodput.Proofs.Word
/-!
# The texts of transfer sizes

A text is a transfer size if it is a numeral of a 64-bit number. What a numeral is worth is said by the places of its
digits (`Size.Denotes`), and reading is also done the way a machine does it, digit by digit in words, where a numeral
that is too long is noticed at the digit for which there is no room (`Decimal.map_toNat_readWord?`). We prove that
every text gets exactly one of four answers, and which (`Size.validate_exact`).
-/

namespace Goodput

/-! ## Digit by digit -/

namespace Decimal

/-- The number that digits denote behind digits of the value `acc`. -/
def valueFrom (acc : Nat) (cs : List Char) : Nat := cs.foldl (fun acc c => acc * 10 + (c.toNat - 48)) acc

/-- Further digits never make a number smaller, so what has left the words never comes back. -/
theorem le_valueFrom (acc : Nat) (cs : List Char) : acc ≤ valueFrom acc cs := by
  induction cs generalizing acc with
  | nil => exact Nat.le_refl acc
  | cons c cs ih =>
    have hstep : acc ≤ acc * 10 + (c.toNat - 48) := by omega
    exact Nat.le_trans hstep (ih _)

/-- Put a digit behind those that are in a word. -/
def pushDigit? (acc : UInt64) (digit : Nat) : Option UInt64 := do
  let tens ← Word.mul? acc 10
  Word.add? tens (.ofNat digit)

/-- Read digits into a word, behind those that are in it. It fails at the first character that is no digit, and at
the first digit for which the word has no room. -/
def readWord? (acc : UInt64) : List Char → Option UInt64
  | [] => some acc
  | c :: cs => if isDigit c then (pushDigit? acc (c.toNat - 48)).bind (readWord? · cs) else none

theorem pushDigit?_of_lt {acc : UInt64} {digit : Nat} (h : acc.toNat * 10 + digit < UInt64.size) :
    ∃ next, pushDigit? acc digit = some next ∧ next.toNat = acc.toNat * 10 + digit := by
  have hdigit : (UInt64.ofNat digit).toNat = digit := UInt64.toNat_ofNat_of_lt' (by omega)
  obtain ⟨tens, htens, hmul⟩ := Word.mul?_of_lt (a := acc) (b := 10) (Nat.lt_of_le_of_lt (Nat.le_add_right _ _) h)
  change tens.toNat = acc.toNat * 10 at hmul
  obtain ⟨next, hnext, hadd⟩ := Word.add?_of_lt (a := tens) (b := .ofNat digit) (by rwa [hmul, hdigit])
  rw [hmul, hdigit] at hadd
  exact ⟨next, by rw [pushDigit?, htens, Option.bind_eq_bind, Option.bind_some, hnext], hadd⟩

theorem pushDigit?_of_le {acc : UInt64} {digit : Nat} (hdigit : digit < 10)
    (h : UInt64.size ≤ acc.toNat * 10 + digit) : pushDigit? acc digit = none := by
  have hword : (UInt64.ofNat digit).toNat = digit := UInt64.toNat_ofNat_of_lt' (Nat.lt_trans hdigit (by decide))
  by_cases hmul : acc.toNat * 10 < UInt64.size
  · obtain ⟨tens, htens, hvalue⟩ := Word.mul?_of_lt (a := acc) (b := 10) hmul
    change tens.toNat = acc.toNat * 10 at hvalue
    rw [pushDigit?, htens, Option.bind_eq_bind, Option.bind_some]
    exact Word.add?_of_le (by rwa [hvalue, hword])
  · have hfull : UInt64.size ≤ acc.toNat * (10 : UInt64).toNat := Nat.le_of_not_lt hmul
    rw [pushDigit?, Word.mul?_of_le hfull]
    rfl

/-- The words follow the naturals as far as they reach, and fail beyond. -/
theorem map_toNat_readWord? (acc : UInt64) (cs : List Char) :
    (readWord? acc cs).map UInt64.toNat =
      if cs.all isDigit && decide (valueFrom acc.toNat cs < UInt64.size) then some (valueFrom acc.toNat cs)
      else none := by
  induction cs generalizing acc with
  | nil =>
    have hacc : acc.toNat < UInt64.size := acc.toNat_lt_size
    simp [readWord?, valueFrom, hacc]
  | cons c cs ih =>
    rw [readWord?, List.all_cons]
    by_cases hc : isDigit c = true
    · rw [if_pos hc, hc, Bool.true_and]
      by_cases hroom : acc.toNat * 10 + (c.toNat - 48) < UInt64.size
      · obtain ⟨next, hnext, hvalue⟩ := pushDigit?_of_lt hroom
        rw [hnext, Option.bind_some, ih, hvalue]
        rfl
      · have hdigit : c.toNat - 48 < 10 := by
          have := (isDigit_iff.1 hc).2
          omega
        -- The word is full here, and the digits behind can only make the number larger.
        have hmore : acc.toNat * 10 + (c.toNat - 48) ≤ valueFrom acc.toNat (c :: cs) := le_valueFrom _ cs
        have hout : ¬ valueFrom acc.toNat (c :: cs) < UInt64.size := fun h => hroom (Nat.lt_of_le_of_lt hmore h)
        rw [pushDigit?_of_le hdigit (Nat.le_of_not_lt hroom)]
        simp [hout]
    · simp [hc]

theorem map_toNat_readWord?_zero {cs : List Char} (hne : cs ≠ []) :
    (readWord? 0 cs).map UInt64.toNat = parse? UInt64.size cs := by
  have hnumeral : isNumeral cs = cs.all isDigit := by simp [isNumeral, hne]
  rw [map_toNat_readWord?, parse?, hnumeral]
  rfl

/-- Each digit counts for ten times what it would count one place further right. -/
theorem value_eq_ofDigits (cs : List Char) : value cs = Nat.ofDigits 10 (cs.map fun c => c.toNat - 48).reverse := by
  rw [Nat.ofDigits_eq_foldr, List.foldr_reverse, List.foldl_map, value]
  congr 1
  funext acc c
  simp [Nat.mul_comm, Nat.add_comm]

end Decimal

/-! ## Which answer a text gets -/

namespace Size

/-- The text is a row of ASCII digits, at least one of them, and `n` is what their places make of them. -/
structure Denotes (text : String) (n : Nat) : Prop where
  nonempty : text ≠ ""
  digits : ∀ c ∈ text.toList, '0' ≤ c ∧ c ≤ '9'
  value : Nat.ofDigits 10 (text.toList.map fun c => c.toNat - '0'.toNat).reverse = n

theorem denotes_iff {text : String} {n : Nat} : Denotes text n ↔ Decimal.Spells text.toList n := by
  have hdigit : ∀ c, Decimal.isDigit c = true ↔ '0' ≤ c ∧ c ≤ '9' := by
    intro c
    simp [Decimal.isDigit]
  have hempty : text ≠ "" ↔ text.toList ≠ [] := by simp
  constructor
  · rintro ⟨hne, hdigits, hvalue⟩
    exact ⟨hempty.1 hne, fun c hc => (hdigit c).2 (hdigits c hc), by rw [Decimal.value_eq_ofDigits]; exact hvalue⟩
  · rintro ⟨hne, hdigits, hvalue⟩
    exact ⟨hempty.2 hne, fun c hc => (hdigit c).1 (hdigits c hc), by rw [← hvalue, Decimal.value_eq_ofDigits]; rfl⟩

theorem Denotes.unique {text : String} {m n : Nat} (hm : Denotes text m) (hn : Denotes text n) : m = n :=
  hm.value.symm.trans hn.value

theorem parse_eq_ok_iff {text : String} {n : Nat} : parse text = .ok n ↔ Denotes text n ∧ n < UInt64.size := by
  rw [denotes_iff, ← Decimal.parse?_eq_some_iff, parse]
  split
  · rename_i hempty
    rw [String.isEmpty_iff.1 hempty]
    simp [Decimal.parse?, Decimal.isNumeral]
  · split
    · rename_i hnone
      simp [hnone]
    · rename_i m hsome
      simp [hsome]

theorem parse_eq_empty_iff {text : String} : parse text = .error .empty ↔ text = "" := by
  unfold parse
  split
  · rename_i hempty
    simp [String.isEmpty_iff.1 hempty]
  · rename_i hempty
    have hne : text ≠ "" := fun h => hempty (String.isEmpty_iff.2 h)
    split <;> simp [hne]

/-- What is no size of 64 bits is invalid as it stands, unless it is empty. -/
theorem parse_eq_invalid_iff {text t : String} :
    parse text = .error (.invalid t) ↔ t = text ∧ text ≠ "" ∧ ¬ ∃ n, Denotes text n ∧ n < UInt64.size := by
  simp only [← parse_eq_ok_iff]
  unfold parse
  split
  · rename_i hempty
    simp [String.isEmpty_iff.1 hempty]
  · rename_i hempty
    have hne : text ≠ "" := fun h => hempty (String.isEmpty_iff.2 h)
    split <;> simp [hne, eq_comm]

theorem parse_ne_tooLarge {text : String} {n l : Nat} : parse text ≠ .error (.tooLarge n l) := by
  unfold parse
  split
  · simp
  · split <;> simp

theorem validate_eq_ok_iff {limit : Option Nat} {text : String} {n : Nat} :
    validate limit text = .ok n ↔ parse text = .ok n ∧ ∀ l ∈ limit, n ≤ l := by
  unfold validate
  cases parse text with
  | error e => simp
  | ok m =>
    cases limit with
    | none => simp
    | some l =>
      by_cases hlarge : l < m
      · simp only [hlarge, if_true, reduceCtorEq, Except.ok.injEq, Option.mem_some_iff, forall_eq', false_iff, not_and]
        omega
      · simp only [hlarge, if_false, Except.ok.injEq, Option.mem_some_iff, forall_eq', iff_self_and]
        omega

theorem validate_eq_tooLarge_iff {limit : Option Nat} {text : String} {n l : Nat} :
    validate limit text = .error (.tooLarge n l) ↔ parse text = .ok n ∧ limit = some l ∧ l < n := by
  unfold validate
  cases hparse : parse text with
  | error e =>
    have hne : e ≠ .tooLarge n l := fun h => parse_ne_tooLarge (h ▸ hparse)
    simp [hne]
  | ok m =>
    cases limit with
    | none => simp
    | some k =>
      by_cases hlarge : k < m
      · simp only [hlarge, if_true, Except.error.injEq, SizeError.tooLarge.injEq, Except.ok.injEq, Option.some.injEq]
        constructor
        · rintro ⟨rfl, rfl⟩
          exact ⟨rfl, rfl, hlarge⟩
        · rintro ⟨rfl, rfl, -⟩
          exact ⟨rfl, rfl⟩
      · simp only [hlarge, if_false, reduceCtorEq, Except.ok.injEq, Option.some.injEq, false_iff]
        rintro ⟨rfl, rfl, h⟩
        exact hlarge h

/-- A limit changes nothing about a text that is no size. -/
theorem validate_eq_error_iff {limit : Option Nat} {text : String} {e : SizeError} (he : ∀ n l, e ≠ .tooLarge n l) :
    validate limit text = .error e ↔ parse text = .error e := by
  unfold validate
  cases parse text with
  | error e' => rfl
  | ok m =>
    cases limit with
    | none => simp
    | some l =>
      by_cases hlarge : l < m
      · simpa [hlarge] using (he m l).symm
      · simp [hlarge]

def parseWord? (text : String) : Option UInt64 :=
  if text.isEmpty then none else Decimal.readWord? 0 text.toList

theorem map_toNat_parseWord? (text : String) : (parseWord? text).map UInt64.toNat = (parse text).toOption := by
  unfold parseWord? parse
  split
  · rfl
  · rename_i hempty
    have hne : text.toList ≠ [] := by simpa using hempty
    rw [Decimal.map_toNat_readWord?_zero hne]
    split <;> rename_i hread <;> rw [hread] <;> rfl

/-- For every text and every limit, or none: a size is accepted exactly if the text is a numeral of a 64-bit number
within the limit, and is too large exactly if it is one beyond it. Only the empty text is empty, and every other text
is invalid, a numeral that leaves the words and a text with any other character among them. The numeral of a number
within the limit is accepted as this number, and reading in words comes to the same. -/
theorem validate_exact (limit : Option Nat) (text : String) :
    (∀ n, validate limit text = .ok n ↔ (Denotes text n ∧ n < UInt64.size) ∧ ∀ l ∈ limit, n ≤ l) ∧
    (validate limit text = .error .empty ↔ text = "") ∧
    (∀ n l, validate limit text = .error (.tooLarge n l) ↔
      (Denotes text n ∧ n < UInt64.size) ∧ limit = some l ∧ l < n) ∧
    (∀ t, validate limit text = .error (.invalid t) ↔
      t = text ∧ text ≠ "" ∧ ¬ ∃ n, Denotes text n ∧ n < UInt64.size) ∧
    (∀ n, Denotes text n → UInt64.size ≤ n → validate limit text = .error (.invalid text)) ∧
    (∀ c ∈ text.toList, ¬ ('0' ≤ c ∧ c ≤ '9') → validate limit text = .error (.invalid text)) ∧
    (∀ n, n < UInt64.size → (∀ l ∈ limit, n ≤ l) → validate limit (String.ofList (Decimal.digits n)) = .ok n) ∧
    (parseWord? text).map UInt64.toNat = (parse text).toOption := by
  have hinvalid : ∀ t, validate limit text = .error (.invalid t) ↔
      t = text ∧ text ≠ "" ∧ ¬ ∃ n, Denotes text n ∧ n < UInt64.size := fun t => by
    rw [validate_eq_error_iff (by simp), parse_eq_invalid_iff]
  refine ⟨fun n => ?_, ?_, fun n l => ?_, hinvalid, ?_, ?_, fun n => validate_digits, map_toNat_parseWord? text⟩
  · rw [validate_eq_ok_iff, parse_eq_ok_iff]
  · rw [validate_eq_error_iff (by simp), parse_eq_empty_iff]
  · rw [validate_eq_tooLarge_iff, parse_eq_ok_iff]
  · intro n hn hlarge
    refine (hinvalid text).2 ⟨rfl, hn.nonempty, ?_⟩
    rintro ⟨m, hm, hbound⟩
    rw [hm.unique hn] at hbound
    omega
  · intro c hc hother
    refine (hinvalid text).2 ⟨rfl, ?_, ?_⟩
    · rintro rfl
      simp at hc
    · rintro ⟨m, hm, -⟩
      exact hother (hm.digits c hc)

/-- Zeros in front change nothing, the limit itself is within it and the next number is not. The first number of more
than 64 bits is invalid and not zero, and so are a digit of another script and a sign. -/
theorem numerals_around_the_limit :
    let limit : Option Nat := some 18446744073709551614
    Denotes "0018446744073709551614" 18446744073709551614 ∧
      validate limit "0018446744073709551614" = .ok 18446744073709551614 ∧
      validate limit "18446744073709551615" = .error (.tooLarge 18446744073709551615 18446744073709551614) ∧
      validate limit "18446744073709551616" = .error (.invalid "18446744073709551616") ∧
      validate limit "1\u0663" = .error (.invalid "1\u0663") ∧
      validate limit "+5" = .error (.invalid "+5") ∧
      validate limit (String.ofList (Decimal.digits 18446744073709551614)) = .ok 18446744073709551614 := by
  intro limit
  have hpadded : Denotes "0018446744073709551614" 18446744073709551614 :=
    denotes_iff.2 ⟨by decide, List.all_eq_true.1 (by decide), by decide⟩
  have hlast : Denotes "18446744073709551615" 18446744073709551615 :=
    denotes_iff.2 ⟨by decide, List.all_eq_true.1 (by decide), by decide⟩
  have hbeyond : Denotes "18446744073709551616" 18446744073709551616 :=
    denotes_iff.2 ⟨by decide, List.all_eq_true.1 (by decide), by decide⟩
  have hlimit : ∀ l ∈ limit, 18446744073709551614 ≤ l := by simp [limit]
  obtain ⟨hok, -, -, -, -, -, hdigits, -⟩ := validate_exact limit "0018446744073709551614"
  obtain ⟨-, -, htooLarge, -⟩ := validate_exact limit "18446744073709551615"
  obtain ⟨-, -, -, -, hlong, -⟩ := validate_exact limit "18446744073709551616"
  obtain ⟨-, -, -, -, -, hscript, -⟩ := validate_exact limit "1\u0663"
  obtain ⟨-, -, -, -, -, hsign, -⟩ := validate_exact limit "+5"
  exact ⟨hpadded, (hok _).2 ⟨⟨hpadded, by decide⟩, hlimit⟩,
    (htooLarge _ _).2 ⟨⟨hlast, by decide⟩, rfl, by decide⟩, hlong _ hbeyond (by decide),
    hscript '\u0663' (by decide) (by decide), hsign '+' (by decide) (by decide),
    hdigits _ (by decide) hlimit⟩

end Size

end Goodput
