import Mathlib.Algebra.Group.Nat.Defs
import Mathlib.Data.List.Forall2
import Goodput.Split.StreamCount
import Goodput.Proofs.SizeText
import Goodput.Proofs.Text
/-!
# The texts of stream counts

`StreamCount.Says` is the grammar of stream counts, and the reader accepts exactly its texts (`parse_eq_ok_iff`).
So a fixed count that was read is a power of two and at most sixteen. Refused texts are numerals of other counts or
nothing of the kind (`parse_cases`), and `parse_exact` says which answer every text gets.
-/

namespace Goodput

theorem isPowerOfTwo_iff {n : Nat} : isPowerOfTwo n = true ↔ ∃ e, n = 2 ^ e := by
  simp only [isPowerOfTwo, Bool.and_eq_true, decide_eq_true_eq, beq_iff_eq]
  constructor
  · rintro ⟨-, h⟩
    exact ⟨Nat.log2 n, h.symm⟩
  · rintro ⟨e, rfl⟩
    exact ⟨Nat.two_pow_pos e, by rw [Nat.log2_two_pow]; rfl⟩

namespace StreamCount

/-- A power of two up to the limit on streams. -/
def Allowed (n : Nat) : Prop := (∃ e, n = 2 ^ e) ∧ n ≤ maxStreams

/-- The count is automatic or one that is allowed. -/
def Proper : StreamCount → Prop
  | .auto => True
  | .fixed n => Allowed n

theorem allowed_iff {n : Nat} : (isPowerOfTwo n && decide (n ≤ maxStreams)) = true ↔ Allowed n := by
  rw [Bool.and_eq_true, isPowerOfTwo_iff, decide_eq_true_eq]
  exact Iff.rfl

theorem ofNat_eq_ok_iff {n : Nat} {s : StreamCount} : ofNat n = .ok s ↔ s = .fixed n ∧ Allowed n := by
  unfold ofNat
  rw [← allowed_iff]
  split
  · rename_i h
    simp [h, eq_comm]
  · rename_i h
    simp [h]

/-- White space aside, the text is `auto` in letters of any case, or a numeral of an allowed count, perhaps with a
plus sign in front. -/
inductive Says (cs : List Char) : StreamCount → Prop
  | auto {core} : Text.Trims cs core → Text.sameIgnoringCase core "auto".toList = true → Says cs .auto
  | fixed {core digits n} : Text.Trims cs core → core = digits ∨ core = '+' :: digits →
      Decimal.Spells digits n → Allowed n → Says cs (.fixed n)

end StreamCount

namespace Decimal

/-- Exactly the numerals below the bound are read, with a plus sign or without. -/
theorem parseSigned?_eq_some_iff {bound n : Nat} {cs : List Char} :
    parseSigned? bound cs = some n ↔
      ∃ digits, (cs = digits ∨ cs = '+' :: digits) ∧ Spells digits n ∧ n < bound := by
  unfold parseSigned?
  split
  · rename_i digits
    rw [parse?_eq_some_iff]
    constructor
    · exact fun h => ⟨digits, .inr rfl, h⟩
    · rintro ⟨digits', rfl | hd, h⟩
      · -- A plus sign is no digit.
        exact absurd (h.1.digits '+' List.mem_cons_self) (by decide)
      · cases hd
        exact h
  · rename_i hsign
    rw [parse?_eq_some_iff]
    constructor
    · exact fun h => ⟨cs, .inl rfl, h⟩
    · rintro ⟨digits, rfl | rfl, h⟩
      · exact h
      · exact absurd rfl (hsign digits)

end Decimal

namespace StreamCount

theorem toLower_of_lt {c : Char} (h : c.toNat < 'A'.toNat) : c.toLower = c := by
  refine dif_neg fun hupper => ?_
  have hlow := UInt32.le_iff_toNat_le.1 hupper.1
  exact absurd (Nat.lt_of_le_of_lt hlow h) (Nat.lt_irrefl _)

/-- A numeral is not the word: it starts with a sign or a digit, which stand before the letters. -/
theorem not_auto_of_spells {core digits : List Char} {n : Nat} (hcore : core = digits ∨ core = '+' :: digits)
    (hdigits : Decimal.Spells digits n) : Text.sameIgnoringCase core "auto".toList = false := by
  have hhead : ∀ c ∈ core.head?, c.toNat < 'A'.toNat := by
    intro c hc
    rcases hcore with rfl | rfl
    · have hdigit := (Decimal.isDigit_iff.1 (hdigits.digits c (List.mem_of_head? hc))).2
      exact Nat.lt_of_le_of_lt hdigit (by decide)
    · cases hc
      decide
  cases core with
  | nil => rfl
  | cons c core =>
    have hc : c.toNat < 'A'.toNat := hhead c rfl
    have hne : c.toLower ≠ 'a' := by
      rw [toLower_of_lt hc]
      rintro rfl
      exact absurd hc (by decide)
    simp [Text.sameIgnoringCase, Text.lowerAscii, hne]

/-- The reader accepts exactly the texts of the grammar. -/
theorem parse_eq_ok_iff {text : String} {s : StreamCount} : parse text = .ok s ↔ Says text.toList s := by
  unfold parse
  dsimp only
  constructor
  · intro h
    split at h
    · rename_i hauto
      cases h
      exact .auto (Text.trims_trim _) hauto
    · split at h
      · cases h
      · rename_i n hread
        obtain ⟨digits, hcore, hdigits, -⟩ := Decimal.parseSigned?_eq_some_iff.1 hread
        obtain ⟨rfl, hallowed⟩ := ofNat_eq_ok_iff.1 h
        exact .fixed (Text.trims_trim _) hcore hdigits hallowed
  · intro h
    cases h with
    | auto htrim hauto =>
      rw [Text.trims_iff] at htrim
      rw [htrim, if_pos hauto]
    | fixed htrim hcore hdigits hallowed =>
      rename_i core digits n
      rw [Text.trims_iff] at htrim
      have hbound : n < UInt32.size := Nat.lt_of_le_of_lt hallowed.2 (by decide)
      have hread := Decimal.parseSigned?_eq_some_iff.2 ⟨digits, hcore, hdigits, hbound⟩
      rw [htrim, not_auto_of_spells hcore hdigits]
      simp [hread, ofNat_eq_ok_iff.2 ⟨rfl, hallowed⟩]

theorem proper_of_parse {text : String} {s : StreamCount} (h : parse text = .ok s) : s.Proper := by
  cases parse_eq_ok_iff.1 h with
  | auto => trivial
  | fixed _ _ _ hallowed => exact hallowed

/-! ## Which answer a text gets -/

theorem toNat_toLower (c : Char) :
    c.toLower.toNat = if 65 ≤ c.toNat ∧ c.toNat ≤ 90 then c.toNat + 32 else c.toNat := by
  have hcapital : c.val ≥ 'A'.val ∧ c.val ≤ 'Z'.val ↔ 65 ≤ c.toNat ∧ c.toNat ≤ 90 := by
    rw [ge_iff_le, UInt32.le_iff_toNat_le, UInt32.le_iff_toNat_le]
    exact Iff.rfl
  unfold Char.toLower
  split
  · rename_i h
    rw [if_pos (hcapital.1 h)]
    have hroom : c.toNat + 32 < 2 ^ 32 := by have := (hcapital.1 h).2; omega
    exact (UInt32.toNat_add c.val 32).trans (Nat.mod_eq_of_lt hroom)
  · rename_i h
    rw [if_neg (mt hcapital.2 h)]

/-- Two characters become one small letter: the letter itself and its capital. -/
theorem toLower_eq_iff {c small capital : Char} (hcapital : 65 ≤ capital.toNat ∧ capital.toNat ≤ 90)
    (hsmall : small.toNat = capital.toNat + 32) : c.toLower = small ↔ c = small ∨ c = capital := by
  rw [← Char.toNat_inj, ← Char.toNat_inj, ← Char.toNat_inj, toNat_toLower]
  split <;> omega

/-- The word `auto`, each of its letters small or capital. -/
def IsAuto (t : String) : Prop :=
  List.Forall₂ (· ∈ ·) t.toList [['a', 'A'], ['u', 'U'], ['t', 'T'], ['o', 'O']]

theorem isAuto_iff {t : String} : IsAuto t ↔ Text.sameIgnoringCase t.toList "auto".toList = true := by
  have ha : ∀ c : Char, c.toLower = 'a' ↔ c = 'a' ∨ c = 'A' := fun c => toLower_eq_iff (by decide) (by decide)
  have hu : ∀ c : Char, c.toLower = 'u' ↔ c = 'u' ∨ c = 'U' := fun c => toLower_eq_iff (by decide) (by decide)
  have ht : ∀ c : Char, c.toLower = 't' ↔ c = 't' ∨ c = 'T' := fun c => toLower_eq_iff (by decide) (by decide)
  have ho : ∀ c : Char, c.toLower = 'o' ↔ c = 'o' ∨ c = 'O' := fun c => toLower_eq_iff (by decide) (by decide)
  have hword : Text.lowerAscii "auto".toList = ['a', 'u', 't', 'o'] := by decide
  rw [Text.sameIgnoringCase, beq_iff_eq, hword, Text.lowerAscii, ← List.forall₂_eq_eq_eq, List.forall₂_map_left_iff,
    IsAuto]
  simp only [List.forall₂_cons_right_iff, List.forall₂_nil_right_iff, ha, hu, ht, ho, List.mem_cons, List.not_mem_nil,
    or_false]

/-- A numeral of this number, perhaps with one plus sign in front. -/
def IsNumeral (t : String) (n : Nat) : Prop := ∃ numeral, (t = numeral ∨ t = "+" ++ numeral) ∧ Size.Denotes numeral n

theorem isNumeral_iff {t : String} {n : Nat} :
    IsNumeral t n ↔ ∃ digits, (t.toList = digits ∨ t.toList = '+' :: digits) ∧ Decimal.Spells digits n := by
  have hsign : ∀ numeral, t = "+" ++ numeral ↔ t.toList = '+' :: numeral.toList := fun numeral => by
    rw [← String.toList_inj, String.toList_append]
    exact Iff.rfl
  constructor
  · rintro ⟨numeral, ht, hn⟩
    rw [hsign, ← String.toList_inj] at ht
    exact ⟨numeral.toList, ht, Size.denotes_iff.1 hn⟩
  · rintro ⟨digits, ht, hn⟩
    refine ⟨String.ofList digits, ?_, Size.denotes_iff.2 (by rwa [String.toList_ofList])⟩
    rwa [hsign, ← String.toList_inj, String.toList_ofList]

theorem not_auto_of_numeral {t : String} {n : Nat} (hn : IsNumeral t n) : ¬ IsAuto t := by
  obtain ⟨digits, ht, hdigits⟩ := isNumeral_iff.1 hn
  rw [isAuto_iff, not_auto_of_spells ht hdigits]
  exact Bool.false_ne_true

theorem parseSigned?_isNumeral {bound n : Nat} {t : String} :
    Decimal.parseSigned? bound t.toList = some n ↔ IsNumeral t n ∧ n < bound := by
  rw [isNumeral_iff, Decimal.parseSigned?_eq_some_iff]
  constructor
  · rintro ⟨digits, ht, hdigits, hbound⟩
    exact ⟨⟨digits, ht, hdigits⟩, hbound⟩
  · rintro ⟨⟨digits, ht, hdigits⟩, hbound⟩
    exact ⟨digits, ht, hdigits, hbound⟩

/-- Reading finds one number in a text, and under a bound that leaves room for both it would find either. -/
theorem IsNumeral.unique {t : String} {m n : Nat} (hm : IsNumeral t m) (hn : IsNumeral t n) : m = n := by
  have hreadm : Decimal.parseSigned? (m + n + 1) t.toList = some m := parseSigned?_isNumeral.2 ⟨hm, by omega⟩
  have hreadn : Decimal.parseSigned? (m + n + 1) t.toList = some n := parseSigned?_isNumeral.2 ⟨hn, by omega⟩
  exact Option.some.inj (hreadm.symm.trans hreadn)

theorem allowed_iff_mem {n : Nat} : Allowed n ↔ n ∈ [1, 2, 4, 8, 16] := by
  have hsmall : ∀ n ≤ maxStreams, (isPowerOfTwo n && decide (n ≤ maxStreams)) = true ↔ n ∈ [1, 2, 4, 8, 16] := by
    decide
  by_cases hn : n ≤ maxStreams
  · rw [← allowed_iff]
    exact hsmall n hn
  · have hlarge : n ∉ [1, 2, 4, 8, 16] := fun h => hn ((by decide : ∀ m ∈ [1, 2, 4, 8, 16], m ≤ maxStreams) n h)
    exact iff_of_false (fun h => hn h.2) hlarge

/-- A stream count that the reader can give back prints to a text that it reads as the same. -/
theorem parse_text {s : StreamCount} (hs : s.Proper) : parse s.text = .ok s := by
  rw [parse_eq_ok_iff]
  cases s with
  | auto =>
    have htrim : Text.Trims "auto".toList "auto".toList := Text.trims_iff.2 (by decide)
    exact .auto htrim (by decide)
  | fixed n =>
    have htext : (StreamCount.fixed n).text.toList = Decimal.digits n := String.toList_ofList
    have hspells : Decimal.Spells (Decimal.digits n) n :=
      ⟨Decimal.digits_ne_nil n, fun _ => Decimal.isDigit_of_mem_digits, Decimal.value_digits n⟩
    rw [htext]
    exact .fixed (Text.trims_iff.2 (Text.trim_digits n)) (.inl rfl) hspells hs

theorem ofNat_eq_error_iff {n : Nat} {e : StreamCountError} :
    ofNat n = .error e ↔ e = .outOfRange n ∧ ¬ Allowed n := by
  unfold ofNat
  rw [← allowed_iff]
  split
  · rename_i h
    simp [h]
  · rename_i h
    simp [h, eq_comm]

variable {text t : String} (ht : Text.trim text.toList = t.toList)
include ht

/-- What is left of a text is the word, a numeral of 32 bits, or neither. -/
theorem parse_cases :
    (IsAuto t ∧ parse text = .ok .auto) ∨
    (∃ n, (IsNumeral t n ∧ n < UInt32.size) ∧ parse text = ofNat n) ∨
    ((¬ IsAuto t ∧ ¬ ∃ n, IsNumeral t n ∧ n < UInt32.size) ∧ parse text = .error (.notANumber t)) := by
  unfold parse
  rw [ht]
  dsimp only
  split
  · rename_i hauto
    exact .inl ⟨isAuto_iff.2 hauto, rfl⟩
  · rename_i hauto
    split
    · rename_i hnone
      refine .inr (.inr ⟨⟨mt isAuto_iff.1 hauto, ?_⟩, by rw [String.ofList_toList]⟩)
      rintro ⟨n, hn⟩
      rw [parseSigned?_isNumeral.2 hn] at hnone
      cases hnone
    · rename_i n hread
      exact .inr (.inl ⟨n, parseSigned?_isNumeral.1 hread, rfl⟩)

theorem parse_eq_auto_iff : parse text = .ok .auto ↔ IsAuto t := by
  rcases parse_cases ht with ⟨hauto, hparse⟩ | ⟨n, ⟨hn, -⟩, hparse⟩ | ⟨⟨hauto, -⟩, hparse⟩
  · simp [hparse, hauto]
  · simp [hparse, ofNat_eq_ok_iff, not_auto_of_numeral hn]
  · simp [hparse, hauto]

/-- Every answer but two comes from a numeral of 32 bits. -/
theorem parse_eq_iff_ofNat {a : Except StreamCountError StreamCount} (hword : a ≠ .ok .auto)
    (hother : ∀ u, a ≠ .error (.notANumber u)) :
    parse text = a ↔ ∃ n, (IsNumeral t n ∧ n < UInt32.size) ∧ ofNat n = a := by
  rcases parse_cases ht with ⟨hauto, hparse⟩ | ⟨n, hn, hparse⟩ | ⟨⟨-, hnone⟩, hparse⟩
  · rw [hparse]
    refine iff_of_false hword.symm ?_
    rintro ⟨n, ⟨hn, -⟩, -⟩
    exact not_auto_of_numeral hn hauto
  · rw [hparse]
    constructor
    · exact fun h => ⟨n, hn, h⟩
    · rintro ⟨m, ⟨hm, -⟩, h⟩
      rwa [hm.unique hn.1] at h
  · rw [hparse]
    refine iff_of_false (hother t).symm ?_
    rintro ⟨n, hn, -⟩
    exact hnone ⟨n, hn⟩

theorem parse_eq_fixed_iff {n : Nat} : parse text = .ok (.fixed n) ↔ IsNumeral t n ∧ n ∈ [1, 2, 4, 8, 16] := by
  simp only [parse_eq_iff_ofNat ht (a := .ok (.fixed n)) (by simp) (by simp), ofNat_eq_ok_iff, fixed.injEq,
    ← allowed_iff_mem]
  constructor
  · rintro ⟨m, ⟨hm, -⟩, rfl, hallowed⟩
    exact ⟨hm, hallowed⟩
  · rintro ⟨hn, hallowed⟩
    exact ⟨n, ⟨hn, Nat.lt_of_le_of_lt hallowed.2 (by decide)⟩, rfl, hallowed⟩

theorem parse_eq_outOfRange_iff {n : Nat} :
    parse text = .error (.outOfRange n) ↔ (IsNumeral t n ∧ n < UInt32.size) ∧ n ∉ [1, 2, 4, 8, 16] := by
  simp only [parse_eq_iff_ofNat ht (a := .error (.outOfRange n)) (by simp) (by simp), ofNat_eq_error_iff,
    StreamCountError.outOfRange.injEq, ← allowed_iff_mem]
  constructor
  · rintro ⟨m, hm, rfl, hallowed⟩
    exact ⟨hm, hallowed⟩
  · rintro ⟨hn, hallowed⟩
    exact ⟨n, hn, rfl, hallowed⟩

theorem parse_eq_notANumber_iff {u : String} :
    parse text = .error (.notANumber u) ↔ u = t ∧ ¬ IsAuto t ∧ ¬ ∃ n, IsNumeral t n ∧ n < UInt32.size := by
  rcases parse_cases ht with ⟨hauto, hparse⟩ | ⟨n, hn, hparse⟩ | ⟨hneither, hparse⟩
  · simp [hparse, hauto]
  · rw [hparse, ofNat_eq_error_iff]
    refine iff_of_false (fun h => nomatch h.1) ?_
    rintro ⟨-, -, hnone⟩
    exact hnone ⟨n, hn⟩
  · rw [hparse, Except.error.injEq, StreamCountError.notANumber.injEq, eq_comm]
    exact (and_iff_left hneither).symm

omit ht

/-- For every text, with `t` what is left of it without the white space around it: it is read as automatic exactly if
`t` is the word, as a fixed count exactly if `t` is a numeral of one of five, and as out of range exactly if `t` is a
numeral of another number of 32 bits. Every other text is not a number, a numeral of more than 32 bits among them. What
was read prints to a text that is read as the same. -/
theorem parse_exact (text : String) :
    let t := String.ofList (Text.trim text.toList)
    Text.Trims text.toList t.toList ∧
    (parse text = .ok .auto ↔ IsAuto t) ∧
    (∀ n, parse text = .ok (.fixed n) ↔ IsNumeral t n ∧ n ∈ [1, 2, 4, 8, 16]) ∧
    (∀ n, parse text = .error (.outOfRange n) ↔ (IsNumeral t n ∧ n < UInt32.size) ∧ n ∉ [1, 2, 4, 8, 16]) ∧
    (∀ u, parse text = .error (.notANumber u) ↔ u = t ∧ ¬ IsAuto t ∧ ¬ ∃ n, IsNumeral t n ∧ n < UInt32.size) ∧
    (∀ n, IsNumeral t n → UInt32.size ≤ n → parse text = .error (.notANumber t)) ∧
    ∀ s, parse text = .ok s → parse s.text = .ok s := by
  intro t
  have ht : Text.trim text.toList = t.toList := String.toList_ofList.symm
  refine ⟨Text.trims_iff.2 ht, parse_eq_auto_iff ht, fun n => parse_eq_fixed_iff ht,
    fun n => parse_eq_outOfRange_iff ht, fun u => parse_eq_notANumber_iff ht, fun n hn hlarge => ?_,
    fun s hs => parse_text (proper_of_parse hs)⟩
  refine (parse_eq_notANumber_iff ht).2 ⟨rfl, not_auto_of_numeral hn, ?_⟩
  rintro ⟨m, hm, hsmall⟩
  rw [hm.unique hn] at hsmall
  omega

/-- Zeros and one plus sign in front change nothing. Twenty-four is a number, and out of range; the first number that 32
bits would wrap to one is not a number. -/
theorem counts_around_the_list :
    IsNumeral "+0016" 16 ∧ parse "\u3000+0016\t" = .ok (.fixed 16) ∧
      parse (StreamCount.fixed 16).text = .ok (.fixed 16) ∧
      parse " AuTo " = .ok .auto ∧
      parse "24" = .error (.outOfRange 24) ∧
      IsNumeral "4294967297" 4294967297 ∧ parse "4294967297" = .error (.notANumber "4294967297") := by
  have hsixteen : IsNumeral "+0016" 16 :=
    ⟨"0016", .inr rfl, Size.denotes_iff.2 ⟨by decide, List.all_eq_true.1 (by decide), by decide⟩⟩
  have htwentyFour : IsNumeral "24" 24 :=
    ⟨"24", .inl rfl, Size.denotes_iff.2 ⟨by decide, List.all_eq_true.1 (by decide), by decide⟩⟩
  have hlong : IsNumeral "4294967297" 4294967297 :=
    ⟨"4294967297", .inl rfl, Size.denotes_iff.2 ⟨by decide, List.all_eq_true.1 (by decide), by decide⟩⟩
  obtain ⟨-, -, hfixed, -, -, -, hprints⟩ := parse_exact "\u3000+0016\t"
  obtain ⟨-, hauto, -⟩ := parse_exact " AuTo "
  obtain ⟨-, -, -, hrange, -⟩ := parse_exact "24"
  obtain ⟨-, -, -, -, -, hlarge, -⟩ := parse_exact "4294967297"
  have hread : parse "\u3000+0016\t" = .ok (.fixed 16) := (hfixed 16).2 ⟨hsixteen, by decide⟩
  exact ⟨hsixteen, hread, hprints _ hread, hauto.2 (isAuto_iff.2 (by decide)),
    (hrange 24).2 ⟨⟨htwentyFour, by decide⟩, by decide⟩, hlong, hlarge _ hlong (by decide)⟩

end StreamCount

end Goodput
