import Mathlib.Data.List.TakeWhile
import Goodput.Text.Blank
import Goodput.Proofs.Decimal
/-!
# Texts taken apart

A text that was put together around a separator comes apart at the separator, and trimming leaves a text
alone that neither starts nor ends with white space. Numerals hold neither. The converses hold as well: `Trims`
says what trimming takes away, and a text comes apart only where a separator stands; `IsPiece` says what the
pieces are between all separators.
-/

namespace Goodput.Text

/-! ## Trimming -/

theorem trimStart_eq_self {cs : List Char} (h : ∀ c ∈ cs.head?, isBlank c = false) : trimStart cs = cs := by
  cases cs with
  | nil => rfl
  | cons c cs => exact List.dropWhile_cons_of_neg (by simp [h c rfl])

theorem trimEnd_eq_self {cs : List Char} (h : ∀ c ∈ cs.getLast?, isBlank c = false) : trimEnd cs = cs := by
  rw [trimEnd, show cs.reverse.dropWhile isBlank = cs.reverse from trimStart_eq_self (by simpa using h),
    List.reverse_reverse]

theorem trim_eq_self {cs : List Char} (hfirst : ∀ c ∈ cs.head?, isBlank c = false)
    (hlast : ∀ c ∈ cs.getLast?, isBlank c = false) : trim cs = cs := by
  rw [trim, trimStart_eq_self hfirst, trimEnd_eq_self hlast]

/-- The second text is the first without the white space at its ends. -/
structure Trims (cs core : List Char) : Prop where
  around : ∃ before after, cs = before ++ (core ++ after) ∧ (∀ c ∈ before, isBlank c = true) ∧
    ∀ c ∈ after, isBlank c = true
  first : ∀ c ∈ core.head?, isBlank c = false
  last : ∀ c ∈ core.getLast?, isBlank c = false

theorem trimStart_append {before : List Char} (cs : List Char) (h : ∀ c ∈ before, isBlank c = true) :
    trimStart (before ++ cs) = trimStart cs := List.dropWhile_append_of_pos h

theorem trimEnd_append (cs : List Char) {after : List Char} (h : ∀ c ∈ after, isBlank c = true) :
    trimEnd (cs ++ after) = trimEnd cs := by
  have hdrop : (after.reverse ++ cs.reverse).dropWhile isBlank = cs.reverse.dropWhile isBlank :=
    trimStart_append cs.reverse (by simpa using h)
  rw [trimEnd, List.reverse_append, hdrop, trimEnd]

theorem trim_of_trims {cs core : List Char} (h : Trims cs core) : trim cs = core := by
  obtain ⟨⟨before, after, rfl, hbefore, hafter⟩, hfirst, hlast⟩ := h
  rw [trim, trimStart_append _ hbefore]
  cases core with
  | nil =>
    rw [List.nil_append, ← List.append_nil after, trimStart_append _ hafter]
    rfl
  | cons c core =>
    rw [trimStart_eq_self (by simpa using hfirst), trimEnd_append _ hafter, trimEnd_eq_self hlast]

theorem head?_trimStart (cs : List Char) : ∀ c ∈ (trimStart cs).head?, isBlank c = false := by
  intro c hc
  have h := List.head?_dropWhile_not isBlank cs
  rw [show (cs.dropWhile isBlank).head? = some c from hc] at h
  exact h

theorem trims_trim (cs : List Char) : Trims cs (trim cs) := by
  have hstart : cs = cs.takeWhile isBlank ++ trimStart cs := List.takeWhile_append_dropWhile.symm
  have hend : trimStart cs = trim cs ++ ((trimStart cs).reverse.takeWhile isBlank).reverse := by
    rw [trim, trimEnd, ← List.reverse_append, List.takeWhile_append_dropWhile, List.reverse_reverse]
  refine ⟨⟨cs.takeWhile isBlank, ((trimStart cs).reverse.takeWhile isBlank).reverse, ?_, ?_, ?_⟩, ?_, ?_⟩
  · rw [← hend]
    exact hstart
  · exact fun c hc => List.mem_takeWhile_imp hc
  · exact fun c hc => List.mem_takeWhile_imp (List.mem_reverse.1 hc)
  · -- What is left starts where the text starts after its white space.
    intro c hc
    refine head?_trimStart cs c ?_
    rw [hend, List.head?_append, show (trim cs).head? = some c from hc]
    rfl
  · rw [trim, trimEnd, List.getLast?_reverse]
    exact head?_trimStart _

theorem trims_iff {cs core : List Char} : Trims cs core ↔ trim cs = core :=
  ⟨trim_of_trims, fun h => h ▸ trims_trim cs⟩

theorem trim_append_blank (cs : List Char) {blank : List Char} (h : ∀ c ∈ blank, isBlank c = true) :
    trim (cs ++ blank) = trim cs := by
  obtain ⟨⟨before, after, hcs, hbefore, hafter⟩, hfirst, hlast⟩ := trims_trim cs
  refine trim_of_trims ⟨⟨before, after ++ blank, ?_, hbefore, ?_⟩, hfirst, hlast⟩
  · calc cs ++ blank = before ++ (trim cs ++ after) ++ blank := congrArg (· ++ blank) hcs
      _ = before ++ (trim cs ++ (after ++ blank)) := by simp only [List.append_assoc]
  · intro c hc
    rcases List.mem_append.1 hc with hc | hc
    · exact hafter c hc
    · exact h c hc

theorem trim_blank_append {blank : List Char} (cs : List Char) (h : ∀ c ∈ blank, isBlank c = true) :
    trim (blank ++ cs) = trim cs := by
  rw [trim, trimStart_append cs h, trim]

theorem isBlank_digit {c : Char} (h : Decimal.isDigit c = true) : isBlank c = false := by
  obtain ⟨hlow, hhigh⟩ := Decimal.isDigit_iff.1 h
  simp only [isBlank, Bool.or_eq_false_iff, Bool.and_eq_false_iff, decide_eq_false_iff_not, beq_eq_false_iff_ne]
  omega

/-- A text that ends in a numeral does not end in white space. -/
theorem last_digits {cs : List Char} {n : Nat} :
    ∀ c ∈ (cs ++ Decimal.digits n).getLast?, isBlank c = false := by
  intro c hc
  rw [List.getLast?_append, Option.or_of_isSome (by simp)] at hc
  exact isBlank_digit (Decimal.isDigit_of_mem_digits (List.mem_of_getLast? hc))

@[simp] theorem trim_digits (n : Nat) : trim (Decimal.digits n) = Decimal.digits n := by
  have hblank : ∀ c ∈ Decimal.digits n, isBlank c = false :=
    fun c hc => isBlank_digit (Decimal.isDigit_of_mem_digits hc)
  exact trim_eq_self (fun c hc => hblank c (List.mem_of_head? hc)) (fun c hc => hblank c (List.mem_of_getLast? hc))

/-! ## Coming apart -/

theorem splitFirst_append {sep : Char} {before : List Char} (after : List Char) (h : sep ∉ before) :
    splitFirst sep (before ++ sep :: after) = some (before, after) := by
  induction before with
  | nil => simp [splitFirst]
  | cons c before ih =>
    rw [List.mem_cons, not_or] at h
    obtain ⟨hc, hbefore⟩ := h
    rw [List.cons_append, splitFirst, if_neg (fun he => hc he.symm), ih hbefore]
    rfl

theorem dropStart?_append (start rest : List Char) : dropStart? start (start ++ rest) = some rest := by
  simp [dropStart?]

theorem splitFirst_eq_some_iff {sep : Char} {cs before after : List Char} :
    splitFirst sep cs = some (before, after) ↔ cs = before ++ sep :: after ∧ sep ∉ before := by
  constructor
  · intro h
    induction cs generalizing before with
    | nil => cases h
    | cons c cs ih =>
      rw [splitFirst] at h
      split at h
      · rename_i hc
        cases h
        exact ⟨by rw [hc]; rfl, List.not_mem_nil⟩
      · rename_i hc
        obtain ⟨⟨rest, _⟩, hrest, he⟩ := Option.map_eq_some_iff.1 h
        cases he
        obtain ⟨rfl, hsep⟩ := ih hrest
        exact ⟨rfl, by simp [Ne.symm hc, hsep]⟩
  · rintro ⟨rfl, hsep⟩
    exact splitFirst_append after hsep

theorem dropStart?_eq_some_iff {start cs rest : List Char} :
    dropStart? start cs = some rest ↔ cs = start ++ rest := by
  constructor
  · intro h
    unfold dropStart? at h
    split at h
    · rename_i hstart
      obtain ⟨_, rfl⟩ := List.isPrefixOf_iff_prefix.1 hstart
      simpa using h
    · cases h
  · rintro rfl
    exact dropStart?_append start rest

/-! ## Pieces between separators -/

/-- The piece stands in the text between two separators, or between one and an end of the text. -/
structure IsPiece (sep : Char) (piece cs : List Char) : Prop where
  plain : sep ∉ piece
  around : ∃ before after, cs = before ++ (piece ++ after) ∧ (∀ c ∈ before.getLast?, c = sep) ∧
    ∀ c ∈ after.head?, c = sep

theorem splitAll_eq (sep : Char) (cs : List Char) : splitAll sep cs = cs.splitOn sep := by
  induction cs with
  | nil => rfl
  | cons c cs ih =>
    rw [splitAll, List.splitOn_cons_eq_if_modifyHead, ih]
    simp only [beq_iff_eq]
    congr 1
    cases hpieces : cs.splitOn sep with
    | nil => exact absurd hpieces (List.splitOn_ne_nil sep cs)
    | cons piece pieces => rfl

theorem splitAll_of_not_mem {sep : Char} {cs : List Char} (h : sep ∉ cs) : splitAll sep cs = [cs] := by
  rw [splitAll_eq, List.splitOn_eq_singleton h]

theorem splitAll_append (sep : Char) (before after : List Char) :
    splitAll sep (before ++ sep :: after) = splitAll sep before ++ splitAll sep after := by
  rw [splitAll_eq, splitAll_eq, splitAll_eq, List.splitOn_append_cons_self]

/-- A text is a single piece, or a piece, a separator and another text. -/
theorem splitAll_induction (sep : Char) {P : List Char → Prop} (single : ∀ piece, sep ∉ piece → P piece)
    (more : ∀ piece rest, sep ∉ piece → P rest → P (piece ++ sep :: rest)) (cs : List Char) : P cs := by
  induction hn : cs.length using Nat.strong_induction_on generalizing cs with
  | _ n ih =>
    by_cases hsep : sep ∈ cs
    · obtain ⟨piece, rest, rfl, hpiece⟩ := List.eq_append_cons_of_mem hsep
      exact more piece rest hpiece (ih rest.length (by simp at hn; omega) rest rfl)
    · exact single cs hsep

theorem mem_splitAll_iff {sep : Char} {piece cs : List Char} : piece ∈ splitAll sep cs ↔ IsPiece sep piece cs := by
  constructor
  · intro h
    induction cs using splitAll_induction sep with
    | single cs hcs =>
      rw [splitAll_of_not_mem hcs, List.mem_singleton] at h
      subst h
      exact ⟨hcs, [], [], by simp, by simp, by simp⟩
    | more first rest hfirst ih =>
      rw [splitAll_append, splitAll_of_not_mem hfirst, List.singleton_append, List.mem_cons] at h
      rcases h with rfl | h
      · exact ⟨hfirst, [], sep :: rest, rfl, by simp, by simp⟩
      · obtain ⟨hplain, before, after, rfl, hbefore, hafter⟩ := ih h
        refine ⟨hplain, first ++ sep :: before, after, by simp, ?_, hafter⟩
        intro c hc
        cases before with
        | nil => simpa [eq_comm] using hc
        | cons b before => exact hbefore c (by simpa using hc)
  · rintro ⟨hplain, before, after, rfl, hbefore, hafter⟩
    have hend : piece ∈ splitAll sep (piece ++ after) := by
      cases after with
      | nil => rw [List.append_nil, splitAll_of_not_mem hplain]; exact List.mem_singleton_self piece
      | cons c after =>
        rw [hafter c rfl, splitAll_append, splitAll_of_not_mem hplain]
        exact List.mem_cons_self
    rcases List.eq_nil_or_concat before with rfl | ⟨front, c, rfl⟩
    · exact hend
    · rw [List.concat_eq_append] at hbefore ⊢
      rw [hbefore c (by simp), List.append_assoc, List.singleton_append, splitAll_append]
      exact List.mem_append_right _ hend

end Goodput.Text
