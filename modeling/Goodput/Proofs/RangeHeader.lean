import Goodput.Split.RangeHeader
import Goodput.Proofs.Text
/-!
# Range headers read back

A range that has bytes and lies inside its resource survives both headers: what `rangeHeader` and
`contentRange` print, `parseRange` and `parseContentRange` read as the same range. The offsets of such a
range are numerals without white space or separators, so the printed text comes apart where it was put
together.
-/

namespace Goodput

namespace ByteRange

/-- The range has bytes, and a resource of this size has all of them. -/
structure Inside (r : ByteRange) (size : Nat) : Prop where
  nonempty : 1 ≤ r.len
  within : r.start + r.len ≤ size

variable {r : ByteRange} {size : Nat}

theorem Inside.last_lt (h : r.Inside size) : r.last < size := by
  have h1 := h.nonempty
  have h2 := h.within
  unfold last
  omega

theorem Inside.ofEnds_last (h : r.Inside size) : ofEnds r.start r.last = r := by
  have h1 := h.nonempty
  rcases r with ⟨start, len⟩
  simp only [last] at h1 ⊢
  simp only [ofEnds, mk.injEq, true_and]
  omega

theorem start_le_last (r : ByteRange) : r.start ≤ r.last := Nat.le_add_right _ _

/-! ## The printed texts -/

theorem not_mem_ends {c : Char} (hdigit : Decimal.isDigit c = false) (hdash : c ≠ '-') : c ∉ r.ends := by
  simp [ends, Decimal.not_mem_digits hdigit, hdash]

theorem splitFirst_ends (r : ByteRange) :
    Text.splitFirst '-' r.ends = some (Decimal.digits r.start, Decimal.digits r.last) := by
  rw [ends, List.append_assoc]
  exact Text.splitFirst_append _ (Decimal.not_mem_digits (by decide))

theorem trim_ends (r : ByteRange) : Text.trim r.ends = r.ends := by
  refine Text.trim_eq_self ?_ Text.last_digits
  intro c hc
  rw [ends, List.append_assoc, List.head?_append, Option.or_of_isSome (by simp)] at hc
  exact Text.isBlank_digit (Decimal.isDigit_of_mem_digits (List.mem_of_head? hc))

theorem toList_rangeHeader (r : ByteRange) : r.rangeHeader.toList = "bytes=".toList ++ r.ends := by
  unfold rangeHeader
  exact String.toList_ofList

theorem toList_contentRange (r : ByteRange) (size : Nat) :
    (r.contentRange size).toList = "bytes ".toList ++ (r.ends ++ '/' :: Decimal.digits size) := by
  unfold contentRange
  refine String.toList_ofList.trans ?_
  rw [List.append_assoc, List.append_assoc, List.singleton_append]

/-! ## Reading them -/

/-- Two numerals in order ask for the bytes between them. -/
theorem ofEnds?_digits {a b : Nat} (hab : a ≤ b) (hb : b < UInt64.size) :
    RangeSpec.ofEnds? (Decimal.digits a) (Decimal.digits b) = some (.between a b) := by
  have hfirst : RangeSpec.offset? (Decimal.digits a) = some a := Decimal.parse_digits (Nat.lt_of_le_of_lt hab hb)
  have hlast : RangeSpec.offset? (Decimal.digits b) = some b := Decimal.parse_digits hb
  unfold RangeSpec.ofEnds?
  split
  · rename_i h _
    exact absurd h (Decimal.digits_ne_nil a)
  · rename_i h _
    exact absurd h (Decimal.digits_ne_nil a)
  · rename_i h _
    exact absurd h (Decimal.digits_ne_nil b)
  · rw [hfirst, hlast]
    exact if_neg (Nat.not_lt.2 hab)

theorem parse_rangeHeader (h : r.Inside size) (hsize : size < UInt64.size) :
    RangeSpec.parse? r.rangeHeader.toList = some (.between r.start r.last) := by
  have hlast := Nat.lt_trans h.last_lt hsize
  have hcomma : r.ends.contains ',' = false := by
    simpa using not_mem_ends (r := r) (c := ',') (by decide) (by decide)
  have hends := ofEnds?_digits r.start_le_last hlast
  rw [RangeSpec.parse?, toList_rangeHeader, Text.trim_eq_self (by simp +decide) ?_, Text.dropStart?_append]
  · simp only [hcomma, splitFirst_ends, Text.trim_digits, hends, Bool.false_eq_true, if_false]
  · rw [ends, ← List.append_assoc]
    exact Text.last_digits

theorem parse_contentRange (h : r.Inside size) (hsize : size < UInt64.size) :
    ContentSpec.parse? size (r.contentRange size).toList = some ⟨r.start, r.last⟩ := by
  have hlast := Nat.lt_trans h.last_lt hsize
  have hslash : '/' ∉ r.ends := not_mem_ends (by decide) (by decide)
  have hoffset : ∀ n, n < UInt64.size → RangeSpec.offset? (Decimal.digits n) = some n :=
    fun n hn => Decimal.parse_digits hn
  have htotal : ContentSpec.totalAgrees size (Decimal.digits size) = true := by
    simp [ContentSpec.totalAgrees, hoffset size hsize]
  rw [ContentSpec.parse?, toList_contentRange, Text.trim_eq_self (by simp +decide) ?_, Text.dropStart?_append]
  · simp only [Text.splitFirst_append _ hslash, Text.trim_digits, htotal, trim_ends, splitFirst_ends,
      hoffset _ hlast, hoffset _ (Nat.lt_of_le_of_lt r.start_le_last hlast), if_true]
  · rw [← List.singleton_append, ← List.append_assoc, ← List.append_assoc]
    exact Text.last_digits

theorem parseRange_rangeHeader (h : r.Inside size) (hsize : size < UInt64.size) :
    parseRange r.rangeHeader size = .ok r := by
  have hlast := h.last_lt
  have hstart := Nat.lt_of_le_of_lt r.start_le_last hlast
  have hmin : min r.last (size - 1) = r.last := by omega
  rw [parseRange, parse_rangeHeader h hsize]
  simp only [RangeSpec.resolve, if_neg (Nat.not_le.2 hstart), hmin, h.ofEnds_last]

theorem parseContentRange_contentRange (h : r.Inside size) (hsize : size < UInt64.size) :
    parseContentRange (r.contentRange size) size = .ok r := by
  have hlast := h.last_lt
  have hinside : ¬ (r.last < r.start ∨ size ≤ r.last) := by
    have := r.start_le_last
    omega
  rw [parseContentRange, parse_contentRange h hsize]
  simp only [ContentSpec.resolve, if_neg hinside, h.ofEnds_last]

end ByteRange

end Goodput
