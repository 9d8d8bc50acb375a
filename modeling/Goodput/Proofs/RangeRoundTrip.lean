import Goodput.Proofs.RangeHeader
/-!
# Accepted ranges lie inside their resource

Whatever the text of a header is, a range that is read from it has bytes and lies inside the resource. So it is
one of the ranges that survive printing, and both headers give it back.
-/

namespace Goodput

namespace ByteRange

/-- Both headers of the range are read as the range. -/
structure ReadsBack (r : ByteRange) (size : Nat) : Prop where
  request : parseRange r.rangeHeader size = .ok r
  announcement : parseContentRange (r.contentRange size) size = .ok r

theorem ofEnds_inside {first last size : Nat} (hends : first ≤ last) (hlast : last < size) :
    (ofEnds first last).Inside size := by
  constructor
  · exact Nat.le_add_left 1 (last - first)
  · simp only [ofEnds]
    omega

end ByteRange

/-! ## What a text asks for -/

namespace RangeSpec

/-- The ends of a range with two ends are in order. -/
def Ordered : RangeSpec → Prop
  | .between first last => first ≤ last
  | .suffix _ | .fromOffset _ => True

theorem ofEnds?_ordered {first last : List Char} {spec : RangeSpec} (h : ofEnds? first last = some spec) :
    spec.Ordered := by
  unfold ofEnds? at h
  split at h
  · cases h
  · obtain ⟨n, -, rfl⟩ := Option.map_eq_some_iff.1 h
    trivial
  · obtain ⟨n, -, rfl⟩ := Option.map_eq_some_iff.1 h
    trivial
  · split at h
    · split at h
      · cases h
      · rename_i hends
        cases h
        exact Nat.le_of_not_lt hends
    · cases h

theorem parse?_ordered {cs : List Char} {spec : RangeSpec} (h : parse? cs = some spec) : spec.Ordered := by
  unfold parse? at h
  split at h
  · cases h
  · split at h
    · cases h
    · split at h
      · cases h
      · exact ofEnds?_ordered h

/-- The bytes that are served lie inside the resource, so nothing is taken from zero and no end overflows. -/
theorem resolve_inside {spec : RangeSpec} {size : Nat} {r : ByteRange} (hspec : spec.Ordered)
    (h : spec.resolve size = some r) : r.Inside size := by
  cases spec with
  | suffix n =>
    simp only [resolve] at h
    split at h
    · cases h
    · cases h
      exact ByteRange.ofEnds_inside (by omega) (by omega)
  | fromOffset first =>
    simp only [resolve] at h
    split at h
    · cases h
    · cases h
      exact ByteRange.ofEnds_inside (by omega) (by omega)
  | between first last =>
    have hends : first ≤ last := hspec
    simp only [resolve] at h
    split at h
    · cases h
    · cases h
      exact ByteRange.ofEnds_inside (by omega) (by omega)

end RangeSpec

theorem ContentSpec.resolve_inside {spec : ContentSpec} {size : Nat} {r : ByteRange}
    (h : spec.resolve size = some r) : r.Inside size := by
  unfold resolve at h
  split at h
  · cases h
  · cases h
    exact ByteRange.ofEnds_inside (by omega) (by omega)

namespace ByteRange

/-! ## What the readers accept -/

theorem parseRange_ok {text : String} {size : Nat} {r : ByteRange} (h : parseRange text size = .ok r) :
    ∃ spec, RangeSpec.parse? text.toList = some spec ∧ spec.resolve size = some r := by
  unfold parseRange at h
  split at h
  · cases h
  · rename_i spec hspec
    split at h
    · cases h
    · rename_i range hrange
      cases h
      exact ⟨spec, hspec, hrange⟩

theorem parseContentRange_ok {text : String} {size : Nat} {r : ByteRange}
    (h : parseContentRange text size = .ok r) :
    ∃ spec, ContentSpec.parse? size text.toList = some spec ∧ spec.resolve size = some r := by
  unfold parseContentRange at h
  split at h
  · cases h
  · rename_i spec hspec
    split at h
    · cases h
    · rename_i range hrange
      cases h
      exact ⟨spec, hspec, hrange⟩

theorem inside_of_parseRange {text : String} {size : Nat} {r : ByteRange} (h : parseRange text size = .ok r) :
    r.Inside size := by
  obtain ⟨spec, hspec, hrange⟩ := parseRange_ok h
  exact RangeSpec.resolve_inside (RangeSpec.parse?_ordered hspec) hrange

theorem inside_of_parseContentRange {text : String} {size : Nat} {r : ByteRange}
    (h : parseContentRange text size = .ok r) : r.Inside size := by
  obtain ⟨spec, -, hrange⟩ := parseContentRange_ok h
  exact ContentSpec.resolve_inside hrange

theorem readsBack_of_inside {r : ByteRange} {size : Nat} (h : r.Inside size) (hsize : size < UInt64.size) :
    r.ReadsBack size :=
  ⟨parseRange_rangeHeader h hsize, parseContentRange_contentRange h hsize⟩

/-- For a resource of any size of 64 bits: every range that has bytes and lies inside it is read back from both
of its headers, and a range that either reader accepts, from whatever text, is such a range. -/
theorem range_headers_round_trip (size : UInt64) :
    (∀ r : ByteRange, r.Inside size.toNat → r.ReadsBack size.toNat) ∧
      ∀ (text : String) (r : ByteRange),
        parseRange text size.toNat = .ok r ∨ parseContentRange text size.toNat = .ok r →
          r.Inside size.toNat ∧ r.ReadsBack size.toNat := by
  have hsize : size.toNat < UInt64.size := size.toNat_lt_size
  constructor
  · intro r hinside
    exact readsBack_of_inside hinside hsize
  · intro text r haccepted
    have hinside : r.Inside size.toNat := haccepted.elim inside_of_parseRange inside_of_parseContentRange
    exact ⟨hinside, readsBack_of_inside hinside hsize⟩

/-- The last byte of the largest resource, and a header that asks for more than there is. -/
theorem last_byte_reads_back :
    let size : UInt64 := 18446744073709551615
    let r : ByteRange := ⟨18446744073709551614, 1⟩
    r.Inside size.toNat ∧ r.ReadsBack size.toNat ∧
      parseRange " bytes=18446744073709551614-18446744073709551615" size.toNat = .ok r := by
  intro size r
  have haccepted : parseRange " bytes=18446744073709551614-18446744073709551615" size.toNat = .ok r := by cbv
  have hinside : r.Inside size.toNat := ((range_headers_round_trip size).2 _ r (.inl haccepted)).1
  exact ⟨hinside, (range_headers_round_trip size).1 r hinside, haccepted⟩

end ByteRange

end Goodput
