import Mathlib.Order.Interval.Set.Basic
import Goodput.Proofs.RangeWords
/-!
# What range headers say

`RangeSpec.Says` and `ContentSpec.Says` are the grammars of the two headers, over the whole text, and the readers
accept exactly these texts (`RangeSpec.parse?_eq_some_iff`, `ContentSpec.parse?_eq_some_iff`). A download is served
the bytes it asks for that exist, no more and no fewer (`parseRange_exact`). An upload is taken at its word if it
lies inside the size it declares, and never cut to fit (`parseContentRange_exact`).
-/

namespace Goodput

/-! ## The texts of a download -/

namespace RangeSpec

/-- An offset: a numeral of a 64-bit number. -/
def Offset (cs : List Char) (n : Nat) : Prop := Decimal.Spells cs n ∧ n < UInt64.size

theorem offset?_eq_some_iff {cs : List Char} {n : Nat} : offset? cs = some n ↔ Offset cs n :=
  Decimal.parse?_eq_some_iff

/-- White space aside, the text is `bytes=` and a rest without a comma. These texts, again without white space, stand
before and after the first dash of the rest. -/
def Parts (cs first last : List Char) : Prop :=
  ∃ rest before after, Text.Trims cs ("bytes=".toList ++ rest) ∧ ',' ∉ rest ∧ rest = before ++ '-' :: after ∧
    '-' ∉ before ∧ Text.Trims before first ∧ Text.Trims after last

/-- What is asked for by the texts before and after the dash, of which one may be empty. -/
inductive Ends : List Char → List Char → RangeSpec → Prop
  | suffix {last n} : Offset last n → Ends [] last (.suffix n)
  | fromOffset {first a} : Offset first a → Ends first [] (.fromOffset a)
  | between {first last a b} : Offset first a → Offset last b → a ≤ b → Ends first last (.between a b)

/-- The grammar of a `Range` header, and what it asks for. -/
def Says (cs : List Char) (spec : RangeSpec) : Prop := ∃ first last, Parts cs first last ∧ Ends first last spec

theorem ofEnds?_eq_some_iff {first last : List Char} {spec : RangeSpec} :
    ofEnds? first last = some spec ↔ Ends first last spec := by
  constructor
  · intro h
    unfold ofEnds? at h
    split at h
    · cases h
    · obtain ⟨n, hn, rfl⟩ := Option.map_eq_some_iff.1 h
      exact .suffix (offset?_eq_some_iff.1 hn)
    · obtain ⟨a, ha, rfl⟩ := Option.map_eq_some_iff.1 h
      exact .fromOffset (offset?_eq_some_iff.1 ha)
    · split at h
      · rename_i a b ha hb
        split at h
        · cases h
        · rename_i hends
          cases h
          exact .between (offset?_eq_some_iff.1 ha) (offset?_eq_some_iff.1 hb) (Nat.le_of_not_lt hends)
      · cases h
  · -- An offset is never empty, so each form comes back to its own branch.
    intro h
    cases h with
    | suffix hlast =>
      have hne := hlast.1.nonempty
      rw [← offset?_eq_some_iff] at hlast
      cases last with
      | nil => exact absurd rfl hne
      | cons c last => simp [ofEnds?, hlast]
    | fromOffset hfirst =>
      have hne := hfirst.1.nonempty
      rw [← offset?_eq_some_iff] at hfirst
      cases first with
      | nil => exact absurd rfl hne
      | cons c first => simp [ofEnds?, hfirst]
    | between hfirst hlast hends =>
      have hne := hfirst.1.nonempty
      have hne' := hlast.1.nonempty
      rw [← offset?_eq_some_iff] at hfirst hlast
      cases first with
      | nil => exact absurd rfl hne
      | cons c first =>
        cases last with
        | nil => exact absurd rfl hne'
        | cons d last => simp [ofEnds?, hfirst, hlast, hends]

/-- The reader accepts exactly the texts of the grammar. -/
theorem parse?_eq_some_iff {cs : List Char} {spec : RangeSpec} : parse? cs = some spec ↔ Says cs spec := by
  unfold parse?
  constructor
  · intro h
    split at h
    · cases h
    · rename_i rest hrest
      split at h
      · cases h
      · rename_i hcomma
        split at h
        · cases h
        · rename_i before after hsplit
          obtain ⟨hrest', hdash⟩ := Text.splitFirst_eq_some_iff.1 hsplit
          refine ⟨_, _, ⟨rest, before, after, ?_, by simpa using hcomma, hrest', hdash, Text.trims_trim _,
            Text.trims_trim _⟩, ofEnds?_eq_some_iff.1 h⟩
          exact Text.trims_iff.2 (Text.dropStart?_eq_some_iff.1 hrest)
  · rintro ⟨first, last, ⟨rest, before, after, htrim, hcomma, rfl, hdash, hfirst, hlast⟩, hends⟩
    rw [Text.trims_iff] at htrim hfirst hlast
    rw [htrim, Text.dropStart?_append]
    simp only [List.contains_iff_mem, if_neg hcomma, Text.splitFirst_append after hdash, hfirst, hlast]
    exact ofEnds?_eq_some_iff.2 hends

theorem Ends.fits {first last : List Char} {spec : RangeSpec} (h : Ends first last spec) : spec.Fits := by
  cases h with
  | suffix hlast => exact hlast.2
  | fromOffset hfirst => exact hfirst.2
  | between hfirst hlast => exact ⟨hfirst.2, hlast.2⟩

end RangeSpec

/-! ## The bytes of a download -/

/-- The offsets of the bytes of a range. -/
def ByteRange.offsets (r : ByteRange) : Set Nat := Set.Ico r.start (r.start + r.len)

theorem ByteRange.offsets_ofEnds {first last : Nat} (h : first ≤ last) :
    (ByteRange.ofEnds first last).offsets = Set.Icc first last := by
  ext b
  simp only [offsets, ofEnds, Set.mem_Ico, Set.mem_Icc]
  omega

namespace RangeSpec

/-- The offsets that are asked for of a resource of `size` bytes, which need not have them. -/
def wanted (size : Nat) : RangeSpec → Set Nat
  | .suffix n => Set.Ico (size - min n size) size
  | .fromOffset first => Set.Ici first
  | .between first last => Set.Icc first last

/-- The offsets that are asked for and that the resource has. -/
def available (size : Nat) (spec : RangeSpec) : Set Nat := spec.wanted size ∩ Set.Iio size

theorem offsets_of_resolve {spec : RangeSpec} {size : Nat} {r : ByteRange} (hordered : spec.Ordered)
    (h : spec.resolve size = some r) : r.offsets = spec.available size := by
  cases spec with
  | suffix n =>
    simp only [resolve] at h
    split at h
    · cases h
    · cases h
      rw [ByteRange.offsets_ofEnds (by omega)]
      ext b
      simp only [available, wanted, Set.mem_Icc, Set.mem_inter_iff, Set.mem_Ico, Set.mem_Iio]
      omega
  | fromOffset first =>
    simp only [resolve] at h
    split at h
    · cases h
    · cases h
      rw [ByteRange.offsets_ofEnds (by omega)]
      ext b
      simp only [available, wanted, Set.mem_Icc, Set.mem_inter_iff, Set.mem_Ici, Set.mem_Iio]
      omega
  | between first last =>
    have hends : first ≤ last := hordered
    simp only [resolve] at h
    split at h
    · cases h
    · cases h
      rw [ByteRange.offsets_ofEnds (by omega)]
      ext b
      simp only [available, wanted, Set.mem_Icc, Set.mem_inter_iff, Set.mem_Iio]
      omega

/-- Nothing is resolved only if nothing of what is asked for exists. -/
theorem available_of_resolve {spec : RangeSpec} {size : Nat} (h : spec.resolve size = none) :
    spec.available size = ∅ := by
  refine Set.eq_empty_iff_forall_notMem.2 fun b hb => ?_
  cases spec with
  | suffix n =>
    have hnone : n = 0 ∨ size = 0 := by simpa [resolve, or_iff_not_imp_left] using h
    simp only [available, wanted, Set.mem_inter_iff, Set.mem_Ico, Set.mem_Iio] at hb
    omega
  | fromOffset first =>
    have hnone : size ≤ first := by simpa [resolve] using h
    simp only [available, wanted, Set.mem_inter_iff, Set.mem_Ici, Set.mem_Iio] at hb
    omega
  | between first last =>
    have hnone : size ≤ first := by simpa [resolve] using h
    simp only [available, wanted, Set.mem_inter_iff, Set.mem_Icc, Set.mem_Iio] at hb
    omega

end RangeSpec

namespace ByteRange

/-- For every text and every resource of 64 bits: a text outside the grammar is malformed. What a text of the
grammar asks for is served exactly, as far as it exists, and is unsatisfiable if none of it does. The computation
in words has no fault and comes to the same. -/
theorem parseRange_exact (text : String) (size : UInt64) :
    ((¬ ∃ spec, RangeSpec.Says text.toList spec) → parseRange text size.toNat = .error (.malformed text)) ∧
      ∀ spec, RangeSpec.Says text.toList spec →
        ((spec.available size.toNat).Nonempty →
          ∃ r, parseRange text size.toNat = .ok r ∧ r.offsets = spec.available size.toNat) ∧
        (spec.available size.toNat = ∅ → parseRange text size.toNat = .error (.unsatisfiable size.toNat)) ∧
        (spec.compute? size).map (·.map WordRange.toRange) = some (parseRange text size.toNat).toOption := by
  constructor
  · intro hmalformed
    have hparse : RangeSpec.parse? text.toList = none :=
      Option.eq_none_iff_forall_ne_some.2 fun spec hspec => hmalformed ⟨spec, RangeSpec.parse?_eq_some_iff.1 hspec⟩
    rw [parseRange, hparse]
  · rintro spec htext
    have hparse := RangeSpec.parse?_eq_some_iff.2 htext
    have hordered := RangeSpec.parse?_ordered hparse
    obtain ⟨first, last, -, hends⟩ := htext
    rw [RangeSpec.compute?_eq hends.fits hordered, parseRange, hparse]
    dsimp only
    cases hresolve : spec.resolve size.toNat with
    | none =>
      have hnothing := RangeSpec.available_of_resolve hresolve
      exact ⟨fun h => absurd hnothing h.ne_empty, fun _ => rfl, rfl⟩
    | some r =>
      have hoffsets := RangeSpec.offsets_of_resolve hordered hresolve
      have hinside := RangeSpec.resolve_inside hordered hresolve
      refine ⟨fun _ => ⟨r, rfl, hoffsets⟩, fun h => ?_, rfl⟩
      have hstart : r.start ∈ r.offsets := Set.mem_Ico.2 ⟨le_rfl, Nat.lt_add_of_pos_right hinside.nonempty⟩
      rw [hoffsets, h] at hstart
      exact hstart.elim

/-- A range with white space in it, of which the resource has a part; no byte of the suffix of length zero; and two
ranges at once, which are no range. -/
theorem padded_range_is_cut :
    let size : UInt64 := 4096
    RangeSpec.Says " bytes= 4000 -99999".toList (.between 4000 99999) ∧
      (∃ r, parseRange " bytes= 4000 -99999" size.toNat = .ok r ∧
        r.offsets = RangeSpec.available size.toNat (.between 4000 99999)) ∧
      parseRange "bytes=-0" size.toNat = .error (.unsatisfiable 4096) ∧
      parseRange "bytes=0-1,4-5" size.toNat = .error (.malformed "bytes=0-1,4-5") := by
  intro size
  have hpadded : RangeSpec.Says " bytes= 4000 -99999".toList (.between 4000 99999) :=
    RangeSpec.parse?_eq_some_iff.1 (by cbv)
  have hsuffix : RangeSpec.Says "bytes=-0".toList (.suffix 0) := RangeSpec.parse?_eq_some_iff.1 (by cbv)
  have hlist : ¬ ∃ spec, RangeSpec.Says "bytes=0-1,4-5".toList spec := by
    rintro ⟨spec, htext⟩
    have hparse : RangeSpec.parse? "bytes=0-1,4-5".toList = none := by cbv
    rw [RangeSpec.parse?_eq_some_iff.2 htext] at hparse
    cases hparse
  have hsize : size.toNat = 4096 := rfl
  have hbytes : (RangeSpec.available size.toNat (.between 4000 99999)).Nonempty := by
    refine ⟨4000, ?_⟩
    simp [RangeSpec.available, RangeSpec.wanted, hsize]
  have hnothing : RangeSpec.available size.toNat (.suffix 0) = ∅ :=
    RangeSpec.available_of_resolve rfl
  exact ⟨hpadded, ((parseRange_exact _ size).2 _ hpadded).1 hbytes,
    ((parseRange_exact _ size).2 _ hsuffix).2.1 hnothing, (parseRange_exact _ size).1 hlist⟩

end ByteRange

/-! ## The texts of an upload -/

namespace ContentSpec

open RangeSpec (Offset)

/-- White space aside, the text is `bytes `, a range, a slash and a total, where the first slash counts. -/
def Parts (cs range total : List Char) : Prop :=
  ∃ before after, Text.Trims cs ("bytes ".toList ++ (before ++ '/' :: after)) ∧ '/' ∉ before ∧
    Text.Trims before range ∧ Text.Trims after total

/-- The range is two offsets around its first dash. -/
def Ends (range : List Char) (spec : ContentSpec) : Prop :=
  ∃ before after first last, range = before ++ '-' :: after ∧ '-' ∉ before ∧ Text.Trims before first ∧
    Text.Trims after last ∧ Offset first spec.first ∧ Offset last spec.last

/-- The grammar of a `Content-Range` header of an upload of `size` declared bytes, and what it announces. -/
def Says (size : Nat) (cs : List Char) (spec : ContentSpec) : Prop :=
  ∃ range total, Parts cs range total ∧ (total = ['*'] ∨ Offset total size) ∧ Ends range spec

theorem totalAgrees_iff {size : Nat} {cs : List Char} :
    totalAgrees size cs = true ↔ cs = ['*'] ∨ Offset cs size := by
  simp only [totalAgrees, Bool.or_eq_true, beq_iff_eq, RangeSpec.offset?_eq_some_iff]

/-- The reader accepts exactly the texts of the grammar. -/
theorem parse?_eq_some_iff {size : Nat} {cs : List Char} {spec : ContentSpec} :
    parse? size cs = some spec ↔ Says size cs spec := by
  unfold parse?
  constructor
  · intro h
    split at h
    case h_1 => cases h
    rename_i body hbody
    split at h
    case h_1 => cases h
    rename_i range total hslash
    split at h
    case isFalse => cases h
    rename_i hagrees
    split at h
    case h_1 => cases h
    rename_i before after hdash
    split at h
    case h_2 => cases h
    rename_i a b ha hb
    cases h
    obtain ⟨rfl, hslash'⟩ := Text.splitFirst_eq_some_iff.1 hslash
    obtain ⟨hrange, hdash'⟩ := Text.splitFirst_eq_some_iff.1 hdash
    refine ⟨Text.trim range, Text.trim total, ⟨range, total, ?_, hslash', Text.trims_trim _, Text.trims_trim _⟩,
      totalAgrees_iff.1 hagrees, before, after, _, _, hrange, hdash', Text.trims_trim _, Text.trims_trim _,
      RangeSpec.offset?_eq_some_iff.1 ha, RangeSpec.offset?_eq_some_iff.1 hb⟩
    exact Text.trims_iff.2 (Text.dropStart?_eq_some_iff.1 hbody)
  · rintro ⟨range, total, ⟨before, after, htrim, hslash, hrange, htotal⟩, hagrees, first, last, start, stop, rfl, hdash,
      hstart, hstop, ha, hb⟩
    rw [Text.trims_iff] at htrim hrange htotal hstart hstop
    rw [← RangeSpec.offset?_eq_some_iff] at ha hb
    rw [htrim, Text.dropStart?_append]
    simp only [Text.splitFirst_append after hslash, htotal, totalAgrees_iff.2 hagrees, if_true, hrange,
      Text.splitFirst_append last hdash, hstart, hstop, ha, hb]

theorem Ends.fits {range : List Char} {spec : ContentSpec} (h : Ends range spec) :
    spec.first < UInt64.size ∧ spec.last < UInt64.size := by
  obtain ⟨_, _, _, _, -, -, -, -, hfirst, hlast⟩ := h
  exact ⟨hfirst.2, hlast.2⟩

end ContentSpec

namespace ByteRange

/-- For every text and every declared size of 64 bits: a text outside the grammar is malformed. The range that a
text of the grammar announces is taken as it is if it lies inside the size, and is unsatisfiable otherwise. The
computation in words has no fault and comes to the same. -/
theorem parseContentRange_exact (text : String) (size : UInt64) :
    ((¬ ∃ spec, ContentSpec.Says size.toNat text.toList spec) →
        parseContentRange text size.toNat = .error (.malformed text)) ∧
      ∀ spec, ContentSpec.Says size.toNat text.toList spec →
        (spec.first ≤ spec.last ∧ spec.last < size.toNat →
          parseContentRange text size.toNat = .ok ⟨spec.first, spec.last - spec.first + 1⟩) ∧
        (¬ (spec.first ≤ spec.last ∧ spec.last < size.toNat) →
          parseContentRange text size.toNat = .error (.unsatisfiable size.toNat)) ∧
        (spec.compute? size).map (·.map WordRange.toRange) = some (parseContentRange text size.toNat).toOption := by
  constructor
  · intro hmalformed
    have hparse : ContentSpec.parse? size.toNat text.toList = none :=
      Option.eq_none_iff_forall_ne_some.2 fun spec hspec =>
        hmalformed ⟨spec, ContentSpec.parse?_eq_some_iff.1 hspec⟩
    rw [parseContentRange, hparse]
  · intro spec htext
    have hparse := ContentSpec.parse?_eq_some_iff.2 htext
    obtain ⟨_, _, -, -, hends⟩ := htext
    obtain ⟨hfirst, hlast⟩ := hends.fits
    rw [ContentSpec.compute?_eq hfirst hlast, parseContentRange, hparse]
    dsimp only
    by_cases hout : spec.last < spec.first ∨ size.toNat ≤ spec.last
    · rw [ContentSpec.resolve, if_pos hout]
      exact ⟨fun h => by omega, fun _ => rfl, rfl⟩
    · rw [ContentSpec.resolve, if_neg hout]
      exact ⟨fun _ => rfl, fun h => by omega, rfl⟩

/-- A total with leading zeros and a star agree with the declared size, a range beyond its end is not cut, and a
total that is another size makes the text malformed. -/
theorem announced_ranges_are_not_cut :
    let size : UInt64 := 4096
    ContentSpec.Says size.toNat "bytes 1024 - 2047 / 004096".toList ⟨1024, 2047⟩ ∧
      parseContentRange "bytes 1024 - 2047 / 004096" size.toNat = .ok ⟨1024, 1024⟩ ∧
      parseContentRange "bytes 4000-4096/*" size.toNat = .error (.unsatisfiable 4096) ∧
      parseContentRange "bytes 0-9/100" size.toNat = .error (.malformed "bytes 0-9/100") := by
  intro size
  have hpadded : ContentSpec.Says size.toNat "bytes 1024 - 2047 / 004096".toList ⟨1024, 2047⟩ :=
    ContentSpec.parse?_eq_some_iff.1 (by cbv)
  have hbeyond : ContentSpec.Says size.toNat "bytes 4000-4096/*".toList ⟨4000, 4096⟩ :=
    ContentSpec.parse?_eq_some_iff.1 (by cbv)
  have hother : ¬ ∃ spec, ContentSpec.Says size.toNat "bytes 0-9/100".toList spec := by
    rintro ⟨spec, htext⟩
    have hparse : ContentSpec.parse? size.toNat "bytes 0-9/100".toList = none := by cbv
    rw [ContentSpec.parse?_eq_some_iff.2 htext] at hparse
    cases hparse
  exact ⟨hpadded, ((parseContentRange_exact _ size).2 _ hpadded).1 (by decide),
    ((parseContentRange_exact _ size).2 _ hbeyond).2.1 (by decide), (parseContentRange_exact _ size).1 hother⟩

end ByteRange

end Goodput
