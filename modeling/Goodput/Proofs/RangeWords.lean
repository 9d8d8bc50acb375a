import Goodput.Proofs.RangeRoundTrip
import Goodput.Proofs.Word
/-!
# Ranges in 64-bit words

Ranges are computed with naturals, where a difference stops at zero and a sum has no end. Here the same steps are
taken in words of 64 bits, and a sum or a difference that leaves them is a fault. We prove that there is never a
fault and that the words are the naturals (`RangeSpec.compute?_eq`, `ContentSpec.compute?_eq`), for every size and
whatever a header asks for. Where a difference may be negative the computation says so: it stops at zero on
purpose (`Word.monus`).
-/

namespace Goodput

/-- A byte range in words. -/
structure WordRange where
  start : UInt64
  len : UInt64

namespace WordRange

/-- The range that the words stand for. -/
def toRange (r : WordRange) : ByteRange := ⟨r.start.toNat, r.len.toNat⟩

/-- The range of the offsets `first, …, last`: one more than their difference. -/
def ofEnds? (first last : UInt64) : Option WordRange := do
  let width ← Word.sub? last first
  let len ← Word.add? width 1
  return ⟨first, len⟩

theorem ofEnds?_of_lt {first last size : UInt64} (hends : first ≤ last) (hlast : last < size) :
    (ofEnds? first last).map toRange = some (.ofEnds first.toNat last.toNat) := by
  have hsize := size.toNat_lt_size
  rw [UInt64.lt_iff_toNat_lt] at hlast
  obtain ⟨width, hsub, hwidth⟩ := Word.sub?_of_le hends
  obtain ⟨len, hadd, hlen⟩ := Word.add?_of_lt (a := width) (b := 1) (by rw [hwidth, UInt64.toNat_one]; omega)
  rw [ofEnds?, hsub, Option.bind_eq_bind, Option.bind_some, hadd]
  simp [toRange, ByteRange.ofEnds, hlen, hwidth]

end WordRange

/-! ## Downloads -/

namespace RangeSpec

/-- The offsets `first, …, last` of a resource, if it has the first of them. The outer option is a fault. -/
def serve? (size first last : UInt64) : Option (Option WordRange) :=
  if size ≤ first then some none else (WordRange.ofEnds? first last).map some

/-- The bytes asked for that a resource has, computed in words. -/
def compute? (size : UInt64) : RangeSpec → Option (Option WordRange)
  | .suffix n =>
    if n = 0 ∨ size = 0 then some none
    else (Word.sub? size 1).bind fun last => serve? size (Word.monus size (.ofNat n)) last
  | .fromOffset first => serve? size (.ofNat first) (Word.monus size 1)
  | .between first last => serve? size (.ofNat first) (min (.ofNat last) (Word.monus size 1))

/-- The numbers of the range fit words. -/
def Fits : RangeSpec → Prop
  | .suffix n => n < UInt64.size
  | .fromOffset first => first < UInt64.size
  | .between first last => first < UInt64.size ∧ last < UInt64.size

theorem serve?_eq {size first last : UInt64} (hends : first < size → first ≤ last ∧ last < size) :
    (serve? size first last).map (·.map WordRange.toRange) =
      some (if size.toNat ≤ first.toNat then none else some (.ofEnds first.toNat last.toNat)) := by
  unfold serve?
  by_cases h : size ≤ first
  · rw [if_pos h, if_pos (UInt64.le_iff_toNat_le.1 h)]
    rfl
  · have hfirst : first < size := UInt64.not_le.1 h
    obtain ⟨hle, hlt⟩ := hends hfirst
    obtain ⟨r, hr, hrange⟩ := Option.map_eq_some_iff.1 (WordRange.ofEnds?_of_lt hle hlt)
    rw [if_neg h, if_neg (fun hn => h (UInt64.le_iff_toNat_le.2 hn)), hr]
    simp [hrange]

/-- No step of the computation leaves the words, and it comes to what `resolve` says. -/
theorem compute?_eq {spec : RangeSpec} (hfits : spec.Fits) (hordered : spec.Ordered) (size : UInt64) :
    (spec.compute? size).map (·.map WordRange.toRange) = some (spec.resolve size.toNat) := by
  -- What has to be shown of each form is that its ends are in order and inside, once its first byte exists.
  cases spec with
  | suffix n =>
    have hn : (UInt64.ofNat n).toNat = n := UInt64.toNat_ofNat_of_lt hfits
    have hzero : size = 0 ↔ size.toNat = 0 := UInt64.toNat_inj.symm
    simp only [compute?, resolve, hzero]
    by_cases h : n = 0 ∨ size.toNat = 0
    · rw [if_pos h, if_pos h]
      rfl
    · have hone : (1 : UInt64) ≤ size := by
        rw [UInt64.le_iff_toNat_le, UInt64.toNat_one]
        omega
      obtain ⟨last, hsub, hlast⟩ := Word.sub?_of_le hone
      rw [UInt64.toNat_one] at hlast
      rw [if_neg h, if_neg h, hsub, Option.bind_some, serve?_eq]
      · simp only [Word.toNat_monus, hn, hlast]
        rw [if_neg (by omega)]
      · intro _
        rw [UInt64.le_iff_toNat_le, UInt64.lt_iff_toNat_lt, Word.toNat_monus, hn, hlast]
        omega
  | fromOffset first =>
    have hfirst : (UInt64.ofNat first).toNat = first := UInt64.toNat_ofNat_of_lt hfits
    rw [compute?, resolve, serve?_eq]
    · simp only [Word.toNat_monus, hfirst, UInt64.toNat_one]
    · rw [UInt64.lt_iff_toNat_lt, UInt64.le_iff_toNat_le, UInt64.lt_iff_toNat_lt, Word.toNat_monus, hfirst,
        UInt64.toNat_one]
      omega
  | between first last =>
    have hfirst : (UInt64.ofNat first).toNat = first := UInt64.toNat_ofNat_of_lt hfits.1
    have hlast : (UInt64.ofNat last).toNat = last := UInt64.toNat_ofNat_of_lt hfits.2
    have hends : first ≤ last := hordered
    rw [compute?, resolve, serve?_eq]
    · simp only [Word.toNat_min, Word.toNat_monus, hfirst, hlast, UInt64.toNat_one]
    · rw [UInt64.lt_iff_toNat_lt, UInt64.le_iff_toNat_le, UInt64.lt_iff_toNat_lt, Word.toNat_min, Word.toNat_monus,
        hfirst, hlast, UInt64.toNat_one]
      omega

end RangeSpec

/-! ## Uploads -/

namespace ContentSpec

/-- The announced bytes, if they lie inside a resource, computed in words. The outer option is a fault. -/
def compute? (size : UInt64) (spec : ContentSpec) : Option (Option WordRange) :=
  let first := UInt64.ofNat spec.first
  let last := UInt64.ofNat spec.last
  if last < first ∨ size ≤ last then some none else (WordRange.ofEnds? first last).map some

/-- No step of the computation leaves the words, and it comes to what `resolve` says. -/
theorem compute?_eq {spec : ContentSpec} (hfirst : spec.first < UInt64.size) (hlast : spec.last < UInt64.size)
    (size : UInt64) : (spec.compute? size).map (·.map WordRange.toRange) = some (spec.resolve size.toNat) := by
  have hf : (UInt64.ofNat spec.first).toNat = spec.first := UInt64.toNat_ofNat_of_lt hfirst
  have hl : (UInt64.ofNat spec.last).toNat = spec.last := UInt64.toNat_ofNat_of_lt hlast
  have hout : UInt64.ofNat spec.last < UInt64.ofNat spec.first ∨ size ≤ UInt64.ofNat spec.last ↔
      spec.last < spec.first ∨ size.toNat ≤ spec.last := by
    rw [UInt64.lt_iff_toNat_lt, UInt64.le_iff_toNat_le, hf, hl]
  simp only [compute?, resolve, hout]
  by_cases h : spec.last < spec.first ∨ size.toNat ≤ spec.last
  · rw [if_pos h, if_pos h]
    rfl
  · have hends : UInt64.ofNat spec.first ≤ UInt64.ofNat spec.last := by
      rw [UInt64.le_iff_toNat_le, hf, hl]
      omega
    have hinside : UInt64.ofNat spec.last < size := by
      rw [UInt64.lt_iff_toNat_lt, hl]
      omega
    obtain ⟨r, hr, hrange⟩ := Option.map_eq_some_iff.1 (WordRange.ofEnds?_of_lt hends hinside)
    rw [if_neg h, if_neg h, hr]
    simp [hrange, hf, hl]

end ContentSpec

end Goodput
