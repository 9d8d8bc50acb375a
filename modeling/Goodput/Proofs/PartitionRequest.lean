import Goodput.Http.App
import Goodput.Client.PartitionRequest
import Goodput.Proofs.Partition
import Goodput.Proofs.RangeHeader
/-!
# Requests for partitions, as a server reads them

The request for a partition carries its range in a header, unless the partition is the whole transfer. The
server finds that header, takes its value for a text, and reads from it the range that was meant
(`requestedRange_partition`, `announcedRange_partition`).
-/

namespace Goodput

namespace Http

/-! ## Header fields -/

/-- The first field of a name gives the value. -/
theorem fieldValue?_hit {name : String} {f : HeaderField} (h : f.isNamed name = true) (fs : List HeaderField) :
    fieldValue? name (f :: fs) = some f.value := by
  simp [fieldValue?, fieldValues, h]

theorem fieldValue?_miss {name : String} {f : HeaderField} (h : f.isNamed name = false) (fs : List HeaderField) :
    fieldValue? name (f :: fs) = fieldValue? name fs := by
  simp [fieldValue?, fieldValues, h]

theorem isNamed_eq {name given : String} (value : ByteText) {b : Bool}
    (h : Text.sameIgnoringCase given.toList name.toList = b) : HeaderField.isNamed name ⟨given, value⟩ = b := h

/-! ## Range headers are visible -/

theorem isVisible_digit {c : Char} (h : Decimal.isDigit c = true) : isVisible c = true := by
  obtain ⟨hlow, hhigh⟩ := Decimal.isDigit_iff.1 h
  simp only [isVisible, Bool.or_eq_true, Bool.and_eq_true, decide_eq_true_eq, Char.le_def, UInt32.le_iff_toNat_le]
  exact .inr ⟨Nat.le_trans (by decide) hlow, Nat.le_trans hhigh (by decide)⟩

theorem isVisible_digits {n : Nat} : ∀ c ∈ Decimal.digits n, isVisible c = true :=
  fun _ hc => isVisible_digit (Decimal.isDigit_of_mem_digits hc)

theorem isVisible_ends {r : ByteRange} : ∀ c ∈ r.ends, isVisible c = true := by
  intro c hc
  simp only [ByteRange.ends, List.append_assoc, List.mem_append, List.mem_singleton] at hc
  rcases hc with hc | rfl | hc
  · exact isVisible_digits c hc
  · decide
  · exact isVisible_digits c hc

theorem visibleText?_toList {s : String} (h : ∀ c ∈ s.toList, isVisible c = true) :
    HeaderField.visibleText? s.toList = some s := by
  rw [HeaderField.visibleText?, if_pos (List.all_eq_true.2 h), String.ofList_toList]

theorem visible_rangeHeader (r : ByteRange) :
    HeaderField.visibleText? r.rangeHeader.toList = some r.rangeHeader := by
  refine visibleText?_toList ?_
  have hunit : "bytes=".toList.all isVisible = true := by decide
  intro c hc
  rw [ByteRange.toList_rangeHeader, List.mem_append] at hc
  exact hc.elim (List.all_eq_true.1 hunit c) (isVisible_ends c)

theorem visible_contentRange (r : ByteRange) (size : Nat) :
    HeaderField.visibleText? (r.contentRange size).toList = some (r.contentRange size) := by
  refine visibleText?_toList ?_
  have hunit : "bytes ".toList.all isVisible = true := by decide
  intro c hc
  rw [ByteRange.toList_contentRange, List.mem_append, List.mem_append, List.mem_cons] at hc
  rcases hc with hc | hc | rfl | hc
  · exact List.all_eq_true.1 hunit c hc
  · exact isVisible_ends c hc
  · decide
  · exact isVisible_digits c hc

end Http

open Http

namespace Client

/-! ## What a partition asks for -/

/-- The range that a server reads from the request for a partition. -/
def askedRange (p : Partition) : Option ByteRange := if p.isWhole then none else some p.range

/-- A partition of a transfer of 64 bits that is the whole of it or has bytes inside it. -/
structure Askable (p : Partition) : Prop where
  bounded : p.parent < UInt64.size
  inside : p.isWhole = false → p.range.Inside p.parent

theorem askable_of_mem {total count : Nat} {p : Partition} (htotal : total < UInt64.size)
    (h : p ∈ partition total count) : Askable p := by
  have hparent := parent_of_mem h
  have hend := end_le_of_mem h
  refine ⟨by rwa [hparent], fun hwhole => ⟨?_, by rw [hparent]; exact hend⟩⟩
  refine len_pos_of_mem (Nat.pos_of_ne_zero fun h0 => ?_) h
  -- An empty transfer is one partition, which is all of it.
  have hone : (partition total count).length = 1 := by
    rw [length_partition, h0]
    unfold partitionCount; omega
  rw [(isWhole_iff_of_mem h).2 hone] at hwhole
  cases hwhole

/-- The range asked for is as long as the partition. -/
theorem askedRange_len (p : Partition) : ((askedRange p).map (·.len)).getD p.parent = p.len := by
  unfold askedRange
  split
  · rename_i h
    simp only [Partition.isWhole, Bool.and_eq_true, beq_iff_eq] at h
    exact h.2.symm
  · rfl

/-! ## The headers of its request -/

theorem range_field (p : Partition) :
    fieldValue? "range" (partitionFields .download p) = (askedRange p).map fun r => r.rangeHeader.toList := by
  unfold partitionFields askedRange
  cases p.isWhole with
  | true => rfl
  | false => exact fieldValue?_hit (isNamed_eq _ (by decide)) []

theorem contentRange_field (p : Partition) :
    fieldValue? "content-range" (partitionFields .upload p) =
      (askedRange p).map fun r => (r.contentRange p.parent).toList := by
  unfold partitionFields askedRange
  simp only [List.cons_append, List.nil_append]
  rw [fieldValue?_miss (isNamed_eq _ (by decide)), fieldValue?_miss (isNamed_eq _ (by decide))]
  cases p.isWhole with
  | true => rfl
  | false => exact fieldValue?_hit (isNamed_eq _ (by decide)) []

theorem requestedRange_partition {p : Partition} (h : Askable p) :
    requestedRange p.parent (fieldValue? "range" (partitionFields .download p)) = .ok (askedRange p) := by
  rw [range_field, askedRange]
  cases hwhole : p.isWhole with
  | true => rfl
  | false =>
    simp only [Bool.false_eq_true, if_false, Option.map_some, requestedRange, Option.bind_some,
      visible_rangeHeader, ByteRange.parseRange_rangeHeader (h.inside hwhole) h.bounded]

theorem announcedRange_partition {p : Partition} (h : Askable p) :
    announcedRange p.parent (fieldValue? "content-range" (partitionFields .upload p)) = .ok (askedRange p) := by
  rw [contentRange_field, askedRange]
  cases hwhole : p.isWhole with
  | true => rfl
  | false =>
    simp only [Bool.false_eq_true, if_false, Option.map_some, announcedRange, visible_contentRange,
      ByteRange.parseContentRange_contentRange (h.inside hwhole) h.bounded]

end Client

end Goodput
