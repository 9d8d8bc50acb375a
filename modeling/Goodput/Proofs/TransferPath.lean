import Mathlib.Data.List.TakeWhile
import Goodput.Client.PartitionRequest
import Goodput.Http.App
import Goodput.Proofs.Text
/-!
# The path of a transfer

The path that a client writes for a transfer leads to the route of transfers, and its segment decodes to
the numeral of the size. Nothing in it is a query, a fragment or percent encoding.
-/

namespace Goodput

namespace Utf8

/-- ASCII bytes are their own text. -/
theorem parts_ascii {cs : List Char} (h : ∀ c ∈ cs, c.toNat < 128) :
    parts (cs.map fun c => UInt8.ofNat c.toNat) = cs.map some := by
  unfold parts
  induction cs with
  | nil => rfl
  | cons c cs ih =>
    have hc : c.toNat < 128 := h c List.mem_cons_self
    have hbyte : (UInt8.ofNat c.toNat).toNat = c.toNat := by
      simp only [UInt8.toNat_ofNat']
      omega
    have hstep : ∀ bs, step (UInt8.ofNat c.toNat) bs = (some c, 1) := by
      intro bs
      rw [step, if_pos (UInt8.lt_iff_toNat_lt.2 (by rw [hbyte]; exact hc)), hbyte, Char.ofNat_toNat]
    simp only [List.map_cons, List.length_cons, partsWithin, hstep, Nat.sub_self, List.drop_zero]
    rw [ih fun d hd => h d (List.mem_cons_of_mem _ hd)]

theorem decode?_ascii {cs : List Char} (h : ∀ c ∈ cs, c.toNat < 128) :
    decode? (cs.map fun c => UInt8.ofNat c.toNat) = some (String.ofList cs) := by
  have hall : (cs.map some).mapM id = some cs := by
    rw [List.mapM_map]
    exact (List.mapM_pure (m := Option)).trans (congrArg some (List.map_id cs))
  rw [decode?, parts_ascii h, hall]
  rfl

end Utf8

namespace Http

/-- Without a percent sign nothing is decoded. -/
theorem percentDecode_plain {t : ByteText} (h : '%' ∉ t) :
    percentDecode t = t.map fun c => UInt8.ofNat c.toNat := by
  fun_induction percentDecode t with
  | case1 => rfl
  | case2 => simp at h
  | case3 => simp at h
  | case4 c rest _ ih =>
    rw [ih fun hrest => h (List.mem_cons_of_mem _ hrest), List.map_cons]

theorem segmentText?_digits (n : Nat) :
    segmentText? (Decimal.digits n) = some (String.ofList (Decimal.digits n)) := by
  rw [segmentText?, percentDecode_plain (Decimal.not_mem_digits (by decide))]
  refine Utf8.decode?_ascii ?_
  intro c hc
  have := (Decimal.isDigit_iff.1 (Decimal.isDigit_of_mem_digits hc)).2
  omega

/-! ## From the path to the segment -/

theorem before_eq_self {c : Char} {t : ByteText} (h : c ∉ t) : Target.before c t = t := by
  refine List.takeWhile_eq_self_iff.2 fun d hd => ?_
  have hne : d ≠ c := fun he => h (he ▸ hd)
  simpa using hne

theorem not_mem_transferPath {c : Char} (total : Nat) (hc : c ∉ "/api/".toList)
    (hdigit : Decimal.isDigit c = false) : c ∉ Client.transferPath total := by
  rw [Client.transferPath, List.mem_append, not_or]
  exact ⟨hc, Decimal.not_mem_digits hdigit⟩

theorem ofText_transferPath (total : Nat) :
    (Target.ofText (Client.transferPath total)).path = Client.transferPath total := by
  have hfragment : Target.before '#' (Client.transferPath total) = Client.transferPath total :=
    before_eq_self (not_mem_transferPath total (by decide) (by decide))
  have hquery : Target.before '?' (Client.transferPath total) = Client.transferPath total :=
    before_eq_self (not_mem_transferPath total (by decide) (by decide))
  rw [Target.ofText, hfragment]
  exact hquery

theorem lastSegment?_append (start : String) {segment : ByteText} (hne : segment ≠ []) (hslash : '/' ∉ segment) :
    lastSegment? start (start.toList ++ segment) = some segment := by
  unfold lastSegment?
  rw [Text.dropStart?_append]
  simp [hne, hslash]

theorem ofPath?_transferPath {mode : Server.Mode} (hmode : mode ≠ .ndt7) (total : Nat) :
    Route.ofPath? mode (Client.transferPath total) = some (.transfer (Decimal.digits total)) := by
  have hsegment : lastSegment? "/api/" (Client.transferPath total) = some (Decimal.digits total) :=
    lastSegment?_append "/api/" (Decimal.digits_ne_nil total) (Decimal.not_mem_digits (by decide))
  unfold Route.ofPath?
  split
  · exact absurd rfl hmode
  · rw [hsegment]

end Http

end Goodput
