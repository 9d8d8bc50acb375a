import Mathlib.Algebra.Group.Nat.Defs
import Mathlib.Data.List.Basic
import Goodput.Payload
/-!
# What the payload source gives

A bounded source is read into one buffer after another, of any sizes. What is delivered and what is left always make up
the length of the source (`delivered_reads`), so nothing is given beyond it and nothing is held back before it. A
message is assembled in rounds of one chunk; `assemble_filler` says what there is after any number of them.
`bounded_reads_exact` puts the two side by side: whoever reads a source to its end has the message of its length.
-/

namespace Goodput

@[simp] theorem Payload.length_filler (n : Nat) : (filler n).length = n := List.length_replicate

theorem Payload.filler_append (m n : Nat) : filler m ++ filler n = filler (m + n) := List.replicate_append_replicate

namespace BoundedPayload

/-- A read puts constant bytes in front of a buffer, as many as `given` says, and leaves the rest of it alone. -/
theorem read_eq (buffer : List UInt8) (p : BoundedPayload) :
    p.read buffer = (p.given buffer.length,
      Payload.filler (p.given buffer.length) ++ buffer.drop (p.given buffer.length), p.after buffer.length) := by
  have hgiven : Payload.given (buffer.take p.remaining).length = p.given buffer.length := by
    rw [List.length_take, given, Nat.min_comm]
  have hle : p.given buffer.length ≤ (buffer.take p.remaining).length := by
    rw [← hgiven]
    exact Nat.min_le_left _ _
  have hrest : (buffer.take p.remaining).drop (p.given buffer.length) ++ buffer.drop p.remaining =
      buffer.drop (p.given buffer.length) := by
    rw [← List.drop_append_of_le_length hle, List.take_append_drop]
  simp only [read, Payload.read, hgiven, after]
  rw [List.append_assoc, hrest]

/-! ## Reads one after another -/

/-- Read into one buffer after another: for each the number of bytes and the buffer afterwards, and the source in the
end. -/
def reads : List (List UInt8) → BoundedPayload → List (Nat × List UInt8) × BoundedPayload
  | [], p => ([], p)
  | buffer :: buffers, p =>
    let (n, filled, p) := p.read buffer
    let (rest, p) := reads buffers p
    ((n, filled) :: rest, p)

/-- What reads delivered: the bytes that each of them put in front of its buffer. -/
def delivered (done : List (Nat × List UInt8)) : List UInt8 := done.flatMap fun r => r.2.take r.1

theorem given_eq (room : Nat) (p : BoundedPayload) : p.given room = min room (min (2 ^ 20) p.remaining) := by
  change min (min room p.remaining) 1048576 = _
  omega

theorem given_le (room : Nat) (p : BoundedPayload) : p.given room ≤ p.remaining := by
  rw [given_eq]
  omega

theorem reads_cons (buffer : List UInt8) (buffers : List (List UInt8)) (p : BoundedPayload) :
    reads (buffer :: buffers) p =
      ((p.given buffer.length, Payload.filler (p.given buffer.length) ++ buffer.drop (p.given buffer.length)) ::
        (reads buffers (p.after buffer.length)).1, (reads buffers (p.after buffer.length)).2) := by
  rw [reads, read_eq]

theorem reads_append (before later : List (List UInt8)) (p : BoundedPayload) :
    reads (before ++ later) p =
      ((reads before p).1 ++ (reads later (reads before p).2).1, (reads later (reads before p).2).2) := by
  induction before generalizing p with
  | nil => rfl
  | cons buffer before ih => rw [List.cons_append, reads_cons, reads_cons, ih, List.cons_append]

theorem delivered_cons (n : Nat) (rest : List UInt8) (later : List (Nat × List UInt8)) :
    delivered ((n, Payload.filler n ++ rest) :: later) = Payload.filler n ++ delivered later :=
  congrArg (· ++ delivered later) (List.take_left' (Payload.length_filler n))

/-- What is delivered and what is left make up what there was, and all of it is the constant byte. -/
theorem delivered_reads (buffers : List (List UInt8)) (p : BoundedPayload) :
    ∃ n, delivered (reads buffers p).1 = Payload.filler n ∧ n + (reads buffers p).2.remaining = p.remaining := by
  induction buffers generalizing p with
  | nil => exact ⟨0, rfl, Nat.zero_add _⟩
  | cons buffer buffers ih =>
    obtain ⟨n, hn, hleft⟩ := ih (p.after buffer.length)
    refine ⟨p.given buffer.length + n, ?_, ?_⟩
    · rw [reads_cons, delivered_cons, hn, Payload.filler_append]
    · have hgiven := p.given_le buffer.length
      change n + _ = p.remaining - p.given buffer.length at hleft
      rw [reads_cons]
      dsimp only
      omega

/-- From the end on, every read gives nothing. -/
theorem reads_of_ended {p : BoundedPayload} (hend : p.remaining = 0) (buffers : List (List UInt8)) :
    ∀ r ∈ (reads buffers p).1, r.1 = 0 := by
  induction buffers generalizing p with
  | nil => exact fun r hr => nomatch hr
  | cons buffer buffers ih =>
    have hgiven : p.given buffer.length = 0 := Nat.le_zero.1 (hend ▸ p.given_le buffer.length)
    have hafter : (p.after buffer.length).remaining = 0 := by
      change p.remaining - _ = 0
      omega
    rw [reads_cons]
    exact List.forall_mem_cons.2 ⟨hgiven, ih hafter⟩

/-- Every read into a buffer with room brings the end nearer. -/
theorem remaining_le (buffers : List (List UInt8)) (hroom : ∀ buffer ∈ buffers, buffer ≠ []) (p : BoundedPayload) :
    (reads buffers p).2.remaining ≤ p.remaining - buffers.length := by
  induction buffers generalizing p with
  | nil => exact Nat.le_refl _
  | cons buffer buffers ih =>
    rw [List.forall_mem_cons] at hroom
    have hlength := List.length_pos_iff.2 hroom.1
    have hnext := ih hroom.2 (p.after buffer.length)
    change _ ≤ p.remaining - p.given buffer.length - buffers.length at hnext
    rw [given_eq] at hnext
    rw [reads_cons, List.length_cons]
    dsimp only
    omega

end BoundedPayload

/-! ## Messages -/

namespace Payload

/-- After `k` rounds the message has `k` chunks more, or all of its length. -/
theorem assemble_filler (len k : Nat) {m : Nat} (hm : m ≤ len) :
    assemble len k (filler m) = filler (min len (m + k * 2 ^ 20)) := by
  induction k generalizing m with
  | zero => rw [assemble, Nat.zero_mul, Nat.add_zero, Nat.min_eq_right hm]
  | succ k ih =>
    rw [assemble]
    have hchunk : chunkSize = 2 ^ 20 := rfl
    rw [length_filler, hchunk, filler_append]
    split
    · rw [ih (by omega)]
      congr 1
      omega
    · congr 1
      omega

theorem assemble_nil (len k : Nat) : assemble len k [] = filler (min len (k * 2 ^ 20)) := by
  have h := assemble_filler len k (Nat.zero_le len)
  rwa [Nat.zero_add] at h

theorem message_eq (len : Nat) : message len = filler len := by
  unfold message
  split
  · rename_i hshort
    rw [filler, List.take_replicate, Nat.min_eq_left hshort, filler]
  · have hchunk : chunkSize = 2 ^ 20 := rfl
    rw [assemble_nil, hchunk]
    congr 1
    omega

end Payload

namespace BoundedPayload

/-- Reads from a source of `len` bytes, into any buffers one after another. What they deliver are zero bytes, never more
than `len`. The next read, into whatever buffer, gives as many as fit the buffer and a chunk and are left, in front of
what the buffer held; it gives nothing to a buffer with room exactly if all bytes are delivered, and then no later read
gives anything. Reads into buffers with room come to that end, and what was delivered by then is the message of this
length, which the loop that assembles it reaches in as many rounds as there are chunks. -/
theorem bounded_reads_exact (len : Nat) (buffers : List (List UInt8)) :
    ∃ done source, reads buffers ⟨len⟩ = (done, source) ∧
    let got := delivered done
    (got = List.replicate got.length 0 ∧ got.length ≤ len) ∧
    (∀ buffer,
      let n := min buffer.length (min (2 ^ 20) (len - got.length))
      (source.read buffer).1 = n ∧ (source.read buffer).2.1 = List.replicate n 0 ++ buffer.drop n ∧
        (buffer ≠ [] → (n = 0 ↔ got.length = len))) ∧
    (got.length = len → Payload.message len = got ∧ ∀ later, ∀ r ∈ (reads later source).1, r.1 = 0) ∧
    (∀ later, (∀ buffer ∈ later, buffer ≠ []) → len ≤ got.length + later.length →
      (delivered (reads (buffers ++ later) ⟨len⟩).1).length = len) ∧
    ∀ k, Payload.assemble len k [] = List.replicate (min len (k * 2 ^ 20)) 0 ∧
      (len ≤ k * 2 ^ 20 → Payload.assemble len k [] = Payload.message len) := by
  let source := (reads buffers ⟨len⟩).2
  refine ⟨(reads buffers ⟨len⟩).1, source, rfl, ?_⟩
  intro got
  obtain ⟨m, hgot, hleft⟩ := delivered_reads buffers ⟨len⟩
  change m + source.remaining = len at hleft
  have hlength : got.length = m := by rw [show got = _ from hgot, Payload.length_filler]
  refine ⟨⟨by rw [hlength]; exact hgot, by omega⟩, fun buffer => ?_, fun hend => ⟨?_, ?_⟩, fun later hroom hmany => ?_,
    fun k => ⟨Payload.assemble_nil len k, fun hk => ?_⟩⟩
  · intro n
    have hn : source.given buffer.length = n := by
      rw [given_eq]
      simp only [n]
      congr 2
      omega
    rw [read_eq, hn]
    refine ⟨rfl, rfl, fun hroom => ?_⟩
    have hpos := List.length_pos_iff.2 hroom
    simp only [n]
    omega
  · rw [Payload.message_eq, show got = _ from hgot, ← hlength, hend]
  · exact reads_of_ended (by omega)
  · obtain ⟨all, hall, hrest⟩ := delivered_reads (buffers ++ later) ⟨len⟩
    have hnear := remaining_le later hroom source
    rw [hall, Payload.length_filler]
    rw [reads_append] at hrest
    change all + (reads later source).2.remaining = len at hrest
    omega
  · rw [Payload.assemble_nil, Payload.message_eq, Nat.min_eq_left hk]

/-- Three reads take five bytes, one of them into a buffer without room; a longer message takes four rounds. -/
theorem three_reads_of_five :
    ∃ done source, reads [[255, 255, 255], [], [255, 255, 255, 255]] ⟨5⟩ = (done, source) ∧
      done = [(3, [0, 0, 0]), (0, []), (2, [0, 0, 255, 255])] ∧ (delivered done).length = 5 ∧
      Payload.message 5 = delivered done ∧ (∀ r ∈ (reads [[255]] source).1, r.1 = 0) ∧
      (source.read [255]).1 = 0 ∧ Payload.assemble 3145735 4 [] = Payload.message 3145735 := by
  obtain ⟨done, source, hrun, -, hnext, hend, -⟩ := bounded_reads_exact 5 [[255, 255, 255], [], [255, 255, 255, 255]]
  obtain ⟨-, -, -, -, -, -, -, hlong⟩ := bounded_reads_exact 3145735 []
  have hdone : done = [(3, [0, 0, 0]), (0, []), (2, [0, 0, 255, 255])] := (congrArg Prod.fst hrun).symm
  have hall : (delivered done).length = 5 := by rw [hdone]; decide
  obtain ⟨hmessage, hnothing⟩ := hend hall
  have hzero : (source.read [255]).1 = 0 := (hnext [255]).1.trans (by rw [hall]; decide)
  exact ⟨done, source, hrun, hdone, hall, hmessage, hnothing _, hzero, (hlong 4).2 (by decide)⟩

end BoundedPayload

end Goodput
