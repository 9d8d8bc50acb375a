import Goodput.Http.Request
import Goodput.Meter
/-!
# Bodies under way

A body is taken in by looking at the bytes that are ready and then giving them up. A `BodyReader` has one
chunk in hand and passes over empty ones. A `BoundedBody` stops after a number of bytes and from then on
leaves the reader alone, so that neither data nor a failure behind the bound is seen. `BoundedBody.drain`
looks and gives up until nothing is left; a meter counts what is given up, not what is seen.
-/

namespace Goodput.Http

/-- What a look at a body shows. -/
inductive Look where
  /-- So many bytes are ready. -/
  | ready (n : Nat)
  | ended
  | failed (message : String)
deriving Repr, DecidableEq, Inhabited

/-- What is seen of a body through a bound. -/
def Look.upTo (bound : Nat) : Look → Look
  | .ready n => .ready (min n bound)
  | look => look

/-- A body that is being read. -/
structure BodyReader where
  /-- The bytes that are left of the chunk in hand. -/
  inHand : Nat
  /-- What comes behind that chunk. -/
  parts : List BodyPart
deriving Repr, DecidableEq, Inhabited

namespace BodyReader

/-- Nothing read yet. -/
def start (body : List BodyPart) : BodyReader := ⟨0, body⟩

/-- Take the next chunk that is not empty in hand. -/
def pull : List BodyPart → Look × BodyReader
  | [] => (.ended, ⟨0, []⟩)
  | .broken message :: rest => (.failed message, ⟨0, rest⟩)
  | .data n :: rest => if n = 0 then pull rest else (.ready n, ⟨n, rest⟩)

/-- Look at the bytes that are ready. -/
def fill (r : BodyReader) : Look × BodyReader :=
  if r.inHand = 0 then pull r.parts else (.ready r.inHand, r)

/-- Give up bytes of the chunk in hand. -/
def consume (n : Nat) (r : BodyReader) : BodyReader := { r with inHand := r.inHand - n }

theorem pull_ready {parts : List BodyPart} {n : Nat} {r : BodyReader} (h : pull parts = (.ready n, r)) :
    0 < n ∧ n = r.inHand := by
  induction parts with
  | nil => simp [pull] at h
  | cons part rest ih =>
    cases part with
    | broken message => simp [pull] at h
    | data m =>
      rw [pull] at h
      split at h
      · exact ih h
      · simp only [Prod.mk.injEq, Look.ready.injEq] at h
        obtain ⟨rfl, rfl⟩ := h
        exact ⟨by omega, rfl⟩

theorem fill_ready {r r' : BodyReader} {n : Nat} (h : r.fill = (.ready n, r')) : 0 < n ∧ n = r'.inHand := by
  unfold fill at h
  split at h
  · exact pull_ready h
  · simp only [Prod.mk.injEq, Look.ready.injEq] at h
    obtain ⟨rfl, rfl⟩ := h
    exact ⟨by omega, rfl⟩

end BodyReader

/-- A body of which only so many more bytes are read. -/
structure BoundedBody where
  reader : BodyReader
  left : Nat
deriving Repr, DecidableEq, Inhabited

namespace BoundedBody

/-- Look at the bytes that are ready, as far as the bound goes. -/
def fill (b : BoundedBody) : Look × BoundedBody :=
  if b.left = 0 then (.ended, b)
  else
    let (look, r) := b.reader.fill
    (look.upTo b.left, { b with reader := r })

/-- Give up bytes, as far as the bound goes. -/
def consume (n : Nat) (b : BoundedBody) : BoundedBody :=
  ⟨b.reader.consume (min n b.left), b.left - min n b.left⟩

theorem fill_ready {b b' : BoundedBody} {n : Nat} (h : b.fill = (.ready n, b')) :
    0 < n ∧ n ≤ b.left ∧ b'.left = b.left := by
  unfold fill at h
  split at h
  · simp at h
  · simp only [Prod.mk.injEq] at h
    obtain ⟨hlook, rfl⟩ := h
    rcases hf : b.reader.fill with ⟨look, r⟩
    rw [hf] at hlook
    cases look with
    | ready m =>
      have hm := (BodyReader.fill_ready hf).1
      simp only [Look.upTo, Look.ready.injEq] at hlook
      subst hlook
      exact ⟨by omega, by omega, rfl⟩
    | ended => simp [Look.upTo] at hlook
    | failed message => simp [Look.upTo] at hlook

/-- Read to the end under a meter, and throw the bytes away. The result is the meter and the failure, if
one was met. Every pass brings the bound closer. -/
def drain {ρ : Type} (now : Instant) (b : BoundedBody) (meter : Meter ρ) : Meter ρ × Option String :=
  let meter := meter.touch now
  match _h : b.fill with
  | (.ended, _) => (meter, none)
  | (.failed message, _) => (meter, some message)
  | (.ready n, b') => drain now (b'.consume n) (meter.add now n)
termination_by b.left
decreasing_by
  have := fill_ready _h
  simp only [consume]
  omega

end BoundedBody

end Goodput.Http
