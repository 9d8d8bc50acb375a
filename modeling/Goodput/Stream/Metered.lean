import Goodput.Meter
import Goodput.Stream.Basic
/-!
# Metered streams

A metered stream passes every call on to an inner stream, answers what the inner stream answers, and
feeds a meter with the bytes that go through: what a successful read put into the buffer, what is
consumed (not what is merely seen by `fill`), what a successful write took, and the length of a chunk. What
a read put there is the difference of two lengths, and wraps around in a word if the inner stream took bytes
back.

Any call that can move bytes starts the clock, also one that is pending or fails; `flush` and
`shutdown` do not.
-/

namespace Goodput

/-- The state of an inner stream with the meter that watches it. -/
structure Metered (σ ρ : Type) where
  inner : σ
  meter : Meter ρ
deriving Repr, DecidableEq, Inhabited

namespace Metered

variable {σ ρ : Type}

/-- How much longer a buffer became, in words. -/
def grownBy (before after : ReadBuffer) : Nat :=
  (UInt64.ofNat after.filled.length - UInt64.ofNat before.filled.length).toNat

/-- Read through: count what the inner stream added to the buffer. -/
def read (s : ByteStream σ) (now : Instant) (buffer : ReadBuffer) (m : Metered σ ρ) :
    Poll Unit × ReadBuffer × Metered σ ρ :=
  let meter := m.meter.touch now
  let (poll, after, inner) := s.read buffer m.inner
  match poll with
  | .ready () => (poll, after, ⟨inner, meter.add now (grownBy buffer after)⟩)
  | _ => (poll, after, ⟨inner, meter⟩)

/-- Look at the bytes that are ready: nothing is counted yet. -/
def fill (s : ByteStream σ) (now : Instant) (m : Metered σ ρ) : Poll (List UInt8) × Metered σ ρ :=
  let meter := m.meter.touch now
  let (poll, inner) := s.fill m.inner
  (poll, ⟨inner, meter⟩)

/-- Give up bytes: they count now, whatever the inner stream makes of them. -/
def consume (s : ByteStream σ) (now : Instant) (n : Nat) (m : Metered σ ρ) : Metered σ ρ :=
  ⟨s.consume n m.inner, m.meter.add now n⟩

/-- Write through: count what the inner stream took. -/
def write (s : ByteStream σ) (now : Instant) (data : List UInt8) (m : Metered σ ρ) :
    Poll Nat × Metered σ ρ :=
  let meter := m.meter.touch now
  let (poll, inner) := s.write data m.inner
  match poll with
  | .ready n => (poll, ⟨inner, meter.add now n⟩)
  | _ => (poll, ⟨inner, meter⟩)

def flush (s : ByteStream σ) (m : Metered σ ρ) : Poll Unit × Metered σ ρ :=
  let (poll, inner) := s.flush m.inner
  (poll, { m with inner })

def shutdown (s : ByteStream σ) (m : Metered σ ρ) : Poll Unit × Metered σ ρ :=
  let (poll, inner) := s.shutdown m.inner
  (poll, { m with inner })

/-- Take the next chunk: count its length. -/
def next (s : ByteStream σ) (now : Instant) (m : Metered σ ρ) :
    Poll (Option (List UInt8)) × Metered σ ρ :=
  let meter := m.meter.touch now
  let (poll, inner) := s.next m.inner
  match poll with
  | .ready (some chunk) => (poll, ⟨inner, meter.add now chunk.length⟩)
  | _ => (poll, ⟨inner, meter⟩)

/-- Answer one call at a clock reading. -/
def answer (s : ByteStream σ) (now : Instant) (m : Metered σ ρ) : Call → Answer × Metered σ ρ
  | .read buffer =>
    let (poll, buffer, m) := m.read s now buffer
    (.read poll buffer, m)
  | .fill =>
    let (poll, m) := m.fill s now
    (.fill poll, m)
  | .consume n => (.consumed, m.consume s now n)
  | .write data =>
    let (poll, m) := m.write s now data
    (.write poll, m)
  | .flush =>
    let (poll, m) := m.flush s
    (.flush poll, m)
  | .shutdown =>
    let (poll, m) := m.shutdown s
    (.shutdown poll, m)
  | .next =>
    let (poll, m) := m.next s now
    (.next poll, m)

/-- Answer calls in order, each at its own clock reading. -/
def run (s : ByteStream σ) (m : Metered σ ρ) : List (Instant × Call) → List Answer × Metered σ ρ
  | [] => ([], m)
  | (now, call) :: calls =>
    let (a, m) := m.answer s now call
    let (as, m) := m.run s calls
    (a :: as, m)

/-- Drop the inner stream and close the meter. -/
def finish (now : Instant) (m : Metered σ ρ) : TransferStats × Option (ρ × TransferStats) × Meter ρ :=
  m.meter.finish now

end Metered

end Goodput
