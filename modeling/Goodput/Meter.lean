import Goodput.Transfer.Basic
/-!
# Meters

A meter counts the bytes of one transfer and measures the time from its first use until it is closed.
Whoever opened it may leave a listener, which is told the final numbers exactly once: closing takes the
listener out, so a second closing, and the disposal of a meter that was closed before, tell nobody.

Clock readings are arguments. Everything else follows from them, so a meter is a plain value.

A count is a word of 64 bits: a sum that leaves it wraps around (`Meter.add`). `Meter.tally` counts without that
limit, for those who cannot come near it.
-/

namespace Goodput

/-- A reading of a clock that only goes forward, in nanoseconds. -/
structure Instant where
  nanos : Nat
deriving Repr, DecidableEq, Inhabited

namespace Instant

/-- The reading at which a clock starts. -/
def origin : Instant := ⟨0⟩

/-- The time from an earlier reading to this one. -/
def since (now start : Instant) : Span := ⟨now.nanos - start.nanos⟩

def after (start : Instant) (d : Span) : Instant := ⟨start.nanos + d.nanos⟩

/-- One reading is at or after another. -/
def reached (now goal : Instant) : Bool := decide (goal.nanos ≤ now.nanos)

end Instant

/-- A running count of bytes and time. `ρ` is what a listener is known by. -/
structure Meter (ρ : Type) where
  bytes : Nat
  /-- When the meter was first used. -/
  startedAt : Option Instant
  /-- Who is told when the meter closes. -/
  listener : Option ρ
deriving Repr, DecidableEq, Inhabited

namespace Meter

variable {ρ : Type}

/-- A meter that nobody listens to. -/
def silent : Meter ρ := ⟨0, none, none⟩

/-- A meter that tells `listener` its final numbers. -/
def withListener (listener : ρ) : Meter ρ := ⟨0, none, some listener⟩

/-- Start the clock if it is not running. -/
def touch (now : Instant) (m : Meter ρ) : Meter ρ :=
  match m.startedAt with
  | some _ => m
  | none => { m with startedAt := some now }

/-- Count bytes, in a word that wraps around. -/
def add (now : Instant) (n : Nat) (m : Meter ρ) : Meter ρ :=
  let m := m.touch now
  { m with bytes := (UInt64.ofNat m.bytes + UInt64.ofNat n).toNat }

/-- Count bytes, however many they come to. -/
def tally (now : Instant) (n : Nat) (m : Meter ρ) : Meter ρ :=
  let m := m.touch now
  { m with bytes := m.bytes + n }

/-- The time since the first use. -/
def elapsed (now : Instant) (m : Meter ρ) : Span :=
  match m.startedAt with
  | none => .zero
  | some start => now.since start

def stats (now : Instant) (m : Meter ρ) : TransferStats := ⟨m.bytes, m.elapsed now⟩

/-- The report to the listener that is still there. -/
def report? (now : Instant) (m : Meter ρ) : Option (ρ × TransferStats) :=
  m.listener.map fun listener => (listener, m.stats now)

/-- Close the meter: its final numbers, the report, and the meter that is left to dispose of. -/
def finish (now : Instant) (m : Meter ρ) : TransferStats × Option (ρ × TransferStats) × Meter ρ :=
  (m.stats now, m.report? now, { m with listener := none })

/-- Dispose of the meter, which closes it if that was not done before. -/
def dispose (now : Instant) (m : Meter ρ) : Option (ρ × TransferStats) := m.report? now

end Meter

end Goodput
