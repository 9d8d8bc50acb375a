import Goodput.Number.Binary64
/-!
# Lengths of time

A span is a whole number of nanoseconds. It is shown in seconds with three decimals, logged in whole
milliseconds, and reported in whole microseconds.
-/

namespace Goodput

/-- A length of time in nanoseconds. -/
structure Span where
  nanos : Nat
deriving Repr, DecidableEq, Inhabited

namespace Span

def zero : Span := ⟨0⟩

def ofSecs (n : Nat) : Span := ⟨n * 1000000000⟩

def ofMillis (n : Nat) : Span := ⟨n * 1000000⟩

/-- Seconds and nanoseconds together. -/
def ofParts (secs nanos : Nat) : Span := ⟨secs * 1000000000 + nanos⟩

def secs (d : Span) : Nat := d.nanos / 1000000000

/-- The nanoseconds beyond the whole seconds. -/
def subsecNanos (d : Span) : Nat := d.nanos % 1000000000

def millis (d : Span) : Nat := d.nanos / 1000000

def micros (d : Span) : Nat := d.nanos / 1000

/-- The milliseconds as a log field holds them: the low 64 bits. -/
def loggedMillis (d : Span) : Nat := d.millis % UInt64.size

/-- The seconds as a binary64: the whole seconds and the fraction are rounded, then their sum. -/
def toSeconds (d : Span) : Binary64 :=
  (Binary64.ofNat d.secs).add (Binary64.ofQuotient d.subsecNanos 1000000000)

/-- The seconds with three decimals and the unit. -/
def text (d : Span) : String := d.toSeconds.toThreeDecimals ++ "s"

end Span

end Goodput
