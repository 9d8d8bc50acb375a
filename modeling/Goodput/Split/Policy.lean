import Goodput.Split.Partition
import Goodput.Split.StreamCount
/-!
# The split policy

Large transfers are cut into byte ranges that a client asks for at the same time. The policy says from
which size on that happens and how many streams are used: the automatic count doubles until the
partitions are at or below the target, and stops at the cap.
-/

namespace Goodput

/-- The tunables of splitting. -/
structure SplitPolicy where
  /-- Transfers up to this size are never split. -/
  threshold : Nat := 268435456
  /-- The automatic count keeps partitions at or below this size. -/
  targetPartition : Nat := 268435456
  /-- The cap of the automatic count. -/
  maxStreams : Nat := 16
deriving Repr, DecidableEq, Inhabited

namespace SplitPolicy

/-- The cap of the automatic count, kept between one and the limit on streams. -/
def cap (p : SplitPolicy) : Nat := min (max p.maxStreams 1) Goodput.maxStreams

/-- The partition size that the automatic count aims at; at least one byte. -/
def target (p : SplitPolicy) : Nat := max p.targetPartition 1

/-- `total / count`, rounded up. -/
def ceilDiv (total count : Nat) : Nat := (total + count - 1) / count

/-- Double `count` while it is below the cap and leaves partitions above the target. Each doubling
halves the distance to the cap at least, so the cap bounds the number of steps. -/
def doubled (cap target total : Nat) : Nat → Nat → Nat
  | 0, count => count
  | steps + 1, count =>
    if count < cap ∧ target < ceilDiv total count then doubled cap target total steps (count * 2)
    else count

/-- The number of streams for a transfer of `total` bytes. -/
def streamCount (p : SplitPolicy) (total : Nat) (mode : StreamCount) : Nat :=
  if total ≤ p.threshold then 1
  else
    match mode with
    | .fixed n => max n 1
    | .auto => min (doubled p.cap p.target total p.cap 1) p.cap

/-- The partitions of a transfer of `total` bytes. -/
def plan (p : SplitPolicy) (total : Nat) (mode : StreamCount) : List Partition :=
  partition total (p.streamCount total mode)

end SplitPolicy

end Goodput
