import Goodput.Split.ByteRange
/-!
# Cutting a transfer into partitions

`partition total count` cuts `total` bytes into contiguous partitions of equal length, except that the
last one also takes the remainder. No partition is empty unless the transfer is.
-/

namespace Goodput

/-- One piece of a split transfer. -/
structure Partition where
  /-- The size of the whole transfer. -/
  parent : Nat
  /-- The position of the piece, from zero. -/
  index : Nat
  /-- How many pieces there are. -/
  count : Nat
  start : Nat
  len : Nat
deriving Repr, DecidableEq, Inhabited

namespace Partition

def range (p : Partition) : ByteRange := ⟨p.start, p.len⟩

/-- The piece is the whole transfer. -/
def isWhole (p : Partition) : Bool := p.start == 0 && p.len == p.parent

end Partition

/-- The number of pieces that `total` bytes are cut into when `count` are asked for: at least one, and
no more than there are bytes. -/
def partitionCount (total count : Nat) : Nat := min (max count 1) (max total 1)

/-- Cut `total` bytes into contiguous pieces. -/
def partition (total count : Nat) : List Partition :=
  let k := partitionCount total count
  let base := total / k
  (List.range k).map fun i =>
    { parent := total, index := i, count := k, start := base * i,
      len := if i + 1 = k then total - base * i else base }

end Goodput
