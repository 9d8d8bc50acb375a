import Goodput.Transfer.Basic
import Goodput.Conn
/-!
# Outcomes

A finished or abandoned transfer is judged by how many bytes it had to move: the length of its range if
it asked for one, else the size it asked for. A transfer over a window of time is always complete.
-/

namespace Goodput

structure TransferOutcome where
  request : TransferRequest
  /-- The range of the whole that was asked for, if any. -/
  range : Option ByteRange
  conn : Conn
  stats : TransferStats
deriving Repr, DecidableEq, Inhabited

namespace TransferOutcome

/-- The number of bytes the transfer had to reach, if it has a size. -/
def expected (o : TransferOutcome) : Option Nat :=
  match o.range, o.request.extent with
  | some range, _ => some range.len
  | none, .bytes n => some n
  | none, .window _ => none

/-- The transfer moved what it had to. -/
def isComplete (o : TransferOutcome) : Bool :=
  match o.expected with
  | none => true
  | some n => o.stats.bytes == n

end TransferOutcome

end Goodput
