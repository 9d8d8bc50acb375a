import Goodput.Text.Blank
import Goodput.Text.Decimal
import Goodput.Text.Quoted
/-!
# How many streams a transfer uses

A stream count is either chosen for each transfer from its size or fixed to a power of two. It comes
from a flag or a query as text; `StreamCount.text` is the text that reads back as the same count.
-/

namespace Goodput

/-- The most streams that one transfer may use. -/
def maxStreams : Nat := 16

/-- The requested number of streams. -/
inductive StreamCount where
  /-- Chosen from the size of the transfer. -/
  | auto
  /-- Always this many. -/
  | fixed (n : Nat)
deriving Repr, DecidableEq, Inhabited

/-- Why a text or a number is no stream count. -/
inductive StreamCountError where
  | notANumber (text : String)
  | outOfRange (n : Nat)
deriving Repr, DecidableEq

def StreamCountError.message : StreamCountError → String
  | .notANumber text => "stream count must be `auto` or a number, got " ++ Text.quote text
  | .outOfRange n => s!"stream count {n} is not a power of two between 1 and {maxStreams}"

/-- A power of two: it is two to the power of its logarithm, which is rounded down. -/
def isPowerOfTwo (n : Nat) : Bool := decide (0 < n) && (Nat.pow 2 (Nat.log2 n) == n)

namespace StreamCount

/-- A fixed count, which must be a power of two up to the limit. -/
def ofNat (n : Nat) : Except StreamCountError StreamCount :=
  if isPowerOfTwo n && decide (n ≤ maxStreams) then .ok (.fixed n) else .error (.outOfRange n)

/-- Read a stream count; white space around it does not matter. -/
def parse (text : String) : Except StreamCountError StreamCount :=
  let cs := Text.trim text.toList
  if Text.sameIgnoringCase cs "auto".toList then .ok .auto
  else
    match Decimal.parseSigned? UInt32.size cs with
    | none => .error (.notANumber (String.ofList cs))
    | some n => ofNat n

def text : StreamCount → String
  | .auto => "auto"
  | .fixed n => toString n

end StreamCount

end Goodput
