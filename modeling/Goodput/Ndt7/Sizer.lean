/-!
# Adaptive message sizes

The messages of a download session grow with what was already sent: the size doubles as soon as the
bytes sent reach sixteen times the size, and stops at a cap.
-/

namespace Goodput.Ndt7

/-- The size of the first message of a session. -/
def initialMessageSize : Nat := 8192

/-- No message is larger than this. -/
def maxMessageSize : Nat := 8388608

/-- The size doubles once the bytes sent reach this many times the size. -/
def scalingFraction : Nat := 16

/-- The current message size and its cap. -/
structure MessageSizer where
  size : Nat
  cap : Nat
deriving Repr, DecidableEq, Inhabited

namespace MessageSizer

/-- Start at `initial`, kept between one and the cap; the cap is at least one. -/
def new (initial cap : Nat) : MessageSizer :=
  let cap := max cap 1
  ⟨min (max initial 1) cap, cap⟩

def standard : MessageSizer := new initialMessageSize maxMessageSize

/-- A total of `sent` bytes lets the size grow. -/
def grows (s : MessageSizer) (sent : Nat) : Bool :=
  decide (s.size < s.cap) && decide (s.size * scalingFraction ≤ sent)

/-- Take note of the bytes sent so far: whether the size changed, and the sizer afterwards. -/
def observe (s : MessageSizer) (sent : Nat) : Bool × MessageSizer :=
  if s.grows sent then (true, { s with size := min (s.size * 2) s.cap }) else (false, s)

/-- Take note of totals in order. -/
def observeAll (s : MessageSizer) : List Nat → List (Bool × MessageSizer)
  | [] => []
  | sent :: rest =>
    let (changed, s) := s.observe sent
    (changed, s) :: observeAll s rest

/-- A change of size during a flood: after which message, at how many bytes, to which size. -/
structure Change where
  message : Nat
  sent : Nat
  size : Nat
deriving Repr, DecidableEq, Inhabited

/-- Send `n` messages of the current size one after another, the first of them numbered `i`: the bytes
sent in the end, the sizer then, and the changes on the way. -/
def flood : Nat → Nat → Nat → MessageSizer → Nat × MessageSizer × List Change
  | 0, _, sent, s => (sent, s, [])
  | n + 1, i, sent, s =>
    let sent := sent + s.size
    let (changed, s) := s.observe sent
    let (total, last, changes) := flood n (i + 1) sent s
    (total, last, if changed then ⟨i, sent, s.size⟩ :: changes else changes)

end MessageSizer

end Goodput.Ndt7
