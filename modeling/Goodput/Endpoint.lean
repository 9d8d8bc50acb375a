import Goodput.Event
import Goodput.Meter
import Goodput.Size
/-!
# Endpoints and their open transfers

Every transport begins a transfer in the same way: the request is logged and a meter is opened that
reports the request's end when it closes, by whatever path. `Ledger` is one log with the meters of all
transfers that were begun on it, whose operations may come in any order.
-/

namespace Goodput

/-- What the report of a transfer needs to know besides its numbers. -/
structure TransferTag where
  request : TransferRequest
  range : Option ByteRange
  conn : Conn
deriving Repr, DecidableEq, Inhabited

namespace TransferTag

def received (t : TransferTag) : Event := .requestReceived t.request t.range t.conn

def done (t : TransferTag) (stats : TransferStats) : Event :=
  .requestDone ⟨t.request, t.range, t.conn, stats⟩

/-- The meter of a transfer that was just begun. -/
def meter (t : TransferTag) : Meter TransferTag := .withListener t

end TransferTag

/-- The events of a report, of which there is at most one. -/
def reportEvents : Option (TransferTag × TransferStats) → List Event
  | none => []
  | some (tag, stats) => [tag.done stats]

/-- A log and the meters of the transfers begun on it, by the order in which they were begun. A meter
that was closed leaves an empty place. -/
structure Ledger where
  log : List Event
  meters : List (Option (Meter TransferTag))
deriving Repr, DecidableEq, Inhabited

namespace Ledger

/-- Nothing logged and nothing begun. -/
def empty : Ledger := ⟨[], []⟩

/-- The meter at a place, if it is open. -/
def meter? (l : Ledger) (i : Nat) : Option (Meter TransferTag) := (l.meters[i]?).join

def record (e : Event) (l : Ledger) : Ledger := { l with log := l.log ++ [e] }

/-- Start a transfer. Its place is the number of those begun before. -/
def start (tag : TransferTag) (l : Ledger) : Ledger :=
  { log := l.log ++ [tag.received], meters := l.meters ++ [some tag.meter] }

/-- Change the meter at a place, if it is open. -/
def modify (i : Nat) (f : Meter TransferTag → Meter TransferTag) (l : Ledger) : Ledger :=
  match l.meter? i with
  | none => l
  | some m => { l with meters := l.meters.set i (some (f m)) }

def touch (now : Instant) (i : Nat) (l : Ledger) : Ledger := l.modify i (·.touch now)

def add (now : Instant) (i n : Nat) (l : Ledger) : Ledger := l.modify i (·.add now n)

/-- Close a transfer and return its final numbers, if it was open. What is left of the meter is
disposed of, which adds nothing to the log. -/
def finish (now : Instant) (i : Nat) (l : Ledger) : Option TransferStats × Ledger :=
  match l.meter? i with
  | none => (none, l)
  | some m =>
    let (stats, report, rest) := m.finish now
    (some stats,
      { log := l.log ++ reportEvents report ++ reportEvents (rest.dispose now),
        meters := l.meters.set i none })

/-- Abandon a transfer, which closes its meter. -/
def abandon (now : Instant) (i : Nat) (l : Ledger) : Ledger :=
  match l.meter? i with
  | none => l
  | some m => { log := l.log ++ reportEvents (m.dispose now), meters := l.meters.set i none }

/-- The outcomes of the transfers that ended, in the order in which they ended. -/
def completions (l : Ledger) : List TransferOutcome := Event.completions l.log

end Ledger

/-- One operation on a ledger. -/
inductive LedgerOp where
  | record (e : Event)
  | start (tag : TransferTag)
  | touch (i : Nat)
  | add (i n : Nat)
  | finish (i : Nat)
  | abandon (i : Nat)
deriving Repr, DecidableEq, Inhabited

namespace Ledger

/-- The ledger after one operation at a clock reading. -/
def apply (l : Ledger) (now : Instant) : LedgerOp → Ledger
  | .record e => l.record e
  | .start tag => l.start tag
  | .touch i => l.touch now i
  | .add i n => l.add now i n
  | .finish i => (l.finish now i).2
  | .abandon i => l.abandon now i

/-- The ledger after operations in order, each at its clock reading. -/
def run (l : Ledger) (ops : List (Instant × LedgerOp)) : Ledger :=
  ops.foldl (fun l (now, op) => l.apply now op) l

end Ledger

end Goodput
