/-!
# Byte streams

A byte stream answers seven kinds of calls: four that read (`read` into a buffer, `fill` and `consume`
on a buffer of its own, `next` for a chunk), and three that write (`write`, `flush`, `shutdown`). A call
that cannot be answered yet is pending and is made again later.

`ByteStream.answer` is the whole behaviour of a stream, as a function of its state. `Call` and `Answer`
give runs of calls a form that statements can quantify over.
-/

namespace Goodput

/-- The answer to a call that may have to wait or fail. -/
inductive Poll (α : Type) where
  | pending
  | failed (message : String)
  | ready (a : α)
deriving Repr, DecidableEq, Inhabited

/-- The value of an answer, if there is one. -/
def Poll.value? {α : Type} : Poll α → Option α
  | .ready a => some a
  | _ => none

/-- A buffer that is being filled from the left. -/
structure ReadBuffer where
  filled : List UInt8
  capacity : Nat
deriving Repr, DecidableEq, Inhabited

namespace ReadBuffer

/-- How many bytes still fit. -/
def room (b : ReadBuffer) : Nat := b.capacity - b.filled.length

/-- The buffer after as many of the bytes as fit are put behind those it holds. -/
def put (bytes : List UInt8) (b : ReadBuffer) : ReadBuffer :=
  { b with filled := b.filled ++ bytes.take b.room }

end ReadBuffer

/-- A stream of bytes over states of type `σ`. -/
structure ByteStream (σ : Type) where
  /-- Put bytes into a buffer; a stream that has ended puts none. -/
  read : ReadBuffer → σ → Poll Unit × ReadBuffer × σ
  /-- The bytes that the stream holds ready; none at its end. -/
  fill : σ → Poll (List UInt8) × σ
  /-- Give up bytes that were seen by `fill`. -/
  consume : Nat → σ → σ
  /-- Take bytes, and tell how many of them. -/
  write : List UInt8 → σ → Poll Nat × σ
  flush : σ → Poll Unit × σ
  shutdown : σ → Poll Unit × σ
  /-- The next chunk, or nothing at the end. -/
  next : σ → Poll (Option (List UInt8)) × σ
  /-- Bounds for the number of chunks to come. -/
  sizeHint : σ → Nat × Option Nat

/-- A call to a byte stream. -/
inductive Call where
  | read (buffer : ReadBuffer)
  | fill
  | consume (n : Nat)
  | write (data : List UInt8)
  | flush
  | shutdown
  | next
deriving Repr, DecidableEq, Inhabited

inductive Answer where
  | read (poll : Poll Unit) (buffer : ReadBuffer)
  | fill (poll : Poll (List UInt8))
  | consumed
  | write (poll : Poll Nat)
  | flush (poll : Poll Unit)
  | shutdown (poll : Poll Unit)
  | next (poll : Poll (Option (List UInt8)))
deriving Repr, DecidableEq, Inhabited

namespace ByteStream

variable {σ : Type}

def answer (s : ByteStream σ) (st : σ) : Call → Answer × σ
  | .read buffer =>
    let (poll, buffer, st) := s.read buffer st
    (.read poll buffer, st)
  | .fill =>
    let (poll, st) := s.fill st
    (.fill poll, st)
  | .consume n => (.consumed, s.consume n st)
  | .write data =>
    let (poll, st) := s.write data st
    (.write poll, st)
  | .flush =>
    let (poll, st) := s.flush st
    (.flush poll, st)
  | .shutdown =>
    let (poll, st) := s.shutdown st
    (.shutdown poll, st)
  | .next =>
    let (poll, st) := s.next st
    (.next poll, st)

def run (s : ByteStream σ) (st : σ) : List Call → List Answer × σ
  | [] => ([], st)
  | call :: calls =>
    let (a, st) := s.answer st call
    let (as, st) := s.run st calls
    (a :: as, st)

end ByteStream

end Goodput
